import LineGrammar.Conversion

/-! # Arguments of the command line

The arguments are read from left to right.  One that starts with a hyphen is a switch or an option,
where the value of an option is part of the same argument or is the next one; two hyphens end the
options; any other argument is the file to convert.  Nothing may be given twice.  A request for the
version or for help counts at once, and what follows it is not read. -/

namespace LineGrammar

/-- What is asked for on the command line. -/
inductive Request where
  | convert (conversion : Conversion)
  | version
  | help

namespace Command

inductive ValueOption where
  | output
  | mode
  | samples
  | seed
  | maxRepeat
  | entrypoint
  deriving DecidableEq, Repr

inductive Switch where
  | spacing
  | print
  | version
  | help
  deriving DecidableEq, Repr

/-- An argument, taken by itself. -/
inductive Argument where
  | operand (path : Text)
  | endOfOptions
  | switch (s : Switch)
  | option (o : ValueOption) (value : Option Text)
  deriving DecidableEq, Repr

def longOptions : List (Text × ValueOption) :=
  [("output".toList, .output), ("mode".toList, .mode), ("samples".toList, .samples),
    ("seed".toList, .seed), ("max-repeat".toList, .maxRepeat), ("entrypoint".toList, .entrypoint)]

def longSwitches : List (Text × Switch) :=
  [("spacing".toList, .spacing), ("print".toList, .print), ("version".toList, .version),
    ("help".toList, .help)]

/-- An argument after its two hyphens.  The first equals sign ends the name; a switch has none. -/
def Argument.ofLong (t : Text) : Option Argument :=
  let name := t.takeWhile (· != '=')
  let value := (t.dropWhile (· != '=')).tail?
  match longOptions.lookup name, longSwitches.lookup name, value with
  | some o, _, value => some (.option o value)
  | none, some s, none => some (.switch s)
  | none, _, _ => none

/-- The value that is part of a short option.  An equals sign in front of it does not count. -/
def shortValue : Text → Option Text
  | [] => none
  | c :: t => some (if c = '=' then t else c :: t)

/-- An argument after its one hyphen. -/
def Argument.ofShort : Text → Option Argument
  | [] => none
  | c :: t =>
    if c = 'o' then some (.option .output (shortValue t))
    else if c = 'e' then some (.option .entrypoint (shortValue t))
    else if c = 'V' then some (.switch .version)
    else if c = 'h' then some (.switch .help)
    else none

/-- An argument.  A hyphen alone is an operand. -/
def Argument.ofText : Text → Option Argument
  | ['-'] => some (.operand ['-'])
  | ['-', '-'] => some .endOfOptions
  | '-' :: '-' :: t => ofLong t
  | '-' :: t => ofShort t
  | t => some (.operand t)

/-- Whether an argument may be the value of the option before it. -/
def isValue (t : Text) : Bool := t.head? != some '-' || t == ['-']

/-! ### Values -/

def modeOf? (t : Text) : Option Mode :=
  [("plain".toList, Mode.plain), ("single".toList, .single), ("multi".toList, .multi)].lookup t

def digitsValue? (t : Text) : Option Nat :=
  if t.isEmpty || t.any (fun c => !c.isDigit) then none
  else some (t.foldl (fun n c => n * 10 + (c.toNat - 0x30)) 0)

/-- The number that the values of most options have to stay below: there are 64 bits for them. -/
def wordLimit : Nat := 18446744073709551616

/-- The number that a bound for repetitions has to stay below: there are 32 bits for it. -/
def halfWordLimit : Nat := 4294967296

/-- A number below `bound`, perhaps with a plus sign. -/
def numberBelow? (bound : Nat) (t : Text) : Option Nat :=
  (digitsValue? (Text.stripFirst '+' t)).filter (· < bound)

/-- A number below `bound`, perhaps with a sign.  With a minus sign it can only be zero. -/
def signedBelow? (bound : Nat) (t : Text) : Option Nat :=
  if t.head? = some '-' then numberBelow? 1 ('+' :: t.tail) else numberBelow? bound t

/-! ### All arguments -/

/-- What has been given so far. -/
structure Choices where
  input : Option Text := none
  output : Option Text := none
  mode : Option Mode := none
  spacing : Option Unit := none
  samples : Option Nat := none
  seed : Option Nat := none
  maxRepeat : Option Nat := none
  entrypoint : Option Text := none
  listing : Option Unit := none

/-- A value for a choice that has not been made yet. -/
def once {α : Type} (now value : Option α) : Option (Option α) :=
  if now.isSome then none else value.map some

namespace Choices

variable (c : Choices)

def setSwitch : Switch → Option Choices
  | .spacing => return { c with spacing := ← once c.spacing (some ()) }
  | .print => return { c with listing := ← once c.listing (some ()) }
  | .version | .help => some c

def setOption (value : Text) : ValueOption → Option Choices
  | .output => return { c with output := ← once c.output (some value) }
  | .mode => return { c with mode := ← once c.mode (modeOf? value) }
  | .samples => return { c with samples := ← once c.samples (numberBelow? wordLimit value) }
  | .seed => return { c with seed := ← once c.seed (numberBelow? wordLimit value) }
  | .maxRepeat =>
    return { c with maxRepeat := ← once c.maxRepeat (signedBelow? halfWordLimit value) }
  | .entrypoint => return { c with entrypoint := ← once c.entrypoint (some value) }

def setInput (path : Text) : Option Choices :=
  return { c with input := ← once c.input (some path) }

def conversion : Conversion :=
  let base : Conversion := {}
  { input := c.input.getD base.input
    output := c.output.getD base.output
    settings.mode := c.mode.getD base.settings.mode
    settings.spacing := c.spacing.isSome
    settings.samples := c.samples.getD base.settings.samples
    seed := c.seed.map UInt64.ofNat
    maxRepeat := c.maxRepeat.getD base.maxRepeat
    document.entrypoint := c.entrypoint.getD base.document.entrypoint
    listing := c.listing.isSome }

def read : List Text → Choices → Option Request
  | [], c => some (.convert c.conversion)
  | arg :: rest, c =>
    match Argument.ofText arg with
    | none => none
    | some (.operand path) => do read rest (← c.setInput path)
    | some .endOfOptions => do return .convert (← rest.foldlM setInput c).conversion
    | some (.switch .version) => some .version
    | some (.switch .help) => some .help
    | some (.switch s) => do read rest (← c.setSwitch s)
    | some (.option o (some value)) => do read rest (← c.setOption value o)
    | some (.option o none) =>
      match rest with
      | [] => none
      | value :: rest => if isValue value then do read rest (← c.setOption value o) else none

end Choices
end Command

/-- What arguments ask for, if they can be understood. -/
def Request.ofArguments (args : List Text) : Option Request := Command.Choices.read args {}

end LineGrammar
