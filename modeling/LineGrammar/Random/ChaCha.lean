import LineGrammar.Random

/-! # ChaCha

The stream cipher ChaCha with twelve rounds as a source of randomness.  A block of sixteen words is
made of four constants, the eight words of the key and a counter of 64 bits; the words of block
after block are the stream (`ChaCha.ofKey`).  The key may be stretched from a seed of 64 bits
(`ChaCha.ofSeed`), so equal seeds yield equal streams. -/

namespace LineGrammar

namespace ChaCha

structure Row where
  a : UInt32
  b : UInt32
  c : UInt32
  d : UInt32
  deriving DecidableEq, Repr

namespace Row

@[inline] def add (r s : Row) : Row := ⟨r.a + s.a, r.b + s.b, r.c + s.c, r.d + s.d⟩

@[inline] def xor (r s : Row) : Row := ⟨r.a ^^^ s.a, r.b ^^^ s.b, r.c ^^^ s.c, r.d ^^^ s.d⟩

/-- A word whose bits are moved up by `n` places, around the end. -/
@[inline] def rollWord (n w : UInt32) : UInt32 := (w <<< n) ||| (w >>> (32 - n))

@[inline] def roll (n : UInt32) (r : Row) : Row :=
  ⟨rollWord n r.a, rollWord n r.b, rollWord n r.c, rollWord n r.d⟩

/-- The words moved one place to the front, around the end. -/
@[inline] def turn (r : Row) : Row := ⟨r.b, r.c, r.d, r.a⟩

def words (r : Row) : List UInt32 := [r.a, r.b, r.c, r.d]

end Row

structure Block where
  a : Row
  b : Row
  c : Row
  d : Row
  deriving DecidableEq, Repr

namespace Block

def words (s : Block) : List UInt32 := s.a.words ++ s.b.words ++ s.c.words ++ s.d.words

def add (s t : Block) : Block := ⟨s.a.add t.a, s.b.add t.b, s.c.add t.c, s.d.add t.d⟩

/-- A round on the columns of a block. -/
@[inline] def mixColumns (s : Block) : Block :=
  let a := s.a.add s.b
  let d := (s.d.xor a).roll 16
  let c := s.c.add d
  let b := (s.b.xor c).roll 12
  let a := a.add b
  let d := (d.xor a).roll 8
  let c := c.add d
  let b := (b.xor c).roll 7
  ⟨a, b, c, d⟩

/-- A round on the columns and one on the diagonals of a block. -/
def mix (s : Block) : Block :=
  let s := s.mixColumns
  let s := mixColumns ⟨s.a, s.b.turn, s.c.turn.turn, s.d.turn.turn.turn⟩
  ⟨s.a, s.b.turn.turn.turn, s.c.turn.turn, s.d.turn⟩

/-- A block after twelve rounds, added to itself as it was before. -/
def scramble (s : Block) : Block := s.add s.mix.mix.mix.mix.mix.mix

end Block

def constants : Row := ⟨0x61707865, 0x3320646e, 0x79622d32, 0x6b206574⟩

/-- The next state of the generator that stretches a seed. -/
def advance (state : UInt64) : UInt64 := state * 6364136223846793005 + 11634580027462260723

/-- The word that a state of that generator yields: its upper half, mixed and turned as far down as
the highest bits say. -/
def yieldWord (state : UInt64) : UInt32 :=
  let mixed := ((state >>> 18) ^^^ state) >>> 27
  let places := state >>> 59
  Row.rollWord (32 - places.toUInt32) mixed.toUInt32

/-- The first four words that follow a state, and the state after them. -/
def stretch (state : UInt64) : Row × UInt64 :=
  let s := advance state
  let t := advance s
  let u := advance t
  let v := advance u
  (⟨yieldWord s, yieldWord t, yieldWord u, yieldWord v⟩, v)

structure Key where
  low : Row
  high : Row
  deriving DecidableEq, Repr

/-- The key that a seed is stretched to. -/
def Key.ofSeed (seed : UInt64) : Key :=
  let (low, state) := stretch seed
  let (high, _) := stretch state
  { low, high }

end ChaCha

/-- A place in a stream. -/
structure ChaCha where
  key : ChaCha.Key
  counter : UInt64 := 0
  /-- The words of the last one of these blocks that are still to come. -/
  pending : List UInt32 := []
  deriving DecidableEq, Repr

namespace ChaCha

def ofKey (key : Key) : ChaCha := { key }

def ofSeed (seed : UInt64) : ChaCha := .ofKey (.ofSeed seed)

/-- The next block of the stream. -/
def block (s : ChaCha) : Block :=
  Block.scramble
    ⟨constants, s.key.low, s.key.high, ⟨s.counter.toUInt32, (s.counter >>> 32).toUInt32, 0, 0⟩⟩

instance : RandomSource ChaCha where
  next s :=
    match s.pending with
    | w :: pending => (w, { s with pending })
    | [] =>
      let block := s.block
      (block.a.a, { s with counter := s.counter + 1, pending := block.words.drop 1 })

end ChaCha
end LineGrammar
