import LineGrammar.Pattern.Basic
import LineGrammar.Random

/-! # Drawing strings that match a pattern

A plan says how a string is drawn.  A choice draws one of its branches, all with the same chance,
and a class one of its members.  A repetition draws how often its body comes and then draws the body
anew each time.  A repetition of nothing but a repetition draws one number for each of the two and
multiplies them; so `(a?){2}` gives the empty text or two letters, never one.  These numbers are
kept as they are, or they have 32 bits, as have their sums and products (`Counting`).

The plan of a pattern exists unless an anchor, an empty class or a repetition whose largest number
is cut below the least one would have to be drawn (`Pattern.plan`).  What is repeated zero times at
most is never drawn. -/

namespace LineGrammar

/-- How numbers of repetitions are kept. -/
inductive Counting where
  | exact
  /-- With the bits cut off that do not fit into 32. -/
  | wrapping
  deriving DecidableEq, Repr

def Counting.keep : Counting → Nat → Nat
  | exact, n => n
  | wrapping, n => n % UInt32.size

structure CountRange where
  least : Nat
  most : Nat
  le : least ≤ most

/-- How a string is drawn. -/
inductive Plan where
  | text (t : Text)
  /-- One character of a class, of which there is one. -/
  | member (members : CharClass) (inhabited : 0 < members.set.size)
  | either (left right : Plan)
  | both (first second : Plan)
  /-- The body as often as the product of one number out of each of the ranges, the innermost of
  which comes first. -/
  | repeated (counts : List CountRange) (body : Plan)

namespace Plan

/-- One plan after another.  A plan for the empty text leaves the other one as it is. -/
def append : Plan → Plan → Plan
  | text [], q => q
  | p, text [] => p
  | text s, text t => text (s ++ t)
  | p, q => both p q

/-- A plan repeated.  The empty text repeated a fixed number of times is the empty text, and the
repetition of a repetition adds a factor to it. -/
def times (count : CountRange) : Plan → Plan
  | text [] => if count.least = count.most then text [] else repeated [count] (text [])
  | repeated counts body => repeated (counts ++ [count]) body
  | p => repeated [count] p

/-- The number of branches of a choice, counting those of the choices that it consists of. -/
def branches : Plan → Nat
  | either p q => p.branches + q.branches
  | _ => 1

end Plan

/-- Why there is no plan for a pattern. -/
inductive PlanFault where
  /-- An anchor or a word boundary, for which an error is reported. -/
  | anchor
  /-- A character class without members, which ends the program. -/
  | emptyClass
  /-- The largest count of a repetition does not fit into 32 bits, and is less than the least one
  without the bits that are cut off.  This ends the program. -/
  | countOverflow
  deriving DecidableEq, Repr

/-- The plan of a pattern.  A repetition without an upper bound comes at most `maxRepeat` times more
than it has to. -/
def Pattern.plan (counting : Counting) (maxRepeat : Nat) : Pattern → Except PlanFault Plan
  | text t => .ok (.text t)
  | one members _ =>
    if inhabited : 0 < members.set.size then .ok (.member members inhabited)
    else .error .emptyClass
  | anchor _ => .error .anchor
  | seq p q => do return (← p.plan counting maxRepeat).append (← q.plan counting maxRepeat)
  | alt p q => do return .either (← p.plan counting maxRepeat) (← q.plan counting maxRepeat)
  | group _ p => p.plan counting maxRepeat
  | repeated b _ p =>
    let most := b.most.getD (counting.keep (b.least + maxRepeat))
    if most = 0 then .ok (.text [])
    else do
      let body ← p.plan counting maxRepeat
      if b.least = 1 ∧ most = 1 then return body
      else if le : b.least ≤ most then return body.times { least := b.least, most, le }
      else .error .countOverflow

namespace Plan

variable {ρ : Type} [RandomSource ρ] (counting : Counting)

/-- The product of one number out of each of the ranges. -/
def drawCount : List CountRange → ρ → Nat × ρ
  | [], r => (1, r)
  | count :: counts, r =>
    let (n, r) := RandomSource.between count.least count.most r
    let (m, r) := drawCount counts r
    (counting.keep (n * m), r)

/-- The number of a member of a set.  For more than 64 members it is made of one word, for fewer it
is picked like a branch. -/
def drawMember (set : CharSet) (r : ρ) : Nat × ρ :=
  let size := set.size
  if 64 < size then RandomSource.below size r else RandomSource.pick size r

/-- A text, which is given in reverse, followed by strings drawn one after another. -/
def drawMany (draw : ρ → Text × ρ) : Nat → Text → ρ → Text × ρ
  | 0, before, r => (before.reverse, r)
  | n + 1, before, r =>
    let (s, r) := draw r
    drawMany draw n (s.reverseAux before) r

/-- A string of a plan, or of the branch with a number if the plan is a choice and a number is
given. -/
def drawBranch : Plan → Option Nat → ρ → Text × ρ
  | text t, _, r => (t, r)
  | member members _, _, r =>
    let drawn := drawMember members.set r
    (((members.set.nth? drawn.1).map Char.ofNat).toList, drawn.2)
  | either p q, branch, r =>
    let drawn := match branch with
      | some i => (i, r)
      | none => RandomSource.pick (p.branches + q.branches) r
    if drawn.1 < p.branches then p.drawBranch (some drawn.1) drawn.2
    else q.drawBranch (some (drawn.1 - p.branches)) drawn.2
  | both p q, _, r =>
    let (s, r) := p.drawBranch none r
    let (t, r) := q.drawBranch none r
    (s ++ t, r)
  | repeated counts (text t), _, r =>
    let drawn := drawCount counting counts r
    (Text.copies drawn.1 t, drawn.2)
  | repeated counts p, _, r =>
    let drawn := drawCount counting counts r
    drawMany (p.drawBranch none) drawn.1 [] drawn.2

def draw (p : Plan) (r : ρ) : Text × ρ := p.drawBranch counting none r

end Plan
end LineGrammar
