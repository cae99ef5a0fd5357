/-! # Sources of randomness

A source of randomness is a state that yields one 32-bit word after another.  What is drawn from it
is a number below a bound, out of one word (`below`) or out of two (`pick`).  The words are taken for
a fraction of all words, and the number is the same fraction of the bound, rounded down; so it is
below the bound (`below_lt`, `pick_lt`).  Where the bound does not divide the number of words, a few
words would make some numbers more frequent than others.  Those words are passed over.

Two words are multiplied by the bound one at a time, which keeps the numbers small, and stand for the
same number as the one that they are the halves of (`number_ofWords`). -/

namespace LineGrammar

/-- The values of `ρ` yield words, one after another. -/
class RandomSource (ρ : Type) where
  next : ρ → UInt32 × ρ

namespace RandomSource

/-! ### What words stand for -/

/-- A number that words stand for, and whether it may be taken. -/
structure Draw where
  number : Nat
  isFair : Bool
  deriving DecidableEq, Repr

/-- What a word stands for below `bound`. -/
def Draw.ofWord (bound word : Nat) : Draw where
  number := word * bound / UInt32.size
  isFair := word * bound % UInt32.size + UInt32.size % bound < UInt32.size

/-- What two words stand for below `bound`. -/
def Draw.ofWords (bound low high : Nat) : Draw :=
  let lower := low * bound
  let upper := high * bound + lower / UInt32.size
  let surplus := UInt32.size % bound * UInt32.size % bound
  { number := upper / UInt32.size
    isFair :=
      upper % UInt32.size + (lower % UInt32.size + surplus) / UInt32.size < UInt32.size }

namespace Draw

theorem number_ofWord_lt {bound word : Nat} (h : 0 < bound) (hw : word < UInt32.size) :
    (ofWord bound word).number < bound :=
  Nat.div_lt_of_lt_mul (Nat.mul_lt_mul_of_pos_right hw h)

theorem number_ofWords (bound low high : Nat) :
    (ofWords bound low high).number = (low + UInt32.size * high) * bound / UInt64.size := by
  simp only [ofWords, UInt32.size, UInt64.size, Nat.add_mul, Nat.mul_assoc]
  omega

theorem number_ofWords_lt {bound low high : Nat} (h : 0 < bound) (hl : low < UInt32.size)
    (hh : high < UInt32.size) : (ofWords bound low high).number < bound := by
  rw [number_ofWords]
  refine Nat.div_lt_of_lt_mul (Nat.mul_lt_mul_of_pos_right ?_ h)
  simp only [UInt32.size, UInt64.size] at *
  omega

end Draw

variable {ρ : Type}

/-- The number of the first fair draw.  After `retries` others, any draw will do. -/
@[specialize] def firstFair (draw : ρ → Draw × ρ) : Nat → ρ → Nat × ρ
  | 0, r =>
    let (d, r) := draw r
    (d.number, r)
  | retries + 1, r =>
    let (d, r) := draw r
    if d.isFair then (d.number, r) else firstFair draw retries r

theorem firstFair_lt {draw : ρ → Draw × ρ} {bound : Nat}
    (h : ∀ r, (draw r).1.number < bound) (retries : Nat) (r : ρ) :
    (firstFair draw retries r).1 < bound := by
  induction retries generalizing r with
  | zero => exact h r
  | succ retries ih =>
    simp only [firstFair]
    split
    · exact h r
    · exact ih _

variable [RandomSource ρ]

@[inline] def drawWord (bound : Nat) (r : ρ) : Draw × ρ :=
  let (w, r) := next r
  (.ofWord bound w.toNat, r)

/-- What the next two words stand for, of which the first one is the lower half. -/
@[inline] def drawWords (bound : Nat) (r : ρ) : Draw × ρ :=
  let (low, r) := next r
  let (high, r) := next r
  (.ofWords bound low.toNat high.toNat, r)

/-- A number below `bound`, out of one word. -/
@[specialize] def below (bound : Nat) (r : ρ) : Nat × ρ := firstFair (drawWord bound) 64 r

/-- A number below `bound`, out of two words. -/
@[specialize] def pick (bound : Nat) (r : ρ) : Nat × ρ := firstFair (drawWords bound) 64 r

theorem below_lt {bound : Nat} (h : 0 < bound) (r : ρ) : (below bound r).1 < bound :=
  firstFair_lt (fun r => Draw.number_ofWord_lt h (next r).1.toNat_lt_size) 64 r

theorem pick_lt {bound : Nat} (h : 0 < bound) (r : ρ) : (pick bound r).1 < bound :=
  firstFair_lt (fun r => Draw.number_ofWords_lt h (next r).1.toNat_lt_size
    (next (next r).2).1.toNat_lt_size) 64 r

/-- A number from `least` to `most`, out of one word. -/
@[specialize] def between (least most : Nat) (r : ρ) : Nat × ρ :=
  let (n, r) := below (most + 1 - least) r
  (least + n, r)

end RandomSource
end LineGrammar
