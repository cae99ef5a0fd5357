import LineGrammar.Pattern.Plan
import LineGrammar.Proofs.Except
import LineGrammar.Proofs.Pattern.Language

/-! # What is drawn

Every string that is drawn for a plan is in the language of the plan (`draw_mem`), and the language
of the plan of a pattern is part of the language of the pattern (`language_plan`).  The plan leaves
strings out: where a repetition stands directly on a repetition, the body comes as often as the
product of one number for each of the two, and the powers of a language to such products are powers
of its powers (`language_times`).

Numbers that have 32 bits come out right as long as the largest number that can come up fits
(`Counting.Fits`, `Pattern.countBound`). -/

namespace LineGrammar

/-- Numbers up to `n` are kept as they are. -/
def Counting.Fits (counting : Counting) (n : Nat) : Prop := counting = .exact ∨ n < UInt32.size

theorem Counting.Fits.mono {counting : Counting} {m n : Nat} (h : counting.Fits n) (le : m ≤ n) :
    counting.Fits m := h.imp_right (Nat.lt_of_le_of_lt le)

theorem Counting.Fits.keep_eq {counting : Counting} {n : Nat} (h : counting.Fits n) :
    counting.keep n = n := by
  unfold keep
  split
  · rfl
  · rcases h with exact | small
    · cases exact
    · exact Nat.mod_eq_of_lt small

namespace CountRange

/-- The number is a product of one number out of each of the ranges. -/
def IsProduct : List CountRange → Nat → Prop
  | [], n => n = 1
  | c :: cs, n => ∃ k m, c.least ≤ k ∧ k ≤ c.most ∧ IsProduct cs m ∧ n = k * m

/-- A number that is at least as large as each product of numbers out of the last ranges. -/
def ceiling : List CountRange → Nat
  | [] => 1
  | c :: cs => max c.most 1 * ceiling cs

theorem ceiling_append (cs ds : List CountRange) :
    ceiling (cs ++ ds) = ceiling cs * ceiling ds := by
  induction cs with
  | nil => exact (Nat.one_mul _).symm
  | cons c cs ih => rw [List.cons_append, ceiling, ceiling, ih, Nat.mul_assoc]

theorem ceiling_le_cons (c : CountRange) (cs : List CountRange) :
    ceiling cs ≤ ceiling (c :: cs) :=
  Nat.le_mul_of_pos_left _ (Nat.lt_of_lt_of_le Nat.one_pos (Nat.le_max_right c.most 1))

theorem ceiling_pos (cs : List CountRange) : 0 < ceiling cs := by
  induction cs with
  | nil => exact Nat.one_pos
  | cons c cs ih => exact Nat.mul_pos (by omega) ih

theorem isProduct_concat {cs : List CountRange} {c : CountRange} {n : Nat}
    (h : IsProduct (cs ++ [c]) n) :
    ∃ m k, IsProduct cs m ∧ c.least ≤ k ∧ k ≤ c.most ∧ n = m * k := by
  induction cs generalizing n with
  | nil =>
      obtain ⟨k, _, low, high, rfl, rfl⟩ := h
      exact ⟨1, k, rfl, low, high, by rw [Nat.mul_one, Nat.one_mul]⟩
  | cons d cs ih =>
      obtain ⟨j, _, lowest, highest, rest, rfl⟩ := h
      obtain ⟨m, k, product, low, high, rfl⟩ := ih rest
      exact ⟨j * m, k, ⟨j, m, lowest, highest, product, rfl⟩, low, high, (Nat.mul_assoc j m k).symm⟩

end CountRange

open CountRange

/-! ### Languages of plans -/

namespace Plan

/-- The strings that can be drawn for a plan. -/
def language : Plan → Language Char
  | text t => {t}
  | member members _ => oneOf fun c => members.set.has c = true
  | either p q => p.language + q.language
  | both p q => p.language * q.language
  | repeated counts body => {w | ∃ n, IsProduct counts n ∧ w ∈ body.language ^ n}

/-- A number that is at least as large as any number of copies that comes up. -/
def countBound : Plan → Nat
  | text _ => 1
  | member _ _ => 1
  | either p q => max p.countBound q.countBound
  | both p q => max p.countBound q.countBound
  | repeated counts body => ceiling counts * body.countBound

theorem countBound_pos (p : Plan) : 0 < p.countBound := by
  induction p with
  | text | member => exact Nat.one_pos
  | either p q ihp ihq | both p q ihp ihq => exact Nat.lt_of_lt_of_le ihp (Nat.le_max_left _ _)
  | repeated counts body ih => exact Nat.mul_pos (ceiling_pos counts) ih

theorem language_append (p q : Plan) : (p.append q).language = p.language * q.language := by
  unfold append
  split
  · exact (one_mul _).symm
  · exact (mul_one _).symm
  · exact singleton_append _ _
  · rfl

theorem countBound_append (p q : Plan) :
    (p.append q).countBound ≤ max p.countBound q.countBound := by
  unfold append
  split
  · exact Nat.le_max_right _ _
  · exact Nat.le_max_left _ _
  · exact Nat.le_max_left _ _
  · exact Nat.le_refl _

/-- A plan that is repeated draws strings of the plan, as many as the range allows. -/
theorem language_times (c : CountRange) (p : Plan) {w : Text} (h : w ∈ (p.times c).language) :
    ∃ k, c.least ≤ k ∧ k ≤ c.most ∧ w ∈ p.language ^ k := by
  have single (body : Plan) (h : w ∈ (repeated [c] body).language) :
      ∃ k, c.least ≤ k ∧ k ≤ c.most ∧ w ∈ body.language ^ k := by
    obtain ⟨_, ⟨k, _, low, high, rfl, rfl⟩, hw⟩ := h
    rw [Nat.mul_one] at hw
    exact ⟨k, low, high, hw⟩
  unfold times at h
  split at h
  · split at h
    · obtain rfl : w = [] := h
      exact ⟨c.least, Nat.le_refl _, c.le, by rw [language, singleton_nil, one_pow]; rfl⟩
    · exact single _ h
  · rename_i counts body
    obtain ⟨n, product, hw⟩ := h
    obtain ⟨m, k, inner, low, high, rfl⟩ := isProduct_concat product
    have part : body.language ^ m ≤ (repeated counts body).language :=
      fun v hv => ⟨m, inner, hv⟩
    rw [pow_mul] at hw
    exact ⟨k, low, high, pow_le_pow_left' part k hw⟩
  · exact single _ h

theorem countBound_times (c : CountRange) (p : Plan) :
    (p.times c).countBound ≤ max c.most 1 * p.countBound := by
  have single (body : Plan) : (repeated [c] body).countBound = max c.most 1 * body.countBound := by
    rw [countBound, ceiling, ceiling, Nat.mul_one]
  unfold times
  split
  · split
    · exact Nat.le_mul_of_pos_left 1 (Nat.lt_of_lt_of_le Nat.one_pos (Nat.le_max_right c.most 1))
    · exact (single _).le
  · rename_i counts body
    rw [countBound, ceiling_append, countBound, ceiling, ceiling, Nat.mul_one,
      Nat.mul_comm (ceiling counts), Nat.mul_assoc]
  · exact (single _).le

end Plan

namespace Bounds

variable (b : Bounds) (maxRepeat : Nat)

def limit : Nat := b.most.getD (b.least + maxRepeat)

theorem least_le_limit : b.least ≤ b.limit maxRepeat := by
  unfold limit
  cases most : b.most with
  | none => exact Nat.le_add_right _ _
  | some m => exact b.le_most m most

variable {b maxRepeat}

theorem allows_of_le_limit {n : Nat} (low : b.least ≤ n) (high : n ≤ b.limit maxRepeat) :
    b.Allows (some maxRepeat) n := by
  refine ⟨low, ?_⟩
  unfold limit at high
  cases most : b.most with
  | some m =>
      rw [most] at high
      exact high
  | none =>
      rw [most] at high
      intro m hm
      obtain rfl := Option.some.inj hm
      exact high

theorem getD_keep_eq_limit {counting : Counting} (fits : counting.Fits (b.limit maxRepeat)) :
    b.most.getD (counting.keep (b.least + maxRepeat)) = b.limit maxRepeat := by
  unfold limit at *
  cases most : b.most with
  | some m => rfl
  | none =>
      rw [most] at fits
      exact fits.keep_eq

end Bounds

/-! ### Plans of patterns -/

namespace Pattern

/-- A number that is at least as large as any number of copies that comes up for a pattern. -/
def countBound (maxRepeat : Nat) : Pattern → Nat
  | seq p q => max (p.countBound maxRepeat) (q.countBound maxRepeat)
  | alt p q => max (p.countBound maxRepeat) (q.countBound maxRepeat)
  | group _ p => p.countBound maxRepeat
  | repeated b _ p => max (b.limit maxRepeat) 1 * p.countBound maxRepeat
  | _ => 1

theorem countBound_pos (maxRepeat : Nat) (p : Pattern) : 0 < p.countBound maxRepeat := by
  induction p with
  | text | one | anchor => exact Nat.one_pos
  | seq p q ihp ihq | alt p q ihp ihq => exact Nat.lt_of_lt_of_le ihp (Nat.le_max_left _ _)
  | repeated b greedy p ih => exact Nat.mul_pos (by omega) ih
  | group number p ih => exact ih

variable {counting : Counting} {maxRepeat : Nat}

/-- What is drawn for a pattern is in its language. -/
theorem language_plan {p : Pattern} {plan : Plan} (h : p.plan counting maxRepeat = .ok plan)
    (fits : counting.Fits (p.countBound maxRepeat)) :
    plan.language ≤ p.language (some maxRepeat) ∧
      plan.countBound ≤ p.countBound maxRepeat := by
  induction p generalizing plan with
  | text t =>
      obtain rfl := Except.ok.inj h
      exact ⟨le_refl _, le_refl _⟩
  | one members ascii =>
      unfold Pattern.plan at h
      split at h
      · obtain rfl := Except.ok.inj h
        exact ⟨le_refl _, le_refl _⟩
      · cases h
  | anchor a => cases h
  | seq p q ihp ihq =>
      obtain ⟨first, hp, h⟩ := bind_eq_ok_iff.mp h
      obtain ⟨second, hq, h⟩ := bind_eq_ok_iff.mp h
      obtain rfl := Except.ok.inj h
      obtain ⟨lp, bp⟩ := ihp hp (fits.mono (Nat.le_max_left _ _))
      obtain ⟨lq, bq⟩ := ihq hq (fits.mono (Nat.le_max_right _ _))
      rw [Plan.language_append]
      exact ⟨mul_le_mul' lp lq, (Plan.countBound_append first second).trans (max_le_max bp bq)⟩
  | alt p q ihp ihq =>
      obtain ⟨left, hp, h⟩ := bind_eq_ok_iff.mp h
      obtain ⟨right, hq, h⟩ := bind_eq_ok_iff.mp h
      obtain rfl := Except.ok.inj h
      obtain ⟨lp, bp⟩ := ihp hp (fits.mono (Nat.le_max_left _ _))
      obtain ⟨lq, bq⟩ := ihq hq (fits.mono (Nat.le_max_right _ _))
      exact ⟨sup_le_sup lp lq, max_le_max bp bq⟩
  | group number p ih => exact ih h fits
  | repeated b greedy p ih =>
      have pos := p.countBound_pos maxRepeat
      have inner : p.countBound maxRepeat ≤ (repeated b greedy p).countBound maxRepeat :=
        Nat.le_mul_of_pos_left _ (by omega)
      have outer : b.limit maxRepeat ≤ (repeated b greedy p).countBound maxRepeat :=
        (Nat.le_max_left _ 1).trans (Nat.le_mul_of_pos_right _ pos)
      unfold Pattern.plan at h
      rw [Bounds.getD_keep_eq_limit (fits.mono outer)] at h
      dsimp only at h
      split at h
      · -- Nothing is drawn, and nothing has to come.
        rename_i none
        obtain rfl := Except.ok.inj h
        have least : b.least = 0 := Nat.le_zero.mp (none ▸ b.least_le_limit maxRepeat)
        refine ⟨?_, (Nat.succ_le_of_lt pos).trans inner⟩
        rintro w rfl
        exact ⟨0, Bounds.allows_of_le_limit least.le (Nat.zero_le _), by rw [pow_zero]; rfl⟩
      · obtain ⟨body, hp, h⟩ := bind_eq_ok_iff.mp h
        obtain ⟨part, bound⟩ := ih hp (fits.mono inner)
        split at h
        · rename_i once
          obtain rfl := Except.ok.inj h
          have allowed : b.Allows (some maxRepeat) 1 :=
            Bounds.allows_of_le_limit once.1.le once.2.ge
          refine ⟨fun w hw => ⟨1, allowed, ?_⟩, bound.trans inner⟩
          rw [pow_one]
          exact part hw
        · split at h
          · obtain rfl := Except.ok.inj h
            refine ⟨fun w hw => ?_, (Plan.countBound_times _ body).trans
              (Nat.mul_le_mul_left _ bound)⟩
            obtain ⟨n, low, high, hw⟩ := Plan.language_times _ body hw
            exact ⟨n, Bounds.allows_of_le_limit low high, pow_le_pow_left' part n hw⟩
          · cases h

end Pattern

/-! ### Draws -/

namespace Plan

variable {ρ : Type} [RandomSource ρ] {counting : Counting}

theorem between_mem (c : CountRange) (r : ρ) :
    c.least ≤ (RandomSource.between c.least c.most r).1 ∧
      (RandomSource.between c.least c.most r).1 ≤ c.most := by
  have le := c.le
  have below := RandomSource.below_lt (show 0 < c.most + 1 - c.least by omega) r
  unfold RandomSource.between
  dsimp only
  omega

/-- The number of copies is a product of numbers out of the ranges. -/
theorem isProduct_drawCount {counts : List CountRange} (fits : counting.Fits (ceiling counts))
    (r : ρ) :
    IsProduct counts (drawCount counting counts r).1 ∧
      (drawCount counting counts r).1 ≤ ceiling counts := by
  induction counts generalizing r with
  | nil => exact ⟨rfl, le_refl _⟩
  | cons c cs ih =>
      obtain ⟨low, high⟩ := between_mem c r
      unfold drawCount
      dsimp only
      obtain ⟨product, bound⟩ := ih (fits.mono (ceiling_le_cons c cs))
        (RandomSource.between c.least c.most r).2
      have le := Nat.mul_le_mul (high.trans (Nat.le_max_left c.most 1)) bound
      rw [(fits.mono le).keep_eq]
      exact ⟨⟨_, _, low, high, product, rfl⟩, le⟩

theorem drawMember_lt {set : CharSet} (h : 0 < set.size) (r : ρ) :
    (drawMember set r).1 < set.size := by
  unfold drawMember
  dsimp only
  split
  · exact RandomSource.below_lt h r
  · exact RandomSource.pick_lt h r

/-- The member of a class with a number is a character of it. -/
theorem member_mem {members : CharClass} {i : Nat} (h : i < members.set.size) :
    ((members.set.nth? i).map Char.ofNat).toList ∈
      oneOf fun c => members.set.has c = true := by
  obtain ⟨n, hn⟩ := CharSet.exists_nth?_eq h
  have member : members.set.has (Char.ofNat n) = true :=
    CharClass.has_ofNat (CharSet.covers_of_nth? hn)
  rw [hn]
  exact ⟨Char.ofNat n, member, rfl⟩

omit [RandomSource ρ] in
/-- Strings drawn one after another follow what there is before them. -/
theorem drawMany_mem {draw : ρ → Text × ρ} {l : Language Char} (h : ∀ r, (draw r).1 ∈ l) (n : Nat)
    (before : Text) (r : ρ) :
    ∃ w ∈ l ^ n, (drawMany draw n before r).1 = before.reverse ++ w := by
  induction n generalizing before r with
  | zero => exact ⟨[], by rw [pow_zero]; rfl, (List.append_nil _).symm⟩
  | succ n ih =>
      obtain ⟨w, hw, drawn⟩ := ih ((draw r).1.reverseAux before) (draw r).2
      refine ⟨(draw r).1 ++ w, ?_, ?_⟩
      · rw [pow_succ']
        exact Language.append_mem_mul (h r) hw
      · unfold drawMany
        dsimp only
        rw [drawn, List.reverseAux_eq, List.reverse_append, List.reverse_reverse, List.append_assoc]

theorem copies_mem (n : Nat) (t : Text) : Text.copies n t ∈ ({t} : Language Char) ^ n := by
  unfold Text.copies
  split
  · rename_i empty
    rw [List.isEmpty_iff.mp empty, singleton_nil, one_pow]
    rfl
  · exact Language.mem_pow.mpr
      ⟨List.replicate n t, rfl, List.length_replicate, fun s hs => List.eq_of_mem_replicate hs⟩

/-- What is drawn for a plan is in the language of the plan. -/
theorem drawBranch_mem (p : Plan) (fits : counting.Fits p.countBound) (branch : Option Nat)
    (r : ρ) : (p.drawBranch counting branch r).1 ∈ p.language := by
  induction p generalizing branch r with
  | text t => rfl
  | member members inhabited => exact member_mem (drawMember_lt inhabited r)
  | either p q ihp ihq =>
      have left := ihp (fits.mono (Nat.le_max_left _ _))
      have right := ihq (fits.mono (Nat.le_max_right _ _))
      have taken (i : Nat) (r : ρ) :
          (if i < p.branches then p.drawBranch counting (some i) r
            else q.drawBranch counting (some (i - p.branches)) r).1 ∈ (either p q).language := by
        split
        · exact .inl (left _ r)
        · exact .inr (right _ r)
      cases branch with
      | none => exact taken _ _
      | some i => exact taken i r
  | both p q ihp ihq =>
      exact Language.append_mem_mul (ihp (fits.mono (Nat.le_max_left _ _)) none r)
        (ihq (fits.mono (Nat.le_max_right _ _)) none _)
  | repeated counts body ih =>
      have product : IsProduct counts (drawCount counting counts r).1 :=
        (isProduct_drawCount (fits.mono (Nat.le_mul_of_pos_right _ body.countBound_pos)) r).1
      have each := ih (fits.mono (Nat.le_mul_of_pos_left _ (ceiling_pos counts))) none
      cases body with
      | text t => exact ⟨_, product, copies_mem _ t⟩
      | _ =>
          obtain ⟨w, hw, drawn⟩ := drawMany_mem each (drawCount counting counts r).1 []
            (drawCount counting counts r).2
          exact ⟨_, product, drawn ▸ hw⟩

theorem draw_mem (p : Plan) (fits : counting.Fits p.countBound) (r : ρ) :
    (p.draw counting r).1 ∈ p.language := p.drawBranch_mem fits none r

end Plan

end LineGrammar
