import LineGrammar.Json
import Mathlib.Data.List.Nodup

/-! # The members of an object

Giving a member to an object appends it if its name is new (`setMember_of_not_mem`) and replaces the
one member of its name otherwise (`setMember_of_mem`).  Members with distinct names are therefore
all kept, in the order in which they are given (`setMembers_of_nodup`). -/

namespace LineGrammar.Json

/-- The names of an object's members, in order. -/
abbrev names (members : List (Text × Json)) : List Text := members.map Prod.fst

theorem setMember_of_not_mem {name : Text} {members : List (Text × Json)} (value : Json)
    (h : name ∉ names members) : setMember name value members = members ++ [(name, value)] := by
  induction members with
  | nil => rfl
  | cons m members ih =>
      obtain ⟨other, v⟩ := m
      rw [names, List.map_cons, List.mem_cons, not_or] at h
      unfold setMember
      rw [if_neg (Ne.symm h.1), ih h.2, List.cons_append]

theorem setMember_of_mem {name : Text} {members : List (Text × Json)} (value : Json)
    (hd : (names members).Nodup) (h : name ∈ names members) :
    setMember name value members =
      members.map fun m => if m.1 = name then (name, value) else m := by
  induction members with
  | nil => cases h
  | cons m members ih =>
      obtain ⟨other, v⟩ := m
      rw [names, List.map_cons, List.nodup_cons] at hd
      unfold setMember
      by_cases hn : other = name
      · subst hn
        have rest : members.map (fun m => if m.1 = other then (other, value) else m) = members := by
          conv_rhs => rw [← List.map_id members]
          apply List.map_congr_left
          intro m hm
          have hne : m.1 ≠ other := by
            rintro rfl
            exact hd.1 (List.mem_map.mpr ⟨m, hm, rfl⟩)
          rw [if_neg hne, id]
        rw [if_pos rfl, List.map_cons, if_pos rfl, rest]
      · have hm : name ∈ names members := by
          rcases List.mem_cons.mp h with h | h
          · exact absurd h.symm hn
          · exact h
        rw [if_neg hn, List.map_cons, if_neg hn, ih hd.2 hm]

theorem foldl_setMember {entries : List (Text × Json)} {members : List (Text × Json)}
    (h : (names (members ++ entries)).Nodup) :
    entries.foldl (fun members e => setMember e.1 e.2 members) members = members ++ entries := by
  induction entries generalizing members with
  | nil => simp
  | cons e entries ih =>
      obtain ⟨name, value⟩ := e
      have new : name ∉ names members := by
        rw [names, List.map_append, List.nodup_append] at h
        intro hm
        exact h.2.2 name hm name (by simp) rfl
      rw [List.foldl_cons, setMember_of_not_mem value new, ih (by simpa using h)]
      simp

/-- No member is lost if all names are distinct. -/
theorem setMembers_of_nodup {entries : List (Text × Json)} (h : (names entries).Nodup) :
    setMembers entries = entries := foldl_setMember h

theorem setMembers_concat (entries : List (Text × Json)) (e : Text × Json) :
    setMembers (entries ++ [e]) = setMember e.1 e.2 (setMembers entries) := by
  unfold setMembers
  rw [List.foldl_append]
  rfl

theorem lookup_of_mem {members : List (Text × Json)} {name : Text} {value : Json}
    (hd : (names members).Nodup) (h : (name, value) ∈ members) :
    members.lookup name = some value := by
  induction members with
  | nil => cases h
  | cons m members ih =>
      obtain ⟨other, v⟩ := m
      rw [names, List.map_cons, List.nodup_cons] at hd
      rcases List.mem_cons.mp h with he | hm
      · obtain ⟨rfl, rfl⟩ := Prod.mk.inj he
        simp
      · have hn : name ≠ other := by
          rintro rfl
          exact hd.1 (List.mem_map.mpr ⟨(name, value), hm, rfl⟩)
        rw [List.lookup_cons, beq_eq_false_iff_ne.mpr hn]
        exact ih hd.2 hm

end LineGrammar.Json
