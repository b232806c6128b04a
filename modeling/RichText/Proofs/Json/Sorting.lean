import Mathlib.Data.List.Nodup
import RichText.Json.Basic

/-!
# Sorting the members of a value

Sorting puts the members of every object in increasing order of names and keeps the last of each
name. In a value whose objects repeat no name nothing is lost, so the sorted members are the members
in another order (`sortedMembers_perm`).

A list with increasing names is determined by what it holds (`eq_of_perm`). Taking members out of an
object by their names therefore commutes with sorting it (`filter_sortedMembers`).
-/

open scoped List

namespace RichText.Json

/-! ## Values that repeat no name -/

mutual

/-- No object in the value has two members of one name. -/
def KeysDistinct : Json → Prop
  | .arr items => KeysDistinctList items
  | .obj members => (members.map Prod.fst).Nodup ∧ KeysDistinctMembers members
  | _ => True

/-- No object in the items repeats a name. -/
def KeysDistinctList : List Json → Prop
  | [] => True
  | v :: rest => v.KeysDistinct ∧ KeysDistinctList rest

/-- No object in the values of the members repeats a name. -/
def KeysDistinctMembers : List (String × Json) → Prop
  | [] => True
  | (_, v) :: rest => v.KeysDistinct ∧ KeysDistinctMembers rest

end

theorem keysDistinct_arr {items : List Json} :
    (arr items).KeysDistinct ↔ ∀ v ∈ items, v.KeysDistinct := by
  rw [KeysDistinct]
  induction items with
  | nil => simp [KeysDistinctList]
  | cons v items ih => simp [KeysDistinctList, ih]

theorem keysDistinct_obj {members : List (String × Json)} :
    (obj members).KeysDistinct ↔
      (members.map Prod.fst).Nodup ∧ ∀ m ∈ members, m.2.KeysDistinct := by
  have hvalues : KeysDistinctMembers members ↔ ∀ m ∈ members, m.2.KeysDistinct := by
    induction members with
    | nil => simp [KeysDistinctMembers]
    | cons m members ih => simp [KeysDistinctMembers, ih]
  rw [KeysDistinct, hvalues]

/-- An object keeps its distinct names if members are left out. -/
theorem KeysDistinct.filter {members : List (String × Json)} (h : (obj members).KeysDistinct)
    (keep : String × Json → Bool) : (obj (members.filter keep)).KeysDistinct := by
  rw [keysDistinct_obj] at h ⊢
  obtain ⟨hkeys, hvalues⟩ := h
  constructor
  · exact hkeys.sublist (List.filter_sublist.map Prod.fst)
  · intro m hm
    exact hvalues m (List.mem_of_mem_filter hm)

/-! ## Lists in order of names -/

/-- Names strictly increase along the members. -/
def KeysIncrease (members : List (String × Json)) : Prop := members.Pairwise fun a b => a.1 < b.1

/-- Members in order of names are determined by what they are. -/
theorem KeysIncrease.eq_of_perm {members others : List (String × Json)}
    (hm : KeysIncrease members) (ho : KeysIncrease others) (h : members ~ others) :
    members = others := by
  apply List.Perm.eq_of_pairwise _ hm ho h
  intro a b _ _ hab hba
  exact absurd hba (String.lt_asymm hab)

theorem KeysIncrease.nodup {members : List (String × Json)} (h : KeysIncrease members) :
    (members.map Prod.fst).Nodup := by
  apply List.Pairwise.map Prod.fst _ h
  intro a b hlt heq
  exact String.lt_irrefl b.1 (heq ▸ hlt)

variable {key : String} {v : Json} {members done : List (String × Json)}

theorem insertMember_perm (h : key ∉ members.map Prod.fst) :
    insertMember key v members ~ (key, v) :: members := by
  induction members with
  | nil => rfl
  | cons m members ih =>
    obtain ⟨k, w⟩ := m
    simp only [List.map_cons, List.mem_cons, not_or] at h
    obtain ⟨hne, hrest⟩ := h
    rw [insertMember, if_neg hne]
    split
    · rfl
    · exact ((ih hrest).cons (k, w)).trans (List.Perm.swap (key, v) (k, w) members)

theorem mem_insertMember {m : String × Json} (h : m ∈ insertMember key v members) :
    m = (key, v) ∨ m ∈ members := by
  induction members with
  | nil => simpa [insertMember] using h
  | cons head rest ih =>
    obtain ⟨k, w⟩ := head
    simp only [insertMember] at h
    split at h
    · simpa using h
    · split at h
      · rcases List.mem_cons.1 h with h | h
        · exact .inl h
        · exact .inr (List.mem_cons_of_mem _ h)
      · rcases List.mem_cons.1 h with h | h
        · exact .inr (h ▸ List.mem_cons_self)
        · exact (ih h).imp_right (List.mem_cons_of_mem _)

theorem KeysIncrease.insertMember (h : KeysIncrease members) :
    KeysIncrease (insertMember key v members) := by
  induction members with
  | nil => simp [Json.insertMember, KeysIncrease]
  | cons m members ih =>
    obtain ⟨k, w⟩ := m
    obtain ⟨hk, hrest⟩ := List.pairwise_cons.1 h
    simp only [Json.insertMember]
    split
    · rename_i hlt
      apply List.Pairwise.cons _ h
      intro m hm
      rcases List.mem_cons.1 hm with rfl | hm
      · exact hlt
      · exact String.lt_trans hlt (hk m hm)
    · split
      · rename_i heq
        subst heq
        exact List.Pairwise.cons hk hrest
      · rename_i hnlt hne
        apply List.Pairwise.cons _ (ih hrest)
        intro m hm
        rcases mem_insertMember hm with rfl | hm
        · exact Std.lt_of_le_of_ne (String.not_lt.1 hnlt) (Ne.symm hne)
        · exact hk m hm

/-! ## Sorting -/

/-- A member with its value sorted. -/
def sortedMember (m : String × Json) : String × Json := (m.1, m.2.sorted)

@[simp] theorem sortedMember_fst (m : String × Json) : (sortedMember m).1 = m.1 := rfl

@[simp] theorem sortedMember_snd (m : String × Json) : (sortedMember m).2 = m.2.sorted := rfl

theorem sortedList_eq_map (items : List Json) : sortedList items = items.map sorted := by
  induction items with
  | nil => rfl
  | cons v items ih => rw [sortedList, ih, List.map_cons]

theorem KeysIncrease.sortedMembers (h : KeysIncrease done) :
    KeysIncrease (sortedMembers members done) := by
  induction members generalizing done with
  | nil => simpa [Json.sortedMembers] using h
  | cons m members ih =>
    rw [Json.sortedMembers]
    exact ih h.insertMember

theorem keysIncrease_sortedMembers (members : List (String × Json)) :
    KeysIncrease (sortedMembers members []) :=
  KeysIncrease.sortedMembers .nil

theorem sortedMembers_perm_append (h : ((members ++ done).map Prod.fst).Nodup) :
    sortedMembers members done ~ members.map sortedMember ++ done := by
  induction members generalizing done with
  | nil => simp [sortedMembers]
  | cons m members ih =>
    obtain ⟨k, w⟩ := m
    rw [List.cons_append, List.map_cons, List.nodup_cons] at h
    obtain ⟨hnew, hrest⟩ := h
    -- The member moves from the front of those to come into those that are done.
    have hins : insertMember k w.sorted done ~ (k, w.sorted) :: done := by
      apply insertMember_perm
      intro hk
      rw [List.map_append] at hnew
      exact hnew (List.mem_append_right _ hk)
    have hmid : members ++ insertMember k w.sorted done ~ (k, w.sorted) :: (members ++ done) :=
      (hins.append_left members).trans List.perm_middle
    have hkeys : ((members ++ insertMember k w.sorted done).map Prod.fst).Nodup :=
      (hmid.map Prod.fst).nodup_iff.2 (List.nodup_cons.2 ⟨hnew, hrest⟩)
    rw [sortedMembers]
    calc sortedMembers members (insertMember k w.sorted done)
      _ ~ members.map sortedMember ++ insertMember k w.sorted done := ih hkeys
      _ ~ members.map sortedMember ++ (k, w.sorted) :: done := hins.append_left _
      _ ~ (k, w.sorted) :: (members.map sortedMember ++ done) := List.perm_middle

/-- **Sorting loses no member** if no name is repeated. -/
theorem sortedMembers_perm (h : (members.map Prod.fst).Nodup) :
    sortedMembers members [] ~ members.map sortedMember := by
  have hkeys : ((members ++ []).map Prod.fst).Nodup := by simpa using h
  simpa using sortedMembers_perm_append hkeys

/-- The members of an object that a test of names keeps, sorted, are those that it keeps of the
sorted object. -/
theorem filter_sortedMembers (h : (members.map Prod.fst).Nodup) (keep : String → Bool) :
    (sortedMembers members []).filter (fun m => keep m.1) =
      sortedMembers (members.filter fun m => keep m.1) [] := by
  have hkept : ((members.filter fun m => keep m.1).map Prod.fst).Nodup :=
    h.sublist (List.filter_sublist.map Prod.fst)
  apply KeysIncrease.eq_of_perm
  · exact (keysIncrease_sortedMembers members).filter _
  · exact keysIncrease_sortedMembers _
  · calc (sortedMembers members []).filter fun m => keep m.1
      _ ~ (members.map sortedMember).filter fun m => keep m.1 := (sortedMembers_perm h).filter _
      _ ~ (members.filter fun m => keep m.1).map sortedMember := by
        rw [List.filter_map]
        rfl
      _ ~ sortedMembers (members.filter fun m => keep m.1) [] := (sortedMembers_perm hkept).symm

end RichText.Json
