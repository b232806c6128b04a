import Mathlib.Data.List.Induction
import Mathlib.Data.List.Nodup
import Mathlib.Data.String.Basic
import RichText.Proofs.Document.Names

/-!
# Attributes are in canonical form

The attributes of a markup are set by calls, one after another, and a later value for a name
replaces an earlier one. What is left of the calls is the last value of each name (`lastValue?`),
and two sequences of calls that leave the same values build the same markup
(`Markup.build_eq_build_iff`).

The entries of a map are found again by their names (`lookup_insertEntry`), and entries with
increasing names are determined by what is found in them (`NamesIncrease.ext_lookup`). So the flat
list of attributes has each name that was set once, in order of code points, with its last value
after it (`Markup.listsLastValues_build`).
-/

open scoped List

namespace RichText

/-! ## Entries are found by their names -/

theorem lookup_cons_eq_ite (e : String × String) (entries : List (String × String)) (k : String) :
    (e :: entries).lookup k = if k = e.1 then some e.2 else entries.lookup k := by
  rw [List.lookup_cons]
  by_cases h : k = e.1
  · rw [if_pos h, h, beq_self_eq_true]
  · rw [if_neg h, beq_false_of_ne h]

/-- After an entry was put in its place, its value is found under its name; all else is found as
before. -/
theorem lookup_insertEntry (key value k : String) (entries : List (String × String)) :
    (insertEntry key value entries).lookup k =
      if k = key then some value else entries.lookup k := by
  induction entries with
  | nil => exact lookup_cons_eq_ite (key, value) [] k
  | cons e entries ih =>
    obtain ⟨l, w⟩ := e
    rw [insertEntry]
    split
    · exact lookup_cons_eq_ite (key, value) _ k
    · split
      · rename_i heq
        subst heq
        rw [lookup_cons_eq_ite, lookup_cons_eq_ite]
        split <;> rfl
      · rename_i hne
        rw [lookup_cons_eq_ite, lookup_cons_eq_ite, ih]
        by_cases hk : k = key
        · have hkl : k ≠ l := fun h => hne (hk.symm.trans h)
          rw [if_pos hk, if_neg hkl, if_pos hk]
        · rw [if_neg hk, if_neg hk]

namespace NamesIncrease

variable {entries others : List (String × String)}

theorem nodup (h : NamesIncrease entries) : entries.Nodup := by
  apply List.Pairwise.imp _ h
  intro a b hlt heq
  exact String.lt_irrefl b.1 (heq ▸ hlt)

/-- Where names increase, each entry is the one that is found under its name. -/
theorem mem_iff_lookup (h : NamesIncrease entries) (e : String × String) :
    e ∈ entries ↔ entries.lookup e.1 = some e.2 := by
  induction entries with
  | nil => simp
  | cons d entries ih =>
    obtain ⟨hd, hrest⟩ := List.pairwise_cons.1 h
    rw [lookup_cons_eq_ite, List.mem_cons]
    by_cases hname : e.1 = d.1
    · have hlater : e ∉ entries := fun he => String.lt_irrefl d.1 (hname ▸ hd e he)
      rw [if_pos hname, or_iff_left hlater, Option.some.injEq, Prod.ext_iff, and_iff_right hname,
        eq_comm]
    · have hfirst : e ≠ d := fun he => hname (congrArg Prod.fst he)
      rw [if_neg hname, or_iff_right hfirst, ih hrest]

/-- Entries with increasing names are determined by what is found in them. -/
theorem ext_lookup (h : NamesIncrease entries) (ho : NamesIncrease others)
    (hlookup : ∀ k, entries.lookup k = others.lookup k) : entries = others := by
  have hperm : entries ~ others := (List.perm_ext_iff_of_nodup h.nodup ho.nodup).2 fun e => by
    rw [h.mem_iff_lookup, ho.mem_iff_lookup, hlookup]
  apply List.Perm.eq_of_pairwise _ h ho hperm
  intro a b _ _ hab hba
  exact absurd hba (String.lt_asymm hab)

end NamesIncrease

/-! ## What is left of calls -/

/-- The last value that calls set for a name. -/
def lastValue? (calls : List (String × String)) (k : String) : Option String :=
  calls.reverse.lookup k

/-- The calls leave the same last value for each name. -/
def SameValues (calls others : List (String × String)) : Prop :=
  ∀ k, lastValue? calls k = lastValue? others k

theorem lastValue?_concat (calls : List (String × String)) (c : String × String) (k : String) :
    lastValue? (calls ++ [c]) k = if k = c.1 then some c.2 else lastValue? calls k := by
  rw [lastValue?, List.reverse_concat, lookup_cons_eq_ite]
  rfl

theorem Attributes.ofPairs_concat (calls : List (String × String)) (c : String × String) :
    ofPairs (calls ++ [c]) = (ofPairs calls).insert c.1 c.2 := by
  rw [ofPairs, List.foldl_append]
  rfl

/-- **In the map that calls build, the last value of each name is found.** -/
theorem Attributes.lookup_ofPairs (calls : List (String × String)) (k : String) :
    (ofPairs calls).entries.lookup k = lastValue? calls k := by
  induction calls using List.reverseRecOn with
  | nil => rfl
  | append_singleton calls c ih =>
    rw [ofPairs_concat, entries_insert, lookup_insertEntry, ih, lastValue?_concat]

theorem Attributes.ofPairs_eq_ofPairs_iff (calls others : List (String × String)) :
    ofPairs calls = ofPairs others ↔ SameValues calls others := by
  constructor
  · intro h k
    rw [← lookup_ofPairs, ← lookup_ofPairs, h]
  · intro h
    refine ext (NamesIncrease.ext_lookup (increasing _) (increasing _) fun k => ?_)
    rw [lookup_ofPairs, lookup_ofPairs, h k]

/-! ## Markups built by calls -/

/-- The markup with a tag on which attributes are set one after another. -/
def Markup.build (tagName : String) (calls : List (String × String)) : Markup :=
  calls.foldl (fun m c => m.attribute c.1 c.2) ⟨tagName, .empty⟩

theorem Markup.build_eq (tagName : String) (calls : List (String × String)) :
    build tagName calls = ⟨tagName, .ofPairs calls⟩ := by
  induction calls using List.reverseRecOn with
  | nil => rfl
  | append_singleton calls c ih =>
    have hlast : build tagName (calls ++ [c]) = (build tagName calls).attribute c.1 c.2 := by
      rw [build, List.foldl_append]
      rfl
    rw [hlast, ih, Markup.attribute, Attributes.ofPairs_concat]

/-- Markups are equal just if they have the same tag and were left the same values. -/
theorem Markup.build_eq_build_iff (tag other : String) (calls others : List (String × String)) :
    build tag calls = build other others ↔ tag = other ∧ SameValues calls others := by
  rw [build_eq, build_eq, Markup.mk.injEq, Attributes.ofPairs_eq_ofPairs_iff]

/-! ## The flat list -/

/-- The code points of a text. -/
def codePoints (s : String) : List Nat := s.toList.map Char.toNat

theorem codePoints_lt {s t : String} (h : s < t) : codePoints s < codePoints t :=
  List.map_lt (fun _ _ hlt => hlt) (String.lt_iff_toList_lt.1 h)

/-- The flat list has each name that was set by the calls once, in strictly increasing order of code
points, followed by its last value. -/
def ListsLastValues (calls : List (String × String)) (flat : List String) : Prop :=
  ∃ pairs : List (String × String), flat = pairs.flatMap (fun e => [e.1, e.2]) ∧
    pairs.Pairwise (fun a b => codePoints a.1 < codePoints b.1) ∧
    ∀ k v, (k, v) ∈ pairs ↔ lastValue? calls k = some v

theorem Markup.listsLastValues_build (tagName : String) (calls : List (String × String)) :
    ListsLastValues calls (build tagName calls).sortedAttributes := by
  rw [build_eq]
  have hincreasing := (Attributes.ofPairs calls).increasing
  refine ⟨(Attributes.ofPairs calls).entries, rfl, ?_, ?_⟩
  · exact List.Pairwise.imp codePoints_lt hincreasing
  · intro k v
    rw [hincreasing.mem_iff_lookup, Attributes.lookup_ofPairs]

theorem Markup.eq_iff_flat (m n : Markup) :
    m = n ↔ m.tagName = n.tagName ∧ m.sortedAttributes = n.sortedAttributes := by
  constructor
  · rintro rfl
    exact ⟨rfl, rfl⟩
  · rintro ⟨htag, hflat⟩
    exact eq_of_flat htag hflat

end RichText
