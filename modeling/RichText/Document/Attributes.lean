/-!
# Attributes

The attributes of a markup are a finite map from names to values. It is held as a list of entries in
strictly increasing order of names, and the order is part of the type: a map has one form only, so
two markups with the same attributes are equal however they were built.
-/

namespace RichText

/-- Puts an entry in its place by name; it replaces the entry of the same name. -/
def insertEntry (key value : String) : List (String × String) → List (String × String)
  | [] => [(key, value)]
  | (k, v) :: rest =>
    if key < k then (key, value) :: (k, v) :: rest
    else if key = k then (key, value) :: rest
    else (k, v) :: insertEntry key value rest

theorem mem_insertEntry {key value : String} {entries : List (String × String)}
    {e : String × String} (h : e ∈ insertEntry key value entries) :
    e = (key, value) ∨ e ∈ entries := by
  induction entries with
  | nil => simpa [insertEntry] using h
  | cons head rest ih =>
    obtain ⟨k, v⟩ := head
    simp only [insertEntry] at h
    split at h
    · simpa using h
    · split at h
      · simp only [List.mem_cons] at h ⊢
        exact h.imp_right .inr
      · simp only [List.mem_cons] at h ⊢
        rcases h with h | h
        · exact .inr (.inl h)
        · exact (ih h).imp_right .inr

/-- Names strictly increase along the entries. -/
def NamesIncrease (entries : List (String × String)) : Prop :=
  entries.Pairwise fun a b => a.1 < b.1

theorem namesIncrease_insertEntry (key value : String) {entries : List (String × String)}
    (h : NamesIncrease entries) : NamesIncrease (insertEntry key value entries) := by
  induction entries with
  | nil => simp [insertEntry, NamesIncrease]
  | cons head rest ih =>
    obtain ⟨k, v⟩ := head
    obtain ⟨hk, hrest⟩ := List.pairwise_cons.1 h
    simp only [insertEntry]
    split
    · rename_i lt
      refine List.pairwise_cons.2 ⟨fun e he => ?_, h⟩
      rcases List.mem_cons.1 he with rfl | he
      · exact lt
      · exact String.lt_trans lt (hk e he)
    · split
      · rename_i eq
        subst eq
        exact List.pairwise_cons.2 ⟨hk, hrest⟩
      · rename_i notLt ne
        refine List.pairwise_cons.2 ⟨fun e he => ?_, ih hrest⟩
        rcases mem_insertEntry he with rfl | he
        · exact Std.lt_of_le_of_ne (String.not_lt.1 notLt) (Ne.symm ne)
        · exact hk e he

/-- A finite map from attribute names to values, in increasing order of names. -/
structure Attributes where
  entries : List (String × String)
  increasing : NamesIncrease entries

namespace Attributes

@[ext] theorem ext {a b : Attributes} (h : a.entries = b.entries) : a = b := by
  cases a; cases b; simp_all

instance : DecidableEq Attributes := fun a b =>
  decidable_of_iff (a.entries = b.entries) ⟨ext, congrArg _⟩

/-- No attributes. -/
def empty : Attributes := ⟨[], .nil⟩

instance : Inhabited Attributes := ⟨empty⟩

/-- Sets an attribute; a later value for the same name replaces the earlier one. -/
def insert (a : Attributes) (key value : String) : Attributes :=
  ⟨insertEntry key value a.entries, namesIncrease_insertEntry key value a.increasing⟩

/-- The map that results from setting the given attributes one after another. -/
def ofPairs (pairs : List (String × String)) : Attributes :=
  pairs.foldl (fun a p => a.insert p.1 p.2) empty

/-- Names and values in turn, in increasing order of names. -/
def flatten (a : Attributes) : List String := a.entries.flatMap fun e => [e.1, e.2]

@[simp] theorem entries_empty : empty.entries = [] := rfl

@[simp] theorem entries_insert (a : Attributes) (key value : String) :
    (a.insert key value).entries = insertEntry key value a.entries := rfl

end Attributes

end RichText
