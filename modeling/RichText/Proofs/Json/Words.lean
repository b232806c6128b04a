import Mathlib.Algebra.Group.Int.Defs
import Mathlib.Algebra.Group.Nat.Defs
import RichText.Json.Parser
import RichText.Proofs.Json.Sorting

/-!
# Integers of JSON texts

A JSON value may hold any integer, but a text writes only those that fit a signed or an unsigned
machine word: whatever is larger is read as a double.

* `Parser.readsWords_value`: the reader builds values from integers of that size.
* `holdsWords_parseSorted?`: so does reading with sorted members, which moves values but makes none.
-/

namespace RichText.Json

/-! ## The predicate -/

mutual

/-- Every integer in the value fits a signed or an unsigned word of 64 bits. -/
def HoldsWords : Json → Prop
  | .int n => -2 ^ 63 ≤ n ∧ n < 2 ^ 64
  | .arr items => HoldsWordsList items
  | .obj members => HoldsWordsMembers members
  | _ => True

/-- Every integer in the items fits. -/
def HoldsWordsList : List Json → Prop
  | [] => True
  | v :: rest => v.HoldsWords ∧ HoldsWordsList rest

/-- Every integer in the values of the members fits. -/
def HoldsWordsMembers : List (String × Json) → Prop
  | [] => True
  | (_, v) :: rest => v.HoldsWords ∧ HoldsWordsMembers rest

end

theorem holdsWords_nat {n : Nat} : (nat n).HoldsWords ↔ n < 2 ^ 64 := by
  rw [nat, HoldsWords]
  omega

theorem holdsWords_arr {items : List Json} :
    (arr items).HoldsWords ↔ ∀ v ∈ items, v.HoldsWords := by
  rw [HoldsWords]
  induction items with
  | nil => simp [HoldsWordsList]
  | cons v items ih => simp [HoldsWordsList, ih]

theorem holdsWords_obj {members : List (String × Json)} :
    (obj members).HoldsWords ↔ ∀ m ∈ members, m.2.HoldsWords := by
  rw [HoldsWords]
  induction members with
  | nil => simp [HoldsWordsMembers]
  | cons m members ih => simp [HoldsWordsMembers, ih]

/-- A member of an object that holds words holds words. -/
theorem HoldsWords.get? {v w : Json} {key : String} (h : v.HoldsWords) (hw : v.get? key = some w) :
    w.HoldsWords := by
  cases v with
  | obj members =>
    obtain ⟨before, after, rfl, -⟩ := List.lookup_eq_some_iff.1 hw
    exact holdsWords_obj.1 h (key, w) (by simp)
  | _ => cases hw

/-! ## Reading -/

namespace Parser

theorem holdsWords_number? {negate : Bool} {whole : List Char} {fraction : Option (List Char)}
    {exponent : Option Int} {v : Json} (h : number? negate whole fraction exponent = some v) :
    v.HoldsWords := by
  have hfloat : ∀ {x : Option Binary64}, x.map Json.float = some v → v.HoldsWords := by
    intro x hx
    obtain ⟨y, -, rfl⟩ := Option.map_eq_some_iff.1 hx
    trivial
  simp only [number?] at h
  split at h
  · split at h
    · split at h
      · rename_i hn
        obtain rfl := Option.some.inj h
        have hle : digitsValue whole ≤ 2 ^ 63 := hn.2
        rw [HoldsWords]
        omega
      · exact hfloat h
    · split at h
      · rename_i hn
        obtain rfl := Option.some.inj h
        exact holdsWords_nat.2 hn
      · exact hfloat h
  · exact hfloat h

theorem holdsWords_unsigned {negate : Bool} {s rest : List Char} {v : Json}
    (h : unsigned negate s = some (v, rest)) : v.HoldsWords := by
  unfold unsigned at h
  split at h
  · cases h
  · cases h
  · split at h
    · cases h
    · split at h
      · cases h
      · obtain ⟨w, hw, heq⟩ := Option.map_eq_some_iff.1 h
        obtain ⟨rfl, -⟩ := Prod.mk.injEq .. ▸ heq
        exact holdsWords_number? hw

theorem holdsWords_scalar {s rest : List Char} {v : Json} (h : scalar s = some (v, rest)) :
    v.HoldsWords := by
  unfold scalar at h
  split at h
  · cases h; trivial
  · cases h; trivial
  · cases h; trivial
  · obtain ⟨w, -, heq⟩ := Option.map_eq_some_iff.1 h
    cases heq
    trivial
  · exact holdsWords_unsigned h
  · exact holdsWords_unsigned h

/-! ### Arrays and objects -/

section Nested

/-- Whatever the reader of items gives holds words. -/
def ReadsWords (item : List Char → Read Json) : Prop :=
  ∀ s v rest, item s = some (v, rest) → v.HoldsWords

variable {item : List Char → Read Json} {fuel : Nat} {s rest : List Char}

theorem holdsWords_items (hitem : ReadsWords item) {vs : List Json}
    (h : items item fuel s = some (vs, rest)) : ∀ v ∈ vs, v.HoldsWords := by
  induction fuel generalizing s vs with
  | zero => cases h
  | succ fuel ih =>
    unfold items at h
    split at h
    · cases h
    · rename_i v after hv
      have hhead := hitem s v after hv
      split at h
      · cases h
        simpa using hhead
      · obtain ⟨⟨ws, after'⟩, hws, heq⟩ := Option.map_eq_some_iff.1 h
        cases heq
        exact List.forall_mem_cons.2 ⟨hhead, ih hws⟩
      · cases h

theorem holdsWords_member (hitem : ReadsWords item) {m : String × Json}
    (h : member item s = some (m, rest)) : m.2.HoldsWords := by
  unfold member at h
  split at h
  · split at h
    · cases h
    · split at h
      · obtain ⟨⟨v, after⟩, hv, heq⟩ := Option.map_eq_some_iff.1 h
        cases heq
        exact hitem _ _ _ hv
      · cases h
  · cases h

theorem holdsWords_members (hitem : ReadsWords item) {ms : List (String × Json)}
    (h : members item fuel s = some (ms, rest)) : ∀ m ∈ ms, m.2.HoldsWords := by
  induction fuel generalizing s ms with
  | zero => cases h
  | succ fuel ih =>
    unfold members at h
    split at h
    · cases h
    · rename_i m after hm
      have hhead := holdsWords_member hitem hm
      split at h
      · cases h
        simpa using hhead
      · obtain ⟨⟨ns, after'⟩, hns, heq⟩ := Option.map_eq_some_iff.1 h
        cases heq
        exact List.forall_mem_cons.2 ⟨hhead, ih hns⟩
      · cases h

theorem holdsWords_array (hitem : ReadsWords item) {v : Json}
    (h : array item s = some (v, rest)) : v.HoldsWords := by
  unfold array at h
  split at h
  · cases h; trivial
  · obtain ⟨⟨vs, after⟩, hvs, heq⟩ := Option.map_eq_some_iff.1 h
    cases heq
    exact holdsWords_arr.2 (holdsWords_items hitem hvs)

theorem holdsWords_object (hitem : ReadsWords item) {v : Json}
    (h : object item s = some (v, rest)) : v.HoldsWords := by
  unfold object at h
  split at h
  · cases h; trivial
  · obtain ⟨⟨ms, after⟩, hms, heq⟩ := Option.map_eq_some_iff.1 h
    cases heq
    exact holdsWords_obj.2 (holdsWords_members hitem hms)

end Nested

/-- **Every integer that the reader gives fits a machine word.** -/
theorem readsWords_value (depth : Nat) : ReadsWords (value depth) := by
  induction depth with
  | zero =>
    intro s v rest h
    unfold value at h
    split at h
    · cases h
    · cases h
    · exact holdsWords_scalar h
  | succ depth ih =>
    intro s v rest h
    unfold value at h
    split at h
    · exact holdsWords_array ih h
    · exact holdsWords_object ih h
    · exact holdsWords_scalar h

end Parser

theorem holdsWords_parse? {s : String} {v : Json} (h : parse? s = some v) : v.HoldsWords := by
  unfold parse? at h
  split at h
  · rename_i w rest hw
    split at h
    · cases h
      exact Parser.readsWords_value _ _ _ _ hw
    · cases h
  · cases h

/-! ## Sorting -/

theorem holdsWords_insertMember {key : String} {v : Json} {members : List (String × Json)}
    (hv : v.HoldsWords) (h : ∀ m ∈ members, m.2.HoldsWords) :
    ∀ m ∈ insertMember key v members, m.2.HoldsWords := by
  intro m hm
  rcases mem_insertMember hm with rfl | hm
  · exact hv
  · exact h m hm

mutual

/-- Sorting keeps the integers of a value. -/
theorem HoldsWords.sorted : ∀ {v : Json}, v.HoldsWords → v.sorted.HoldsWords
  | .arr items, h => by
    rw [Json.sorted, holdsWords_arr]
    exact holdsWords_sortedList items (holdsWords_arr.1 h)
  | .obj members, h => by
    rw [Json.sorted, holdsWords_obj]
    exact holdsWords_sortedMembers members [] (holdsWords_obj.1 h) (by simp)
  | .null, h | .bool _, h | .int _, h | .float _, h | .str _, h => h

theorem holdsWords_sortedList : ∀ (items : List Json), (∀ v ∈ items, v.HoldsWords) →
    ∀ v ∈ sortedList items, v.HoldsWords
  | [], h => h
  | v :: rest, h => by
    rw [sortedList]
    exact List.forall_mem_cons.2 ⟨HoldsWords.sorted (h v List.mem_cons_self),
      holdsWords_sortedList rest fun w hw => h w (List.mem_cons_of_mem v hw)⟩

theorem holdsWords_sortedMembers : ∀ (members done : List (String × Json)),
    (∀ m ∈ members, m.2.HoldsWords) → (∀ m ∈ done, m.2.HoldsWords) →
      ∀ m ∈ sortedMembers members done, m.2.HoldsWords
  | [], done, _, hdone => by
    rw [sortedMembers]
    exact hdone
  | (k, v) :: rest, done, h, hdone => by
    rw [sortedMembers]
    have hv : v.sorted.HoldsWords := HoldsWords.sorted (h (k, v) List.mem_cons_self)
    exact holdsWords_sortedMembers rest _ (fun m hm => h m (List.mem_cons_of_mem _ hm))
      (holdsWords_insertMember hv hdone)

end

/-- Every integer of a value that is read from a text fits a machine word. -/
theorem holdsWords_parseSorted? {s : String} {v : Json} (h : parseSorted? s = some v) :
    v.HoldsWords := by
  obtain ⟨w, hw, rfl⟩ := Option.map_eq_some_iff.1 h
  exact (holdsWords_parse? hw).sorted

end RichText.Json
