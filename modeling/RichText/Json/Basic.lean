import RichText.Json.Binary64

/-!
# JSON values

`Json` holds a JSON text as a tree, with the members of an object in the order in which they stand
and with every repetition. A value built by a program, or read without regard to that order, has its
members sorted by name and each name once (`Json.sorted`).

Integers are exact. A number that is written with a fraction or an exponent, or is too large for the
machine, is a double and never taken for an integer.
-/

namespace RichText

/-- A JSON value. -/
inductive Json where
  | null
  | bool (b : Bool)
  | int (n : Int)
  | float (x : Binary64)
  | str (s : String)
  | arr (items : List Json)
  | obj (members : List (String × Json))

namespace Json

instance : Inhabited Json := ⟨null⟩

/-- A natural number as a value. -/
def nat (n : Nat) : Json := .int n

/-- A list of texts as a value. -/
def strings (ss : List String) : Json := .arr (ss.map .str)

/-! ## Equality -/

mutual

/-- Equality of values is decidable. -/
def decEq : (a b : Json) → Decidable (a = b)
  | .null, .null => isTrue rfl
  | .bool a, .bool b => decidable_of_iff (a = b) (by simp)
  | .int a, .int b => decidable_of_iff (a = b) (by simp)
  | .float a, .float b => decidable_of_iff (a = b) (by simp)
  | .str a, .str b => decidable_of_iff (a = b) (by simp)
  | .arr as, .arr bs =>
    have := decEqList as bs
    decidable_of_iff (as = bs) (by simp)
  | .obj as, .obj bs =>
    have := decEqMembers as bs
    decidable_of_iff (as = bs) (by simp)
  | .null, .bool _ | .null, .int _ | .null, .float _ | .null, .str _ | .null, .arr _
  | .null, .obj _ | .bool _, .null | .bool _, .int _ | .bool _, .float _ | .bool _, .str _
  | .bool _, .arr _ | .bool _, .obj _ | .int _, .null | .int _, .bool _ | .int _, .float _
  | .int _, .str _ | .int _, .arr _ | .int _, .obj _ | .float _, .null | .float _, .bool _
  | .float _, .int _ | .float _, .str _ | .float _, .arr _ | .float _, .obj _ | .str _, .null
  | .str _, .bool _ | .str _, .int _ | .str _, .float _ | .str _, .arr _ | .str _, .obj _
  | .arr _, .null | .arr _, .bool _ | .arr _, .int _ | .arr _, .float _ | .arr _, .str _
  | .arr _, .obj _ | .obj _, .null | .obj _, .bool _ | .obj _, .int _ | .obj _, .float _
  | .obj _, .str _ | .obj _, .arr _ => isFalse (by simp)

/-- Equality of lists of values is decidable. -/
def decEqList : (as bs : List Json) → Decidable (as = bs)
  | [], [] => isTrue rfl
  | a :: as, b :: bs =>
    have := decEq a b
    have := decEqList as bs
    decidable_of_iff (a = b ∧ as = bs) (by simp)
  | [], _ :: _ | _ :: _, [] => isFalse (by simp)

/-- Equality of lists of members is decidable. -/
def decEqMembers : (as bs : List (String × Json)) → Decidable (as = bs)
  | [], [] => isTrue rfl
  | (k, a) :: as, (l, b) :: bs =>
    have := decEq a b
    have := decEqMembers as bs
    decidable_of_iff (k = l ∧ a = b ∧ as = bs) (by simp [and_assoc])
  | [], _ :: _ | _ :: _, [] => isFalse (by simp)

end

instance : DecidableEq Json := decEq

/-! ## Parts of a value -/

/-- The member of an object under `key`; none if the value is no object. -/
def get? (v : Json) (key : String) : Option Json :=
  match v with
  | .obj members => members.lookup key
  | _ => none

/-- The text, if the value is one. -/
def str? : Json → Option String
  | .str s => some s
  | _ => none

/-- The natural number, if the value is one. -/
def nat? : Json → Option Nat
  | .int (.ofNat n) => some n
  | _ => none

/-- The items, if the value is an array. -/
def arr? : Json → Option (List Json)
  | .arr items => some items
  | _ => none

@[simp] theorem str?_str (s : String) : (Json.str s).str? = some s := rfl

@[simp] theorem nat?_nat (n : Nat) : (nat n).nat? = some n := rfl

@[simp] theorem arr?_arr (items : List Json) : (Json.arr items).arr? = some items := rfl

/-! ## Values with sorted members -/

/-- Puts a member in its place by name, in front of a list sorted by name; it replaces the member of
the same name. -/
def insertMember (key : String) (v : Json) : List (String × Json) → List (String × Json)
  | [] => [(key, v)]
  | (k, w) :: rest =>
    if key < k then (key, v) :: (k, w) :: rest
    else if key = k then (key, v) :: rest
    else (k, w) :: insertMember key v rest

mutual

/-- The value with the members of every object sorted by name, the last of each name kept. -/
def sorted : Json → Json
  | .arr items => .arr (sortedList items)
  | .obj members => .obj (sortedMembers members [])
  | v => v

/-- Every item, sorted. -/
def sortedList : List Json → List Json
  | [] => []
  | v :: rest => v.sorted :: sortedList rest

/-- Puts members one by one into the sorted list `done`. -/
def sortedMembers : List (String × Json) → List (String × Json) → List (String × Json)
  | [], done => done
  | (k, v) :: rest, done => sortedMembers rest (insertMember k v.sorted done)

end

end Json

end RichText
