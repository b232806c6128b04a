import RichText.Error

/-!
# Reading parameters

A handler reads its parameters through these functions. A parameter of the wrong shape is an error
that names its position and shows it.
-/

namespace RichText.Param

/-- A text. -/
def text (p : Json) (index : Nat) : Except Error String :=
  match p.str? with
  | some s => .ok s
  | none => .error (.invalidParam index .text p.compact)

/-- A non-negative integer. -/
def count (p : Json) (index : Nat) : Except Error Nat :=
  match p.nat? with
  | some n => .ok n
  | none => .error (.invalidParam index .count p.compact)

/-- Names and values in turn, all of them texts. -/
def pairsOf? : List Json → Option (List (String × String))
  | [] => some []
  | .str k :: .str v :: rest => (pairsOf? rest).map ((k, v) :: ·)
  | _ => none

/-- An array of names and values in turn, as pairs. -/
def pairs (p : Json) (index : Nat) : Except Error (List (String × String)) :=
  match p.arr?.bind pairsOf? with
  | some ps => .ok ps
  | none => .error (.invalidParam index .pairs p.compact)

end RichText.Param
