import RichText.Json.Printer

/-!
# Opcodes

An opcode is the name of a handler with the parameters for it. None, one and two parameters are
stored in forms of their own, so a handler that takes so many finds them by matching; more are
stored as a list.

The list itself may have any length, and then the form would not tell how many parameters there are.
In an opcode it has three items at least (`Params.Normal`). Opcodes are built in ways that see to
this, so every list of parameters is stored in one form only.
-/

namespace RichText

/-- Parameters as they are stored, in order. -/
inductive Params where
  | none
  | one (a : Json)
  | two (a b : Json)
  | many (all : List Json)
deriving DecidableEq

namespace Params

/-- The parameters in order. -/
def toList : Params → List Json
  | none => []
  | one a => [a]
  | two a b => [a, b]
  | many all => all

/-- How a list of parameters is stored. -/
def ofList : List Json → Params
  | [] => none
  | [a] => one a
  | [a, b] => two a b
  | a :: b :: c :: rest => many (a :: b :: c :: rest)

/-- Only three parameters or more are stored as a list. -/
def Normal : Params → Prop
  | many all => 3 ≤ all.length
  | none | one _ | two _ _ => True

@[simp] theorem toList_ofList (ps : List Json) : (ofList ps).toList = ps := by
  match ps with
  | [] | [_] | [_, _] | _ :: _ :: _ :: _ => rfl

theorem normal_ofList (ps : List Json) : (ofList ps).Normal := by
  match ps with
  | [] | [_] | [_, _] => trivial
  | _ :: _ :: _ :: rest => exact Nat.le_add_left 3 rest.length

/-- Parameters in normal form are stored as the list of them would be. -/
theorem Normal.ofList_toList {ps : Params} (h : ps.Normal) : ofList ps.toList = ps := by
  cases ps with
  | many all =>
    match all, h with
    | _ :: _ :: _ :: _, _ => rfl
  | none | one _ | two _ _ => rfl

/-- How many parameters there are. -/
def size (ps : Params) : Nat := ps.toList.length

/-- Whether the form is that for no parameter. -/
def isEmpty : Params → Bool
  | none => true
  | _ => false

/-- The name of the form. -/
def form : Params → String
  | none => "none"
  | one _ => "one"
  | two _ _ => "two"
  | many _ => "many"

end Params

/-- One instruction: the name of a handler and the parameters for it, in normal form. -/
structure Opcode where
  name : String
  params : Params
  normal : params.Normal
deriving DecidableEq

namespace Opcode

/-- An opcode without parameters. -/
def nullary (name : String) : Opcode := ⟨name, .none, trivial⟩

/-- An opcode with one parameter. -/
def unary (name : String) (a : Json) : Opcode := ⟨name, .one a, trivial⟩

/-- An opcode with two parameters. -/
def binary (name : String) (a b : Json) : Opcode := ⟨name, .two a b, trivial⟩

/-- An opcode with any number of parameters. -/
def variadic (name : String) (params : List Json) : Opcode :=
  ⟨name, .ofList params, Params.normal_ofList params⟩

/-- The name of an opcode and the list of its parameters determine it. -/
@[simp] theorem variadic_toList (o : Opcode) : variadic o.name o.params.toList = o := by
  obtain ⟨name, params, hnormal⟩ := o
  simp only [variadic, hnormal.ofList_toList]

/-- The opcode as a call: its name, and its parameters between parentheses. -/
def display (o : Opcode) : String :=
  o.name ++ "(" ++ ", ".intercalate (o.params.toList.map Json.compact) ++ ")"

end Opcode

/-- A sequence of opcodes in the order in which they are to run. -/
abbrev Opcodes := Array Opcode

end RichText
