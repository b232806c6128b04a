import RichText.Document.Tree.Text
import RichText.Opcode.Basic

/-!
# Opcodes as JSON

An opcode is written as an array with its name first and its parameters after it, and a sequence of
opcodes as the array of these.
-/

namespace RichText

/-- An opcode as an array. -/
def Opcode.toJson (o : Opcode) : Json := .arr (.str o.name :: o.params.toList)

/-- The opcode that an array writes. -/
def Opcode.ofJson : TreeReader Opcode
  | .arr (.str name :: params) => .ok (.variadic name params)
  | .arr (v :: _) => .error (.opcodeName v)
  | .arr [] => .error .namelessOpcode
  | v => .error (.wrongType v .sequence)

namespace Opcodes

/-- A sequence of opcodes as an array. -/
def toJson (ops : Opcodes) : Json := .arr (ops.toList.map Opcode.toJson)

/-- The sequence of opcodes that an array writes. The first faulty opcode is reported. -/
def ofJson : TreeReader Opcodes := fun v => List.toArray <$> TreeReader.sequence Opcode.ofJson v

/-- The fault of the first faulty opcode among the complete ones, or else of the one after them. -/
def itemsFault (next : Json.Opening) : List Json → TreeFault
  | [] => if next = .object then .wrongType (.obj []) .sequence else .malformed
  | v :: rest =>
    match Opcode.ofJson v with
    | .error fault => fault
    | .ok _ => itemsFault next rest

/-- The first fault that the readable part of a text shows. -/
def fragmentFault : Json.Fragment → TreeFault
  | .array items next => itemsFault next items
  | .object _ _ _ => .wrongType (.obj []) .sequence
  | .other => .malformed

/-- The sequence of opcodes that a text writes, read from left to right: a faulty opcode is reported
even if the text breaks off after it. -/
def ofText (s : String) : TreeResult Opcodes :=
  match Json.Parser.value Json.Parser.maxDepth s.toList with
  | some (v, rest) => do
    let ops ← ofJson v.sorted
    if Json.Parser.skipBlanks rest = [] then return ops else .error .malformed
  | none => .error (fragmentFault (.ofText s.toList))

end Opcodes

end RichText
