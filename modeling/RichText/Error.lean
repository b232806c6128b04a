import RichText.Document.Basic
import RichText.Document.Tree.Fault
import RichText.Mobiledoc.Fault

/-!
# Errors

Everything that can go wrong between an input and an output, as causes. `Error.message` words them.
-/

namespace RichText

/-- What a handler asks of a parameter. -/
inductive ParamShape where
  | text
  | count
  | pairs
  | sectionTag
  | markupTag
  | attributeNames
  | closeCount
deriving DecidableEq

/-- Why an opcode cannot stand where it does. -/
inductive Misplacement where
  | openMarkups
  | noList
  | noItem
  | noSection
  | noMarker
deriving DecidableEq

/-- Why an input could not be read at all. -/
inductive InputFault where
  | missing
  | notUtf8
  | other (reason : String)
deriving DecidableEq

/-- An error of visiting, running, reading or loading. -/
inductive Error where
  /-- A visitor has no entry for a kind of node. -/
  | unknownNodeType (type : NodeType)
  /-- No handler is registered for the opcode at a position. -/
  | unknownOpcode (name : String) (index : Nat)
  /-- A handler of fixed arity met another number of parameters. -/
  | arityMismatch (name : String) (expected found : Nat)
  /-- A handler met a parameter of the wrong shape. -/
  | invalidParam (index : Nat) (expected : ParamShape) (found : String)
  /-- A target met an opcode outside the structure it belongs to. -/
  | misplaced (opcode : String) (reason : Misplacement)
  | invalidMobiledoc (fault : MobiledocFault)
  | json (fault : TreeFault)
  | input (fault : InputFault)
deriving DecidableEq

/-- How a message names the shape of a parameter. -/
def ParamShape.describe : ParamShape → String
  | text => "a string"
  | count => "a non-negative integer"
  | pairs => "an even-length array of strings"
  | sectionTag => "a known section tag"
  | markupTag => "a known markup tag"
  | attributeNames => "plain attribute names"
  | closeCount => "a count no larger than the open markups"

/-- The wording of a misplacement. -/
def Misplacement.message : Misplacement → String
  | openMarkups => "markups are still open"
  | noList => "no open list section"
  | noItem => "list section has no open item"
  | noSection => "no open markup section or list item"
  | noMarker => "no open marker"

/-- The wording of a failure to read. -/
def InputFault.message : InputFault → String
  | missing => "No such file or directory (os error 2)"
  | notUtf8 => "stream did not contain valid UTF-8"
  | other reason => reason

/-- The wording of an error. -/
def Error.message : Error → String
  | unknownNodeType type => "Cannot visit unknown type " ++ type.name
  | unknownOpcode name index =>
    "Cannot compile unknown opcode '" ++ name ++ "' at position " ++ toString index
  | arityMismatch name expected found =>
    "Opcode '" ++ name ++ "' expects " ++ toString expected ++ " parameter(s), got " ++
      toString found
  | invalidParam index expected found =>
    "Invalid parameter " ++ toString index ++ ": expected " ++ expected.describe ++ ", got " ++
      found
  | misplaced opcode reason => "Opcode '" ++ opcode ++ "' is not valid here: " ++ reason.message
  | invalidMobiledoc fault => "Invalid mobiledoc: " ++ fault.message
  | json fault => "JSON error: " ++ fault.message
  | input fault => "I/O error: " ++ fault.message

end RichText
