import RichText.Json.Printer
import RichText.Text.Quoted

/-!
# Why JSON describes no document

The faults that a reader of well-formed JSON can find, and one for text that is not JSON at all.
Each is a cause with its data; `TreeFault.message` is the only place that words them.
-/

namespace RichText

/-- What a reader looked for. -/
inductive TreePart where
  | node
  | blockNode
  | record (name : String)
  | tag
  | text
  | sequence
  | map
  | count
  | textOrMap
  | nothing
deriving DecidableEq

/-- What is wrong with JSON that should describe a document, a part of one, or opcodes. -/
inductive TreeFault where
  /-- The text is not JSON. -/
  | malformed
  /-- A value of the wrong type. -/
  | wrongType (found : Json) (expected : TreePart)
  /-- A negative number where a count stands. -/
  | negativeCount (n : Int)
  /-- A tag given by its position, which is beyond the last of `size` tags. -/
  | tagOutOfRange (n size : Nat)
  /-- An object that should have a single member. -/
  | notSingleMember
  | missingField (field : String)
  | duplicateField (field : String)
  | unknownTag (tag : String) (known : List String)
  /-- An array too short for the required fields of a record. -/
  | missingItem (record : String) (fields : Nat)
  /-- An array with more items than the record has fields. -/
  | tooManyItems (found fields : Nat)
  | namelessOpcode
  | opcodeName (found : Json)
deriving DecidableEq

namespace TreePart

/-- How a message names what was expected. -/
def describe : TreePart → String
  | node => "internally tagged enum Node"
  | blockNode => "internally tagged enum Section"
  | record name => "struct " ++ name
  | tag => "variant identifier"
  | text => "a string"
  | sequence => "a sequence"
  | map => "a map"
  | count => "usize"
  | textOrMap => "string or map"
  | nothing => "unit"

end TreePart

/-- How a message names the value that was found. -/
def Json.describe : Json → String
  | null => "null"
  | bool b => "boolean `" ++ (bool b).compact ++ "`"
  | int n => "integer `" ++ intText n ++ "`"
  | float x => "floating point `" ++ (float x).compact ++ "`"
  | str s => "string " ++ Quoted.encode s
  | arr _ => "sequence"
  | obj _ => "map"

namespace TreeFault

/-- A number of elements, in words that agree with it. -/
def elements (n : Nat) : String :=
  if n = 1 then "1 element" else toString n ++ " elements"

/-- Names between backticks, with commas between them. -/
def alternatives (names : List String) : String :=
  ", ".intercalate (names.map fun n => "`" ++ n ++ "`")

/-- The wording of a fault. -/
def message : TreeFault → String
  | malformed => "syntax"
  | wrongType found expected =>
    "invalid type: " ++ found.describe ++ ", expected " ++ expected.describe
  | negativeCount n =>
    "invalid value: " ++ (Json.int n).describe ++ ", expected usize"
  | tagOutOfRange n size =>
    "invalid value: " ++ (Json.nat n).describe ++
      ", expected variant index 0 <= i < " ++ toString size
  | notSingleMember => "invalid value: map, expected map with a single key"
  | missingField field => "missing field `" ++ field ++ "`"
  | duplicateField field => "duplicate field `" ++ field ++ "`"
  | unknownTag tag known =>
    "unknown variant `" ++ tag ++ "`, expected one of " ++ alternatives known
  | missingItem record fields =>
    "invalid length 0, expected struct " ++ record ++ " with " ++ elements fields
  | tooManyItems found fields =>
    "invalid length " ++ toString found ++ ", expected " ++ elements fields ++
      " in sequence"
  | namelessOpcode => "opcode must have a name"
  | opcodeName found => "opcode name must be a string, got " ++ found.compact

end TreeFault

end RichText
