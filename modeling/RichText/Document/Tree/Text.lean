import RichText.Document.Tree.Reader
import RichText.Json.Fragment

/-!
# Documents from text

A node is read from a text from left to right. A fault of the root's tag is found as soon as the tag
is reached; the other members are looked at when the root is complete, and what follows the root
last. So a text that is not JSON may still be answered by a fault of its tree.
-/

namespace RichText

/-- The value of the type with which a value opens. -/
def Json.Opening.sample? : Json.Opening → Option Json
  | .array => some (.arr [])
  | .object => some (.obj [])
  | .other => none

namespace TagTable

/-- The fault that a tag shows which cannot be read to its end. -/
def openingFault (next : Json.Opening) : TreeFault :=
  match next.sample? with
  | some v => .wrongType v .tag
  | none => .malformed

/-- The first fault that the complete members of an object and the start of the next one show. -/
def memberFault (table : TagTable α) (key : Option String) (next : Json.Opening) (seen : Bool) :
    List (String × Json) → TreeFault
  | [] =>
    if key = some "type" then if seen then .duplicateField "type" else openingFault next
    else .malformed
  | (k, v) :: rest =>
    if k = "type" then
      if seen then .duplicateField "type"
      else
        match table.select false v with
        | .error fault => fault
        | .ok _ => memberFault table key next true rest
    else memberFault table key next seen rest

/-- The first fault that the readable part of a text shows. -/
def fragmentFault (table : TagTable α) : Json.Fragment → TreeFault
  | .object members key next => memberFault table key next false members
  | .array (tag :: _) _ =>
    match table.select false tag with
    | .error fault => fault
    | .ok _ => .malformed
  | .array [] next => openingFault next
  | .other => .malformed

end TagTable

/-- The node that a text writes. -/
def Node.ofText (s : String) : TreeResult Node :=
  match Json.Parser.value Json.Parser.maxDepth s.toList with
  | some (v, rest) => do
    let node ← Node.ofJson v
    if Json.Parser.skipBlanks rest = [] then return node.mapPayload Json.sorted
    else .error .malformed
  | none => .error (Node.tagTable.fragmentFault (.ofText s.toList))

/-- The node that a text writes, read without regard to the order of members: the text has to be
JSON throughout, the members of each object are taken in order of names, and the last of each name
counts. -/
def Node.ofSortedText (s : String) : TreeResult Node :=
  match Json.parseSorted? s with
  | some v => Node.ofJson v
  | none => .error .malformed

end RichText
