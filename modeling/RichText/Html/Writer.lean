import RichText.Document.Tags
import RichText.Html.Escape
import RichText.Opcode.Param
import RichText.Opcode.Run

/-!
# The HTML target

Opcodes that write HTML. The target holds the text written so far and the stack of markups that are
open; elements are not tracked, but no element may close while a markup is open.

Tags and attribute names are written raw, so every handler checks them against the lists of
`Document.Tags` before it writes anything. A handler that fails leaves the target as it was.
-/

namespace RichText.Html

/-- HTML written so far, and the tags of the open markups, innermost first. -/
structure Writer where
  html : String := ""
  openMarkups : List String := []
deriving DecidableEq

/-- Checks a condition on a parameter. -/
def require (holds : Bool) (index : Nat) (expected : ParamShape) (found : String) :
    Except Error Unit :=
  if holds then .ok () else .error (.invalidParam index expected found)

/-- The tag of an element: that of a list item, of a block of text or of a list. -/
def elementTag (p : Json) : Except Error String := do
  let tag ← Param.text p 0
  require (tag == "li" || isMarkupSectionTag tag || isListSectionTag tag) 0 .sectionTag tag
  return tag

/-- The tag of a markup. -/
def markupTag (p : Json) : Except Error String := do
  let tag ← Param.text p 0
  require (isMarkupTag tag) 0 .markupTag tag
  return tag

/-- The attributes of a markup, in the order given. -/
def markupAttributes (p : Json) : Except Error (List (String × String)) := do
  let pairs ← Param.pairs p 1
  match pairs.find? fun e => !isAttributeName e.1 with
  | some (name, _) => .error (.invalidParam 1 .attributeNames name)
  | none => return pairs

/-- One attribute, with the blank before it. -/
def attributeText (e : String × String) : String := " " ++ e.1 ++ "=\"" ++ escape e.2 ++ "\""

/-- A start tag. -/
def startTag (tag : String) (attributes : List (String × String)) : String :=
  "<" ++ tag ++ String.join (attributes.map attributeText) ++ ">"

/-- An end tag. -/
def endTag (tag : String) : String := "</" ++ tag ++ ">"

namespace Writer

/-- Writes at the end. -/
def write (w : Writer) (s : String) : Writer := { w with html := w.html ++ s }

/-- Starts an element. -/
def openElement (tag : Json) (w : Writer) : Outcome Writer :=
  .given w (elementTag tag) fun tag => .ok (w.write (startTag tag []))

/-- Ends an element, which no open markup may cross. -/
def closeElement (tag : Json) (w : Writer) : Outcome Writer :=
  .given w (elementTag tag) fun tag =>
    if w.openMarkups.isEmpty then .ok (w.write (endTag tag))
    else .failed (.misplaced "closeElement" .openMarkups) w

/-- Starts a markup, which is then open. -/
def openMarkup (tag attributes : Json) (w : Writer) : Outcome Writer :=
  .given w (markupTag tag) fun tag =>
    .given w (markupAttributes attributes) fun attributes =>
      .ok ⟨w.html ++ startTag tag attributes, tag :: w.openMarkups⟩

/-- Writes text. -/
def text (value : Json) (w : Writer) : Outcome Writer :=
  .given w (Param.text value 0) fun s => .ok (w.write (escape s))

/-- Ends the innermost open markups. -/
def closeMarkups (count : Json) (w : Writer) : Outcome Writer :=
  .given w (Param.count count 0) fun n =>
    if n ≤ w.openMarkups.length then
      .ok ⟨w.html ++ String.join ((w.openMarkups.take n).map endTag), w.openMarkups.drop n⟩
    else .failed (.invalidParam 0 .closeCount (toString n)) w

/-- Writes an image. -/
def image (src : Json) (w : Writer) : Outcome Writer :=
  .given w (Param.text src 0) fun src => .ok (w.write (startTag "img" [("src", src)]))

/-- Writes the place of a card, which has no form of its own in HTML. -/
def card (name _payload : Json) (w : Writer) : Outcome Writer :=
  .given w (Param.text name 0) fun name =>
    .ok (w.write (startTag "div" [("data-card", name)] ++ endTag "div"))

/-- The opcodes that write HTML. -/
def handlers : HandlerTable Writer := .ofRegistrations [
  ("openElement", .unary openElement),
  ("closeElement", .unary closeElement),
  ("openMarkup", .binary openMarkup),
  ("text", .unary text),
  ("closeMarkups", .unary closeMarkups),
  ("image", .unary image),
  ("card", .binary card)]

end Writer

end RichText.Html
