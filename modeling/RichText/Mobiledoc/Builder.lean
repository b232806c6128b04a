import RichText.Mobiledoc.Basic
import RichText.Opcode.Param
import RichText.Opcode.Run

/-!
# The Mobiledoc target

Opcodes that build a Mobiledoc. No opcode closes anything: a marker goes to the last section, or to
the last item of it if it is a list, and a markup goes to the last marker there.

**Tables.** Every card section gets an entry of its own in the table of cards. An entry of the table
of markups is shared by all markups with the same tag and attributes; `Builder.index` remembers
where an entry stands.
-/

namespace RichText

/-- A Mobiledoc under construction, with the position of each entry of its table of markups. -/
structure Builder where
  doc : Mobiledoc := {}
  index : List (MarkupEntry × Nat) := []
deriving DecidableEq

namespace Builder

/-- Adds a section at the end. -/
def addSection (b : Builder) (s : SectionEntry) : Builder :=
  { b with doc := { b.doc with sections := b.doc.sections ++ [s] } }

/-- Replaces the list of markers to which new markers go by its image under `f`. -/
def updateMarkers (opcode : String) (f : List MarkerEntry → Except Error (List MarkerEntry))
    (sections : List SectionEntry) : Except Error (List SectionEntry) :=
  match sections.getLast? with
  | some (.markup tagName markers) => do
    return sections.dropLast ++ [.markup tagName (← f markers)]
  | some (.list tagName items) =>
    match items.getLast? with
    | some markers => do
      return sections.dropLast ++ [.list tagName (items.dropLast ++ [← f markers])]
    | none => .error (.misplaced opcode .noItem)
  | _ => .error (.misplaced opcode .noSection)

/-- The builder with its sections replaced, or the error that keeps it as it is. -/
def withSections (b : Builder) (sections : Except Error (List SectionEntry)) : Outcome Builder :=
  .given b sections fun sections => .ok { b with doc := { b.doc with sections } }

/-- The position of an entry in the table of markups, where it is added if it is not there yet. -/
def intern (b : Builder) (e : MarkupEntry) : Nat × Builder :=
  match b.index.lookup e with
  | some i => (i, b)
  | none =>
    let i := b.doc.markups.length
    (i, ⟨{ b.doc with markups := b.doc.markups ++ [e] }, (e, i) :: b.index⟩)

/-- Lets the last marker open the markup at position `i` of the table. -/
def openAt (i : Nat) (markers : List MarkerEntry) : Except Error (List MarkerEntry) :=
  match markers.getLast? with
  | some m => .ok (markers.dropLast ++ [{ m with opened := m.opened ++ [i] }])
  | none => .error (.misplaced "openMarkup" .noMarker)

/-! ## Handlers -/

/-- Starts a document; what was built before is forgotten. -/
def openPost (_ : Builder) : Outcome Builder := .ok {}

/-- Adds a block of marked-up text without markers. -/
def openMarkupSection (tagName : Json) (b : Builder) : Outcome Builder :=
  .given b (Param.text tagName 0) fun tagName => .ok (b.addSection (.markup tagName []))

/-- Adds a list without items. -/
def openListSection (tagName : Json) (b : Builder) : Outcome Builder :=
  .given b (Param.text tagName 0) fun tagName => .ok (b.addSection (.list tagName []))

/-- Adds an item without markers to the list that stands last. -/
def openListItem (b : Builder) : Outcome Builder :=
  b.withSections <|
    match b.doc.sections.getLast? with
    | some (.list tagName items) =>
      .ok (b.doc.sections.dropLast ++ [.list tagName (items ++ [[]])])
    | _ => .error (.misplaced "openListItem" .noList)

/-- Adds an image. -/
def openImageSection (src : Json) (b : Builder) : Outcome Builder :=
  .given b (Param.text src 0) fun src => .ok (b.addSection (.image src))

/-- Adds a card and its entry in the table of cards. -/
def openCardSection (name payload : Json) (b : Builder) : Outcome Builder :=
  .given b (Param.text name 0) fun name =>
    let doc := { b.doc with cards := b.doc.cards ++ [(name, payload)] }
    .ok ({ b with doc }.addSection (.card b.doc.cards.length))

/-- Adds a marker. -/
def openMarker (closed value : Json) (b : Builder) : Outcome Builder :=
  .given b (Param.count closed 0) fun closed =>
    .given b (Param.text value 1) fun value =>
      b.withSections <| updateMarkers "openMarker"
        (fun markers => .ok (markers ++ [⟨[], closed, value⟩])) b.doc.sections

/-- Lets the last marker open a markup. The entry in the table is made before the place is looked
for, and stays if there is none. -/
def openMarkup (tagName attributes : Json) (b : Builder) : Outcome Builder :=
  .given b (Param.text tagName 0) fun tagName =>
    .given b (Param.pairs attributes 1) fun pairs =>
      let (i, b) := b.intern ⟨tagName, pairs.flatMap fun e => [e.1, e.2]⟩
      b.withSections (updateMarkers "openMarkup" (openAt i) b.doc.sections)

/-- The opcodes that build a Mobiledoc. -/
def handlers : HandlerTable Builder := .ofRegistrations [
  ("openPost", .nullary openPost),
  ("openMarkupSection", .unary openMarkupSection),
  ("openListSection", .unary openListSection),
  ("openListItem", .nullary openListItem),
  ("openImageSection", .unary openImageSection),
  ("openCardSection", .binary openCardSection),
  ("openMarker", .binary openMarker),
  ("openMarkup", .binary openMarkup)]

end Builder

end RichText
