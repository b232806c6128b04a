import RichText.Opcode.Run

/-!
# Visiting documents

A visitor says, for each kind of node, which opcodes a node of that kind emits and which children
are visited between them. A kind may be without an entry; reaching a node of such a kind is an
error.

**Entries.** An entry maps a node to a list of steps, each of which emits an opcode or descends into
children of the kind that stands below. Descent goes from posts to sections, from sections to items
and markers, from items to markers, and from markers to markups, so visiting ends.

**Result.** Opcodes are appended to a sequence. What was appended before an error stays.
-/

namespace RichText

/-- One step of an entry for nodes whose children have type `α`. -/
inductive Step (α : Type) where
  | emit (o : Opcode)
  | descend (children : List α)

/-- For each kind of node the steps it takes, if the visitor has an entry for it. -/
structure Visitor where
  post : Option (Post → List (Step Section)) := none
  markupSection : Option (MarkupSection → List (Step Marker)) := none
  listSection : Option (ListSection → List (Step ListItem)) := none
  listItem : Option (ListItem → List (Step Marker)) := none
  imageSection : Option (ImageSection → List Opcode) := none
  card : Option (Card → List Opcode) := none
  marker : Option (Marker → List (Step Markup)) := none
  markup : Option (Markup → List Opcode) := none

/-- A visit: what it does to the opcodes emitted so far. -/
abbrev Visit := Opcodes → Outcome Opcodes

namespace Visit

variable {α : Type}

/-- Emits opcodes. -/
def emit (os : List Opcode) : Visit := fun ops => .ok (ops ++ os.toArray)

/-- Visits each of a list in order and stops at the first failure. -/
def each (visit : α → Visit) : List α → Visit
  | [], ops => .ok ops
  | a :: rest, ops => (visit a ops).andThen (each visit rest)

/-- Takes steps in order, where `child` visits a child. -/
def steps (child : α → Visit) : List (Step α) → Visit
  | [], ops => .ok ops
  | .emit o :: rest, ops => steps child rest (ops.push o)
  | .descend children :: rest, ops => (each child children ops).andThen (steps child rest)

/-- Runs the entry for a kind of node, if there is one. -/
def entry (type : NodeType) (f : Option (α → Visit)) (a : α) : Visit :=
  match f with
  | some f => f a
  | none => .failed (.unknownNodeType type)

end Visit

namespace Visitor

variable (v : Visitor)

/-- Visits a markup. -/
def visitMarkup : Markup → Visit := Visit.entry .markup (v.markup.map (Visit.emit ∘ ·))

/-- Visits a marker. -/
def visitMarker : Marker → Visit :=
  Visit.entry .marker (v.marker.map (Visit.steps v.visitMarkup ∘ ·))

/-- Visits a list item. -/
def visitItem : ListItem → Visit :=
  Visit.entry .listItem (v.listItem.map (Visit.steps v.visitMarker ∘ ·))

/-- Visits a block of marked-up text. -/
def visitMarkupSection : MarkupSection → Visit :=
  Visit.entry .markupSection (v.markupSection.map (Visit.steps v.visitMarker ∘ ·))

/-- Visits a list. -/
def visitListSection : ListSection → Visit :=
  Visit.entry .listSection (v.listSection.map (Visit.steps v.visitItem ∘ ·))

/-- Visits an image. -/
def visitImage : ImageSection → Visit :=
  Visit.entry .imageSection (v.imageSection.map (Visit.emit ∘ ·))

/-- Visits a card. -/
def visitCard : Card → Visit := Visit.entry .card (v.card.map (Visit.emit ∘ ·))

/-- Visits a section by its kind. -/
def visitSection : Section → Visit
  | .markup s => v.visitMarkupSection s
  | .list s => v.visitListSection s
  | .image s => v.visitImage s
  | .card c => v.visitCard c

/-- Visits a post. -/
def visitPost : Post → Visit := Visit.entry .post (v.post.map (Visit.steps v.visitSection ∘ ·))

/-- Visits a node by its kind. -/
def visit : Node → Visit
  | .post n => v.visitPost n
  | .markupSection n => v.visitMarkupSection n
  | .listSection n => v.visitListSection n
  | .listItem n => v.visitItem n
  | .imageSection n => v.visitImage n
  | .card n => v.visitCard n
  | .marker n => v.visitMarker n
  | .markup n => v.visitMarkup n

/-- Visits nodes in order and stops at the first failure. -/
def visitAll : List Node → Visit := Visit.each v.visit

/-- The opcodes that a node emits on its own. -/
def opcodes (n : Node) : Except Error Opcodes := (v.visit n #[]).toExcept

end Visitor

end RichText
