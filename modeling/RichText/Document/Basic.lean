import RichText.Document.Attributes
import RichText.Json.Basic

/-!
# Rich-text documents

A post is a list of sections: blocks of marked-up text, lists, images, and cards, which are named
blocks with a payload that the document does not look into.

Inline content is a list of markers. Markups nest like a stack across the markers of one section or
one list item: a marker first opens `openedMarkups`, outermost first, then comes its text, then it
closes the `closedCount` innermost markups that are open.
-/

namespace RichText

/-- An inline format with its attributes, such as emphasis or a link. -/
structure Markup where
  tagName : String
  attributes : Attributes := .empty
deriving DecidableEq, Inhabited

/-- Sets an attribute of a markup. -/
def Markup.attribute (m : Markup) (key value : String) : Markup :=
  { m with attributes := m.attributes.insert key value }

/-- The attributes as names and values in turn, in increasing order of names. -/
def Markup.sortedAttributes (m : Markup) : List String := m.attributes.flatten

/-- A piece of text together with the markups that begin before it and end after it. -/
structure Marker where
  value : String
  openedMarkups : List Markup := []
  closedCount : Nat := 0
deriving DecidableEq, Inhabited

/-- An entry of a list. -/
structure ListItem where
  markers : List Marker := []
deriving DecidableEq, Inhabited

/-- A block of marked-up text: a paragraph, a heading, a quotation. -/
structure MarkupSection where
  tagName : String
  markers : List Marker := []
deriving DecidableEq, Inhabited

/-- A list, ordered or not. -/
structure ListSection where
  tagName : String
  items : List ListItem := []
deriving DecidableEq, Inhabited

/-- An image that stands as a block. -/
structure ImageSection where
  src : String
deriving DecidableEq, Inhabited

/-- A named block with a payload of its own. -/
structure Card where
  name : String
  payload : Json := .obj []
deriving DecidableEq, Inhabited

/-- A block of a post. -/
inductive Section where
  | markup (s : MarkupSection)
  | list (s : ListSection)
  | image (s : ImageSection)
  | card (c : Card)
deriving DecidableEq, Inhabited

/-- A document. -/
structure Post where
  sections : List Section := []
deriving DecidableEq, Inhabited

/-- Any part of a document, on its own. -/
inductive Node where
  | post (n : Post)
  | markupSection (n : MarkupSection)
  | listSection (n : ListSection)
  | listItem (n : ListItem)
  | imageSection (n : ImageSection)
  | card (n : Card)
  | marker (n : Marker)
  | markup (n : Markup)
deriving DecidableEq, Inhabited

/-- A section as a part of a document on its own. -/
def Section.toNode : Section → Node
  | .markup s => .markupSection s
  | .list s => .listSection s
  | .image s => .imageSection s
  | .card c => .card c

/-! ## Kinds of node -/

/-- The eight kinds of node. -/
inductive NodeType where
  | post
  | markupSection
  | listSection
  | listItem
  | imageSection
  | card
  | marker
  | markup
deriving DecidableEq, Inhabited

namespace NodeType

/-- Every kind, from the root of a document to its leaves. -/
def all : List NodeType :=
  [post, markupSection, listSection, listItem, imageSection, card, marker, markup]

/-- The name by which documents and messages refer to a kind. -/
def name : NodeType → String
  | post => "post"
  | markupSection => "markup-section"
  | listSection => "list-section"
  | listItem => "list-item"
  | imageSection => "image-section"
  | card => "card-section"
  | marker => "marker"
  | markup => "markup"

/-- The kind of the given name. -/
def ofName? (s : String) : Option NodeType := all.find? (·.name == s)

theorem ofName?_name (t : NodeType) : ofName? t.name = some t := by
  cases t <;> decide

end NodeType

/-- The kind of a node. -/
def Node.type : Node → NodeType
  | .post _ => .post
  | .markupSection _ => .markupSection
  | .listSection _ => .listSection
  | .listItem _ => .listItem
  | .imageSection _ => .imageSection
  | .card _ => .card
  | .marker _ => .marker
  | .markup _ => .markup

/-- The kind of a section. -/
def Section.type (s : Section) : NodeType := s.toNode.type

/-! ## Payloads -/

/-- The section with its card's payload replaced by its image under `f`. -/
def Section.mapPayload (f : Json → Json) : Section → Section
  | .card c => .card { c with payload := f c.payload }
  | s => s

/-- The node with the payload of every card replaced by its image under `f`. -/
def Node.mapPayload (f : Json → Json) : Node → Node
  | .post p => .post ⟨p.sections.map (·.mapPayload f)⟩
  | .card c => .card { c with payload := f c.payload }
  | n => n

end RichText
