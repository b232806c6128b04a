import RichText.Json.Basic

/-!
# Mobiledoc documents

A Mobiledoc keeps the markups and the cards of a document in tables of their own. Markers refer to
the entries of the table of markups by index, and card sections to those of the table of cards.
-/

namespace RichText

/-- An entry of the table of markups: a tag, and attribute names and values in turn. -/
structure MarkupEntry where
  tagName : String
  attributes : List String
deriving DecidableEq

/-- A marker: the markups it opens by index, how many it closes, and its text. -/
structure MarkerEntry where
  opened : List Nat := []
  closed : Nat
  value : String
deriving DecidableEq

/-- A section. -/
inductive SectionEntry where
  | markup (tagName : String) (markers : List MarkerEntry)
  | image (src : String)
  | list (tagName : String) (items : List (List MarkerEntry))
  | card (index : Nat)
deriving DecidableEq

/-- A Mobiledoc. -/
structure Mobiledoc where
  cards : List (String × Json) := []
  markups : List MarkupEntry := []
  sections : List SectionEntry := []
deriving DecidableEq

/-! ## As JSON -/

/-- An entry of the table of markups; an empty list of attributes is left out. -/
def MarkupEntry.toJson (e : MarkupEntry) : Json :=
  .arr (.str e.tagName :: if e.attributes.isEmpty then [] else [.strings e.attributes])

/-- A marker; the number in front says that it holds text. -/
def MarkerEntry.toJson (m : MarkerEntry) : Json :=
  .arr [.nat 0, .arr (m.opened.map .nat), .nat m.closed, .str m.value]

/-- Markers in order. -/
def markersJson (ms : List MarkerEntry) : Json := .arr (ms.map MarkerEntry.toJson)

/-- A section; the number in front says of which kind it is. -/
def SectionEntry.toJson : SectionEntry → Json
  | markup tagName markers => .arr [.nat 1, .str tagName, markersJson markers]
  | image src => .arr [.nat 2, .str src]
  | list tagName items => .arr [.nat 3, .str tagName, .arr (items.map markersJson)]
  | card index => .arr [.nat 10, .nat index]

namespace Mobiledoc

/-- The version of the format that is written. -/
def version : String := "0.3.2"

/-- The document as a JSON object. -/
def toJson (d : Mobiledoc) : Json := .obj [
  ("atoms", .arr []),
  ("cards", .arr (d.cards.map fun c => .arr [.str c.1, c.2])),
  ("markups", .arr (d.markups.map MarkupEntry.toJson)),
  ("sections", .arr (d.sections.map SectionEntry.toJson)),
  ("version", .str version)]

end Mobiledoc

end RichText
