import RichText.Document.Basic

/-!
# Documents as JSON trees

Each record becomes an object with all of its fields. A root and a section also say what they are in
the member `type`; markers, markups and items inside their parents need no such member.
-/

namespace RichText

/-- The attributes as an object. -/
def Attributes.toJson (a : Attributes) : Json := .obj (a.entries.map fun e => (e.1, .str e.2))

/-- The fields of a markup. -/
def Markup.fields (m : Markup) : List (String × Json) :=
  [("attributes", m.attributes.toJson), ("tag_name", .str m.tagName)]

/-- A markup inside its marker. -/
def Markup.toJson (m : Markup) : Json := .obj m.fields

/-- The fields of a marker. -/
def Marker.fields (m : Marker) : List (String × Json) :=
  [("closed_count", .nat m.closedCount),
    ("opened_markups", .arr (m.openedMarkups.map Markup.toJson)),
    ("value", .str m.value)]

/-- A marker inside its section or item. -/
def Marker.toJson (m : Marker) : Json := .obj m.fields

/-- The fields of a list item. -/
def ListItem.fields (i : ListItem) : List (String × Json) :=
  [("markers", .arr (i.markers.map Marker.toJson))]

/-- A list item inside its list. -/
def ListItem.toJson (i : ListItem) : Json := .obj i.fields

/-- The fields of a block of marked-up text. -/
def MarkupSection.fields (s : MarkupSection) : List (String × Json) :=
  [("markers", .arr (s.markers.map Marker.toJson)), ("tag_name", .str s.tagName)]

/-- The fields of a list. -/
def ListSection.fields (s : ListSection) : List (String × Json) :=
  [("items", .arr (s.items.map ListItem.toJson)), ("tag_name", .str s.tagName)]

/-- The fields of an image. -/
def ImageSection.fields (s : ImageSection) : List (String × Json) := [("src", .str s.src)]

/-- The fields of a card. -/
def Card.fields (c : Card) : List (String × Json) := [("name", .str c.name), ("payload", c.payload)]

/-- An object that says what it is. -/
def tagged (type : NodeType) (fields : List (String × Json)) : Json :=
  .obj (Json.insertMember "type" (.str type.name) fields)

/-- A section inside its post. -/
def Section.toJson : Section → Json
  | .markup s => tagged .markupSection s.fields
  | .list s => tagged .listSection s.fields
  | .image s => tagged .imageSection s.fields
  | .card c => tagged .card c.fields

/-- The fields of a post. -/
def Post.fields (p : Post) : List (String × Json) :=
  [("sections", .arr (p.sections.map Section.toJson))]

/-- A node as the root of a tree. -/
def Node.toJson : Node → Json
  | .post n => tagged .post n.fields
  | .markupSection n => tagged .markupSection n.fields
  | .listSection n => tagged .listSection n.fields
  | .listItem n => tagged .listItem n.fields
  | .imageSection n => tagged .imageSection n.fields
  | .card n => tagged .card n.fields
  | .marker n => tagged .marker n.fields
  | .markup n => tagged .markup n.fields

end RichText
