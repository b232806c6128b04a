import RichText.Document.Basic
import RichText.Document.Tree.Fault

/-!
# Documents from JSON trees

A record is read from an object or from an array of its fields in order. Of an object the members
are taken in the order in which they stand and the first faulty one is reported; unknown members are
ignored, a repeated one is a fault, and only after all of them a missing one. A node or a section is
tagged: its member `type`, or the first item of its array, says which record the rest is.

**Main definition.** `Node.ofJson` reads a node from a value.
-/

namespace RichText

/-- What reading a part of a tree gives. -/
abbrev TreeResult (α : Type) := Except TreeFault α

/-- A reader of one part of a tree. -/
abbrev TreeReader (α : Type) := Json → TreeResult α

namespace TreeReader

/-! ## Plain values -/

/-- A text. -/
def text : TreeReader String
  | .str s => .ok s
  | v => .error (.wrongType v .text)

/-- A count: an integer that is not negative. -/
def count : TreeReader Nat
  | .int (.ofNat n) => .ok n
  | .int n => .error (.negativeCount n)
  | v => .error (.wrongType v .count)

/-- A sequence whose items `item` reads. -/
def sequence (item : TreeReader α) : TreeReader (List α)
  | .arr items => items.mapM item
  | v => .error (.wrongType v .sequence)

/-- Sets the attributes that the members of an object write, one after another. -/
def attributeMembers (done : Attributes) : List (String × Json) → TreeResult Attributes
  | [] => .ok done
  | (k, v) :: rest => do attributeMembers (done.insert k (← text v)) rest

/-- The attributes of a markup. -/
def attributes : TreeReader Attributes
  | .obj members => attributeMembers .empty members
  | v => .error (.wrongType v .map)

/-! ## Records -/

/-- Sets a field that was not set yet, to what `read` makes of the value. -/
def once (field : String) (old : Option α) (read : TreeReader α) (v : Json) :
    TreeResult (Option α) :=
  match old with
  | some _ => .error (.duplicateField field)
  | none => some <$> read v

/-- A field that has to be there. -/
def required (field : String) : Option α → TreeResult α
  | some a => .ok a
  | none => .error (.missingField field)

/-- The first item of an array that writes the record `name` of `fields` fields. -/
def firstItem (name : String) (fields : Nat) (read : TreeReader α) : List Json → TreeResult α
  | v :: _ => read v
  | [] => .error (.missingItem name fields)

/-- The item at a position, or `default` if the array is shorter. -/
def itemOr (default : α) (read : TreeReader α) (items : List Json) (index : Nat) : TreeResult α :=
  match items[index]? with
  | some v => read v
  | none => .ok default

/-- Checks that an array has no more items than its record has fields. -/
def atMost (fields : Nat) (items : List Json) : TreeResult Unit :=
  if fields < items.length then .error (.tooManyItems items.length fields) else .ok ()

/-- The record `name`, from its members or from its fields in order. -/
def record (name : String) (ofMembers : List (String × Json) → TreeResult α)
    (ofItems : List Json → TreeResult α) : TreeReader α
  | .obj members => ofMembers members
  | .arr items => ofItems items
  | v => .error (.wrongType v (.record name))

end TreeReader

open TreeReader

/-! ### Markups -/

/-- The fields of a markup read so far. -/
structure Markup.Draft where
  tagName : Option String := none
  attributes : Option Attributes := none

/-- Reads one member of a markup. -/
def Markup.Draft.add (d : Draft) : String × Json → TreeResult Draft
  | ("tag_name", v) => do return { d with tagName := ← once "tag_name" d.tagName text v }
  | ("attributes", v) => do
    return { d with attributes := ← once "attributes" d.attributes TreeReader.attributes v }
  | _ => .ok d

/-- A markup from its members. -/
def Markup.ofMembers (members : List (String × Json)) : TreeResult Markup := do
  let d ← members.foldlM Draft.add {}
  return ⟨← required "tag_name" d.tagName, d.attributes.getD .empty⟩

/-- A markup from its fields in order. -/
def Markup.ofItems (items : List Json) : TreeResult Markup := do
  let tagName ← firstItem "Markup" 2 text items
  let attributes ← itemOr .empty TreeReader.attributes items 1
  atMost 2 items
  return ⟨tagName, attributes⟩

/-- A markup inside its marker. -/
def Markup.ofJson : TreeReader Markup := record "Markup" ofMembers ofItems

/-! ### Markers -/

/-- The fields of a marker read so far. -/
structure Marker.Draft where
  value : Option String := none
  openedMarkups : Option (List Markup) := none
  closedCount : Option Nat := none

/-- Reads one member of a marker. -/
def Marker.Draft.add (d : Draft) : String × Json → TreeResult Draft
  | ("value", v) => do return { d with value := ← once "value" d.value text v }
  | ("opened_markups", v) => do
    return { d with
      openedMarkups := ← once "opened_markups" d.openedMarkups (sequence Markup.ofJson) v }
  | ("closed_count", v) => do
    return { d with closedCount := ← once "closed_count" d.closedCount count v }
  | _ => .ok d

/-- A marker from its members. -/
def Marker.ofMembers (members : List (String × Json)) : TreeResult Marker := do
  let d ← members.foldlM Draft.add {}
  return ⟨← required "value" d.value, d.openedMarkups.getD [], d.closedCount.getD 0⟩

/-- A marker from its fields in order. -/
def Marker.ofItems (items : List Json) : TreeResult Marker := do
  let value ← firstItem "Marker" 3 text items
  let openedMarkups ← itemOr [] (sequence Markup.ofJson) items 1
  let closedCount ← itemOr 0 count items 2
  atMost 3 items
  return ⟨value, openedMarkups, closedCount⟩

/-- A marker inside its section or item. -/
def Marker.ofJson : TreeReader Marker := record "Marker" ofMembers ofItems

/-! ### List items -/

/-- Reads one member of a list item. -/
def ListItem.add (d : Option (List Marker)) : String × Json → TreeResult (Option (List Marker))
  | ("markers", v) => once "markers" d (sequence Marker.ofJson) v
  | _ => .ok d

/-- A list item from its members. -/
def ListItem.ofMembers (members : List (String × Json)) : TreeResult ListItem := do
  return ⟨(← members.foldlM add none).getD []⟩

/-- A list item from its fields in order. -/
def ListItem.ofItems (items : List Json) : TreeResult ListItem := do
  let markers ← itemOr [] (sequence Marker.ofJson) items 0
  atMost 1 items
  return ⟨markers⟩

/-- A list item inside its list. -/
def ListItem.ofJson : TreeReader ListItem := record "ListItem" ofMembers ofItems

/-! ### Sections -/

/-- The fields of a tagged list read so far: its tag, and its markers or items. -/
structure TaggedDraft (α : Type) where
  tagName : Option String := none
  content : Option (List α) := none

/-- Reads one member of a tagged list whose content stands under `field`. -/
def TaggedDraft.add (field : String) (item : TreeReader α) (d : TaggedDraft α) (m : String × Json) :
    TreeResult (TaggedDraft α) :=
  if m.1 = "tag_name" then do return { d with tagName := ← once "tag_name" d.tagName text m.2 }
  else if m.1 = field then do
    return { d with content := ← once field d.content (sequence item) m.2 }
  else .ok d

/-- A tagged list from its members. -/
def TaggedDraft.ofMembers (field : String) (item : TreeReader α) (members : List (String × Json)) :
    TreeResult (String × List α) := do
  let d ← members.foldlM (add field item) {}
  return (← required "tag_name" d.tagName, d.content.getD [])

/-- A tagged list from its fields in order. -/
def TaggedDraft.ofItems (name : String) (item : TreeReader α) (items : List Json) :
    TreeResult (String × List α) := do
  let tagName ← firstItem name 2 text items
  let content ← itemOr [] (sequence item) items 1
  atMost 2 items
  return (tagName, content)

/-- The fields of a block of marked-up text. -/
def MarkupSection.ofJson : TreeReader MarkupSection := fun v => do
  let (tagName, markers) ← record "MarkupSection" (TaggedDraft.ofMembers "markers" Marker.ofJson)
    (TaggedDraft.ofItems "MarkupSection" Marker.ofJson) v
  return ⟨tagName, markers⟩

/-- The fields of a list. -/
def ListSection.ofJson : TreeReader ListSection := fun v => do
  let (tagName, items) ← record "ListSection" (TaggedDraft.ofMembers "items" ListItem.ofJson)
    (TaggedDraft.ofItems "ListSection" ListItem.ofJson) v
  return ⟨tagName, items⟩

/-- Reads one member of an image. -/
def ImageSection.add (d : Option String) : String × Json → TreeResult (Option String)
  | ("src", v) => once "src" d text v
  | _ => .ok d

/-- An image from its members. -/
def ImageSection.ofMembers (members : List (String × Json)) : TreeResult ImageSection := do
  return ⟨← required "src" (← members.foldlM add none)⟩

/-- An image from its fields in order. -/
def ImageSection.ofItems (items : List Json) : TreeResult ImageSection := do
  let src ← firstItem "ImageSection" 1 text items
  atMost 1 items
  return ⟨src⟩

/-- The fields of an image. -/
def ImageSection.ofJson : TreeReader ImageSection := record "ImageSection" ofMembers ofItems

/-- The fields of a card read so far. -/
structure Card.Draft where
  name : Option String := none
  payload : Option Json := none

/-- Reads one member of a card. -/
def Card.Draft.add (d : Draft) : String × Json → TreeResult Draft
  | ("name", v) => do return { d with name := ← once "name" d.name text v }
  | ("payload", v) => do return { d with payload := ← once "payload" d.payload .ok v }
  | _ => .ok d

/-- A card from its members. -/
def Card.ofMembers (members : List (String × Json)) : TreeResult Card := do
  let d ← members.foldlM Draft.add {}
  return ⟨← required "name" d.name, d.payload.getD (.obj [])⟩

/-- A card from its fields in order. -/
def Card.ofItems (items : List Json) : TreeResult Card := do
  let name ← firstItem "Card" 2 text items
  let payload ← itemOr (.obj []) .ok items 1
  atMost 2 items
  return ⟨name, payload⟩

/-- The fields of a card. -/
def Card.ofJson : TreeReader Card := record "Card" ofMembers ofItems

/-! ## Tagged values -/

/-- The readers of the records that a tag may announce, by tag. -/
abbrev TagTable (α : Type) := List (NodeType × TreeReader α)

namespace TagTable

/-- The names of all tags. -/
def names (table : TagTable α) : List String := table.map (·.1.name)

/-- The reader that a tag announces. Where `byIndex` holds a tag may also be given by its position.
-/
def select (table : TagTable α) (byIndex : Bool) : Json → TreeResult (TreeReader α)
  | .str s =>
    match table.find? (·.1.name == s) with
    | some (_, read) => .ok read
    | none => .error (.unknownTag s table.names)
  | .int (.ofNat n) =>
    if byIndex then
      match table[n]? with
      | some (_, read) => .ok read
      | none => .error (.tagOutOfRange n table.length)
    else .error (.wrongType (.nat n) .tag)
  | v => .error (.wrongType v .tag)

/-- The reader announced by the member `type`, with the other members in order. `found` is the
reader that an earlier such member announced. -/
def takeTag (table : TagTable α) (byIndex : Bool) (found : Option (TreeReader α)) :
    List (String × Json) → TreeResult (TreeReader α × List (String × Json))
  | [] => do return (← required "type" found, [])
  | (k, v) :: rest =>
    if k = "type" then
      match found with
      | some _ => .error (.duplicateField "type")
      | none => do takeTag table byIndex (some (← table.select byIndex v)) rest
    else do
      let (read, others) ← takeTag table byIndex found rest
      return (read, (k, v) :: others)

/-- A tagged value. -/
def read (table : TagTable α) (expected : TreePart) (byIndex : Bool) : TreeReader α
  | .obj members => do
    let (read, others) ← table.takeTag byIndex none members
    read (.obj others)
  | .arr (tag :: items) => do
    let read ← table.select byIndex tag
    read (.arr items)
  | .arr [] => .error (.missingField "type")
  | v => .error (.wrongType v expected)

end TagTable

/-- The records that a section may be. -/
def Section.tagTable : TagTable Section :=
  [(.markupSection, fun v => .markup <$> MarkupSection.ofJson v),
    (.listSection, fun v => .list <$> ListSection.ofJson v),
    (.imageSection, fun v => .image <$> ImageSection.ofJson v),
    (.card, fun v => .card <$> Card.ofJson v)]

/-- A section inside its post. -/
def Section.ofJson : TreeReader Section := tagTable.read .blockNode true

/-- Reads one member of a post. -/
def Post.add (d : Option (List Section)) : String × Json → TreeResult (Option (List Section))
  | ("sections", v) => once "sections" d (sequence Section.ofJson) v
  | _ => .ok d

/-- A post from its members. -/
def Post.ofMembers (members : List (String × Json)) : TreeResult Post := do
  return ⟨(← members.foldlM add none).getD []⟩

/-- A post from its fields in order. -/
def Post.ofItems (items : List Json) : TreeResult Post := do
  let sections ← itemOr [] (sequence Section.ofJson) items 0
  atMost 1 items
  return ⟨sections⟩

/-- The fields of a post. -/
def Post.ofJson : TreeReader Post := record "Post" ofMembers ofItems

/-- The records that the root of a tree may be. -/
def Node.tagTable : TagTable Node :=
  [(.post, fun v => .post <$> Post.ofJson v),
    (.markupSection, fun v => .markupSection <$> MarkupSection.ofJson v),
    (.listSection, fun v => .listSection <$> ListSection.ofJson v),
    (.listItem, fun v => .listItem <$> ListItem.ofJson v),
    (.imageSection, fun v => .imageSection <$> ImageSection.ofJson v),
    (.card, fun v => .card <$> Card.ofJson v),
    (.marker, fun v => .marker <$> Marker.ofJson v),
    (.markup, fun v => .markup <$> Markup.ofJson v)]

/-- The root of a tree. -/
def Node.ofJson : TreeReader Node := tagTable.read .node false

/-! ## Kinds -/

/-- The kind of the given name. -/
def NodeType.ofName (s : String) : TreeResult NodeType :=
  match ofName? s with
  | some type => .ok type
  | none => .error (.unknownTag s (all.map name))

/-- A kind: its name, or an object whose only member has that name and holds nothing. -/
def NodeType.ofJson : TreeReader NodeType
  | .str s => ofName s
  | .obj [(k, v)] => do
    let type ← ofName k
    if v = .null then return type else .error (.wrongType v .nothing)
  | .obj _ => .error .notSingleMember
  | v => .error (.wrongType v .textOrMap)

end RichText
