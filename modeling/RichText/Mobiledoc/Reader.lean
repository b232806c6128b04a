import RichText.Document.Tags
import RichText.Error
import RichText.Json.Parser
import RichText.Text.Case

/-!
# Documents from Mobiledoc

The tables are read first, so that a section finds its markups and cards as values. Tags may be
written in any case and are taken in lower case; a tag or an attribute name that is not on the lists
of `Document.Tags` is a fault.

**Order of faults.** The version comes first, then the table of markups, the table of cards and the
sections, each from its first entry to its last.

**Main definition.** `Post.ofMobiledoc` reads a post from a JSON value.
-/

namespace RichText

/-- What reading a part of a Mobiledoc gives. -/
abbrev MobiledocResult (α : Type) := Except MobiledocFault α

namespace MobiledocReader

/-! ## Plain values -/

/-- An array. -/
def array (place : MobiledocPlace) (v : Json) : MobiledocResult (List Json) :=
  match v.arr? with
  | some items => .ok items
  | none => .error (.notArray place v)

/-- A text. -/
def text (place : MobiledocPlace) (v : Json) : MobiledocResult String :=
  match v.str? with
  | some s => .ok s
  | none => .error (.notText place v)

/-- A non-negative integer. -/
def index (place : MobiledocPlace) (v : Json) : MobiledocResult Nat :=
  match v.nat? with
  | some n => .ok n
  | none => .error (.notIndex place v)

/-- What `read` makes of each item, given its position; the first item stands at position `i`. -/
def eachFrom (read : Nat → Json → MobiledocResult α) (i : Nat) :
    List Json → MobiledocResult (List α)
  | [] => .ok []
  | v :: rest => do
    let a ← read i v
    return a :: (← eachFrom read (i + 1) rest)

/-- The member `key` of a document as an array whose items `read` reads; nothing if it is absent. -/
def table (doc : Json) (key : String) (place : MobiledocPlace)
    (read : Nat → Json → MobiledocResult α) : MobiledocResult (List α) :=
  match doc.get? key with
  | some v => do eachFrom read 0 (← array place v)
  | none => .ok []

/-! ## Tables -/

/-- Sets the attributes that an array writes as names and values in turn. -/
def attributes (place : MobiledocPlace) (done : Attributes) : List Json → MobiledocResult Attributes
  | k :: v :: rest => do
    let name ← text place k
    if isAttributeName name then
      attributes place (done.insert name (← text place v)) rest
    else .error (.attributeName place name)
  | _ => .ok done

/-- An entry of the table of markups: a tag, and an array of attributes or nothing. -/
def markup (i : Nat) (v : Json) : MobiledocResult Markup := do
  let place := .markup i
  match ← array place v with
  | [] => .error (.emptyEntry place)
  | tag :: rest =>
    let tag := lowercase (← text place tag)
    if isMarkupTag tag then
      match rest with
      | [] => return ⟨tag, .empty⟩
      | pairs :: _ =>
        let pairs ← array place pairs
        if pairs.length % 2 = 0 then return ⟨tag, ← attributes place .empty pairs⟩
        else .error (.unpairedAttributes place)
    else .error (.unknownMarkupTag place tag)

/-- An entry of the table of cards: a name, and a payload or nothing. -/
def card (i : Nat) (v : Json) : MobiledocResult Card := do
  let place := .card i
  match ← array place v with
  | [] => .error (.emptyEntry place)
  | name :: rest => return ⟨← text place name, rest.headD (.obj [])⟩

/-- The tables to which sections refer. -/
structure Tables where
  markups : List Markup
  cards : List Card

/-- The tables of a document. -/
def tables (doc : Json) : MobiledocResult Tables := do
  let markups ← table doc "markups" .markups markup
  let cards ← table doc "cards" .cards card
  return ⟨markups, cards⟩

/-! ## Sections -/

/-- The markup at a position of the table, where the position is written as `v`. -/
def markupAt (place : MobiledocPlace) (markups : List Markup) (v : Json) :
    MobiledocResult Markup := do
  let i ← index place v
  match markups[i]? with
  | some m => return m
  | none => .error (.markupOutOfRange i)

/-- The fields of a marker that holds text. -/
def textMarker (place : MobiledocPlace) (markups : List Markup) (opened closed value : Json) :
    MobiledocResult Marker := do
  let opened ← (← array place opened).mapM (markupAt place markups)
  let value ← text place value
  let closed ← index place closed
  return ⟨value, opened, closed⟩

/-- A marker: the number zero, the markups it opens, how many it closes, and its text. -/
def marker (place : MobiledocPlace) (markups : List Markup) (v : Json) :
    MobiledocResult Marker := do
  match ← array place v with
  | [kind, opened, closed, value] =>
    match kind.nat? with
    | some 0 => textMarker place markups opened closed value
    | some 1 => .error (.atom place)
    | _ => .error (.markerType place kind)
  | _ => .error (.markerLength place)

/-- Markers in order. -/
def markers (place : MobiledocPlace) (markups : List Markup) (v : Json) :
    MobiledocResult (List Marker) := do
  (← array place v).mapM (marker place markups)

/-- The entry of a section at a position. -/
def entry (place : MobiledocPlace) (entries : List Json) (i : Nat) : MobiledocResult Json :=
  match entries[i]? with
  | some v => .ok v
  | none => .error (.missingEntry place i)

/-- The tag of a section, in lower case. -/
def sectionTag (place : MobiledocPlace) (allowed : String → Bool) (entries : List Json) :
    MobiledocResult String := do
  let tag := lowercase (← text place (← entry place entries 1))
  if allowed tag then return tag else .error (.sectionTag place tag)

/-- A section of the given kind. -/
def sectionOfKind (t : Tables) (place : MobiledocPlace) (entries : List Json) :
    Nat → MobiledocResult Section
  | 1 => do
    let tag ← sectionTag place isMarkupSectionTag entries
    return .markup ⟨tag, ← markers place t.markups (← entry place entries 2)⟩
  | 2 => do return .image ⟨← text place (← entry place entries 1)⟩
  | 3 => do
    let tag ← sectionTag place isListSectionTag entries
    let items ← array place (← entry place entries 2)
    return .list ⟨tag, ← items.mapM fun v => do return ⟨← markers place t.markups v⟩⟩
  | 10 => do
    let i ← index place (← entry place entries 1)
    match t.cards[i]? with
    | some c => return .card c
    | none => .error (.cardOutOfRange i)
  | kind => .error (.sectionType place kind)

/-- A section: a number for its kind, and what that kind asks for. -/
def sectionAt (t : Tables) (i : Nat) (v : Json) : MobiledocResult Section := do
  let place := .sectionEntry i
  let entries ← array place v
  match entries.head?.bind Json.nat? with
  | some kind => sectionOfKind t place entries kind
  | none => .error (.noSectionType place)

/-- Checks that the document has a version of the format that is read here. -/
def checkVersion (doc : Json) : MobiledocResult Unit :=
  match (doc.get? "version").bind Json.str? with
  | some v => if ['0', '.', '3'].isPrefixOf v.toList then .ok () else .error (.unsupportedVersion v)
  | none => .error .missingVersion

/-- A whole document. -/
def document (doc : Json) : MobiledocResult Post := do
  checkVersion doc
  let t ← tables doc
  return ⟨← table doc "sections" .sections (sectionAt t)⟩

end MobiledocReader

/-- The post that a Mobiledoc denotes. -/
def Post.ofMobiledoc (doc : Json) : Except Error Post :=
  (MobiledocReader.document doc).mapError .invalidMobiledoc

/-- The post that the text of a Mobiledoc denotes. -/
def Post.ofMobiledocText (s : String) : Except Error Post :=
  match Json.parseSorted? s with
  | some doc => ofMobiledoc doc
  | none => .error (.json .malformed)

end RichText
