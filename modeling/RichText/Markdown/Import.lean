import RichText.Document.Runs
import RichText.Markdown.Event

/-!
# Documents from Markdown events

Paragraphs and headings become blocks of marked-up text, and a list with all lists inside it becomes
one list section. Images, code blocks and rules have sections of their own.

**Where a block goes.** A block found inside a paragraph, a heading or a list is held back until the
outermost of these has ended, and then follows it; elsewhere it goes to the document at once.

**Lists.** A nested list feeds its items into the outermost one. The text of an item ends where a
nested list begins, and the paragraphs of one item are joined with a space.

**Images.** The description of an image is no text of the document; only code spans and breaks in it
are kept.
-/

namespace RichText.Markdown

/-- The state of an import between two events. -/
structure Importer where
  /-- Sections that are complete. -/
  sections : List Section := []
  /-- The tag of the open paragraph or heading outside lists. -/
  blockTag : Option String := none
  /-- The outermost open list. -/
  list : Option ListSection := none
  /-- How many lists are open. -/
  listDepth : Nat := 0
  /-- The open markups, outermost first. -/
  markups : List Markup := []
  /-- The runs read since the last block or item ended. -/
  runs : List Run := []
  /-- Blocks held back until the enclosing block has ended. -/
  pending : List Section := []
  /-- The language and the text of the open code block. -/
  code : Option (String × String) := none
  /-- Whether an image is open. -/
  inImage : Bool := false
deriving DecidableEq

/-- The card of a code block. -/
def codeCard (language code : String) : Card :=
  ⟨"code", .obj [("code", .str code), ("language", .str language)]⟩

/-- The card of a thematic break. -/
def ruleCard : Card := ⟨"hr", .obj []⟩

/-- The markup of a link. -/
def linkMarkup (url : String) : Markup := Markup.attribute ⟨"a", .empty⟩ "href" url

namespace Importer

/-! ## Parts of a step -/

/-- Adds a run under the open markups. -/
def pushRun (s : Importer) (text : String) : Importer :=
  { s with runs := s.runs ++ [⟨text, s.markups⟩] }

/-- Adds a code span. -/
def pushCode (s : Importer) (text : String) : Importer :=
  { s with runs := s.runs ++ [⟨text, s.markups ++ [⟨"code", .empty⟩]⟩] }

/-- Adds text, which belongs to the open code block if there is one and to nothing inside an image.
-/
def pushText (s : Importer) (text : String) : Importer :=
  if s.inImage then s
  else
    match s.code with
    | some (language, code) => { s with code := some (language, code ++ text) }
    | none => s.pushRun text

/-- Adds a block, or holds it back while another one is open. -/
def pushBlock (s : Importer) (b : Section) : Importer :=
  if s.blockTag.isSome || 0 < s.listDepth then { s with pending := s.pending ++ [b] }
  else { s with sections := s.sections ++ [b] }

/-- Opens a markup. -/
def openMarkup (s : Importer) (m : Markup) : Importer := { s with markups := s.markups ++ [m] }

/-- The open paragraph or heading as a section, unless it is empty. -/
def blockSections (s : Importer) : List Section :=
  match s.blockTag with
  | some tag =>
    let block := MarkupSection.ofRuns tag s.runs
    if block.markers.isEmpty then [] else [.markup block]
  | none => []

/-- Ends the open paragraph or heading; the blocks held back follow it. -/
def flushBlock (s : Importer) : Importer :=
  { s with
    sections := s.sections ++ s.blockSections ++ s.pending
    blockTag := none
    runs := []
    pending := [] }

/-- Makes an item of the runs, if there are any. -/
def flushItem (s : Importer) : Importer :=
  if s.runs.isEmpty then s
  else
    { s with
      list := s.list.map fun l => { l with items := l.items ++ [.ofRuns s.runs] }
      runs := [] }

/-- The open list as a section. -/
def listSections (s : Importer) : List Section :=
  match s.list with
  | some l => [.list l]
  | none => []

/-- Ends the outermost list; the blocks held back follow it. -/
def flushList (s : Importer) : Importer :=
  { s with
    sections := s.sections ++ s.listSections ++ s.pending
    list := none
    pending := [] }

/-! ## Steps -/

/-- Starts a list. The runs before a nested list are an item of their own. -/
def startList (s : Importer) (start : Option Nat) : Importer :=
  let s := { s with listDepth := s.listDepth + 1 }
  if s.listDepth = 1 then
    { s with list := some ⟨if start.isSome then "ol" else "ul", []⟩ }
  else s.flushItem

/-- Starts a paragraph. Inside a list it is joined to the runs before it with a space. -/
def startParagraph (s : Importer) : Importer :=
  if s.listDepth = 0 then { s with blockTag := some "p" }
  else if s.runs.isEmpty then s
  else { s with runs := s.runs ++ [⟨" ", []⟩] }

/-- Starts a heading. -/
def startHeading (s : Importer) (level : HeadingLevel) : Importer :=
  if s.listDepth = 0 then { s with blockTag := some level.tag } else s

/-- Takes a start event. -/
def start (s : Importer) : StartTag → Importer
  | .paragraph => s.startParagraph
  | .heading level => s.startHeading level
  | .list start => s.startList start
  | .item => s.flushItem
  | .strong => s.openMarkup ⟨"strong", .empty⟩
  | .emphasis => s.openMarkup ⟨"em", .empty⟩
  | .strikethrough => s.openMarkup ⟨"s", .empty⟩
  | .link url => s.openMarkup (linkMarkup url)
  | .image url => pushBlock { s with inImage := true } (.image ⟨url⟩)
  | .codeBlock info => { s with code := some (info.getD "", "") }
  | .other => s

/-- Ends a list. -/
def finishList (s : Importer) : Importer :=
  let s := { s with listDepth := s.listDepth - 1 }
  if s.listDepth = 0 then s.flushItem.flushList else s

/-- Ends a paragraph or a heading. -/
def finishBlock (s : Importer) : Importer :=
  if s.listDepth = 0 then s.flushBlock else s

/-- Ends a code block, if one is open. -/
def finishCode (s : Importer) : Importer :=
  match s.code with
  | some (language, code) => pushBlock { s with code := none } (.card (codeCard language code))
  | none => s

/-- Takes an end event. -/
def finish (s : Importer) : EndTag → Importer
  | .paragraph | .heading => s.finishBlock
  | .item => s.flushItem
  | .list => s.finishList
  | .strong | .emphasis | .strikethrough | .link => { s with markups := s.markups.dropLast }
  | .image => { s with inImage := false }
  | .codeBlock => s.finishCode
  | .other => s

/-- Takes an event. -/
def step (s : Importer) : Event → Importer
  | .start tag => s.start tag
  | .finish tag => s.finish tag
  | .text t => s.pushText t
  | .code t => s.pushCode t
  | .softBreak => s.pushRun " "
  | .hardBreak => s.pushRun "\n"
  | .rule => s.pushBlock (.card ruleCard)
  | .other => s

/-- The document at the end of the events: what is still open ends there. -/
def toPost (s : Importer) : Post := ⟨s.flushBlock.flushList.sections⟩

end Importer

/-- The document that a stream of events describes. -/
def postOfEvents (events : List Event) : Post := (events.foldl Importer.step {}).toPost

end RichText.Markdown
