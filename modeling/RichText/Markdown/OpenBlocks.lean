import RichText.Markdown.BlockStart
import RichText.Markdown.Outline

/-!
# Open blocks

Blocks are read line by line. `OpenBlocks` holds the containers that are open, the innermost first,
each with the blocks that ended before it, and the paragraph or the code in which the last line
stands.

**A line** (`addLine`) first goes on in the open containers, from the outermost inwards. What is
left of it goes on in the open code, or starts blocks, or is text. A block that starts ends all
containers in which the line did not go on. Text does not, if a paragraph is open: it continues this
one (a *lazy* line).

**Tightness.** A list is loose if the lines between two of its items, or between two blocks of one
item, are blank. Blocks keep the numbers of their first and last lines to tell.
-/

namespace RichText.Markdown

/-! ## Parts -/

/-- A block with the numbers of its first and its last line. -/
structure Placed where
  block : Outline
  first : Nat
  last : Nat

/-- Whether there are lines between two of the blocks, which are given last first. -/
def Placed.haveGaps : List Placed → Bool
  | next :: p :: rest => p.last + 1 < next.first || haveGaps (p :: rest)
  | _ => false

/-- An item that has ended. -/
structure ListItemOutline where
  children : List Outline
  first : Nat
  last : Nat
  /-- Whether two of its blocks have lines between them. -/
  isLoose : Bool

/-- Whether a list is loose; its items are given last first. -/
def ListItemOutline.areLoose : List ListItemOutline → Bool
  | next :: item :: rest =>
    next.isLoose || item.last + 1 < next.first || areLoose (item :: rest)
  | [item] => item.isLoose
  | [] => false

/-- A list whose last item is open. -/
structure OpenList where
  marker : ListMarker
  start : Option Nat
  /-- The items that have ended, last first. -/
  items : List ListItemOutline
  /-- How far the lines of the open item are indented; nothing once a blank line has ended it. -/
  indent : Option Nat
  /-- The first line of the open item. -/
  itemFirst : Nat

/-- A container of other blocks. -/
inductive Container where
  | quote
  | list (l : OpenList)

/-- An open container. -/
structure Frame where
  container : Container
  first : Nat
  /-- The blocks before it in the container around it, last first. -/
  before : List Placed

/-- An open block that holds lines. All lines are given last first. -/
inductive Leaf where
  | paragraph (lines : List (List Char))
  | indented (lines : List (List Char))
  | fenced (fence : Fence) (lines : List (List Char))
  | html (block : HtmlBlock) (lines : Nat)

/-- The blocks that are open after some lines. -/
structure OpenBlocks where
  /-- The number of the last line. -/
  number : Nat := 0
  /-- The open containers, innermost first. -/
  frames : List Frame := []
  /-- The blocks that ended in the innermost container, last first. -/
  siblings : List Placed := []
  /-- The open block with lines, and the number of its first one. -/
  leaf : Option (Nat × Leaf) := none
  /-- The links defined so far. -/
  definitions : Definitions := []

/-! ## Ending blocks -/

/-- The text of a paragraph from its lines. -/
def paragraphText (lines : List (List Char)) : List Char :=
  (lines.reverse.intersperse ['\n']).flatten

/-- The definitions at the start of a paragraph, after those before it, and its text after them. -/
def splitParagraph (defs : Definitions) (lines : List (List Char)) : Definitions × List Char :=
  let text := paragraphText lines
  takeDefinitions text.length defs text

/-- Whether a paragraph holds more than definitions. One that does not start with a bracket does. -/
def hasText (defs : Definitions) (lines : List (List Char)) : Bool :=
  match lines.getLast? with
  | some ('[' :: _) => !(splitParagraph defs lines).2.all isSpace
  | _ => true

/-- Lines of code as texts. -/
def codeLines (lines : List (List Char)) : List String := lines.reverse.map String.ofList

namespace OpenBlocks

/-- Adds a block to the innermost container. -/
def place (s : OpenBlocks) (block : Outline) (first last : Nat) : OpenBlocks :=
  { s with siblings := ⟨block, first, last⟩ :: s.siblings }

/-- Ends the open block with lines, whose last line is `last`. Blank lines at the end of indented
code are no part of it, and a paragraph of nothing but definitions is no block. -/
def endLeaf (s : OpenBlocks) (last : Nat) : OpenBlocks :=
  match s.leaf with
  | none => s
  | some (first, leaf) =>
    let s := { s with leaf := none }
    match leaf with
    | .paragraph lines =>
      let (definitions, text) := splitParagraph s.definitions lines
      let s := { s with definitions }
      if text.all isSpace then s else s.place (.paragraph text) first last
    | .indented lines =>
      let lines := lines.dropWhile (·.all isSpace)
      s.place (.code none (codeLines lines)) first (first + lines.length - 1)
    | .fenced fence lines => s.place (.code (some fence.info) (codeLines lines)) first last
    | .html _ lines => s.place (.html lines) first last

/-- The items of a list once the open one has ended with the given blocks. -/
def endItem (l : OpenList) (children : List Placed) : List ListItemOutline :=
  { children := children.reverse.map (·.block)
    first := l.itemFirst
    last := (children.head?.map (·.last)).getD l.itemFirst
    isLoose := Placed.haveGaps children } :: l.items

/-- Ends the innermost container, whose last line is `last`. -/
def endFrame (s : OpenBlocks) (last : Nat) : OpenBlocks :=
  match s.frames with
  | [] => s
  | ⟨container, first, before⟩ :: frames =>
    let outer := { s with frames, siblings := before }
    match container with
    | .quote => outer.place (.quote (s.siblings.reverse.map (·.block))) first last
    | .list l =>
      let items := endItem l s.siblings
      let tight := !ListItemOutline.areLoose items
      outer.place (.list l.start tight (items.reverse.map (·.children))) first
        ((items.head?.map (·.last)).getD first)

/-- Ends so many of the innermost containers. -/
def endFrames (s : OpenBlocks) (last : Nat) : Nat → OpenBlocks
  | 0 => s
  | n + 1 => (s.endFrame last).endFrames last n

/-- Ends the open block with lines and so many of the innermost containers on the line before the
current one. -/
def endBlocks (s : OpenBlocks) (n : Nat) : OpenBlocks :=
  (s.endLeaf (s.number - 1)).endFrames (s.number - 1) n

/-! ## Starting blocks -/

/-- Opens a container. -/
def openFrame (s : OpenBlocks) (container : Container) : OpenBlocks :=
  { s with frames := ⟨container, s.number, s.siblings⟩ :: s.frames, siblings := [] }

/-- Opens a block with lines. -/
def openLeaf (s : OpenBlocks) (leaf : Leaf) : OpenBlocks := { s with leaf := some (s.number, leaf) }

/-- Adds a block that ends on the line on which it starts. -/
def placeHere (s : OpenBlocks) (block : Outline) : OpenBlocks := s.place block s.number s.number

/-- Opens an item of a list, where `n` of the innermost containers do not go on. If the outermost of
these is a list with the same marker, it is an item of that one. -/
def openItem (s : OpenBlocks) (n : Nat) (marker : ListMarker) (start : Option Nat) (indent : Nat) :
    OpenBlocks :=
  let inner := s.endBlocks (n - 1)
  let fresh (s : OpenBlocks) := s.openFrame (.list ⟨marker, start, [], some indent, s.number⟩)
  if n = 0 then fresh inner
  else
    match inner.frames with
    | ⟨.list l, first, before⟩ :: frames =>
      if l.marker = marker then
        let items := endItem l inner.siblings
        let l := { l with items, indent := some indent, itemFirst := s.number }
        { inner with frames := ⟨.list l, first, before⟩ :: frames, siblings := [] }
      else fresh (inner.endFrame (s.number - 1))
    | _ => fresh (inner.endFrame (s.number - 1))

/-- The open paragraph as a line sees it that does not go on in `n` of the innermost containers. -/
def openParagraph (s : OpenBlocks) (n : Nat) : OpenParagraph :=
  match s.leaf with
  | some (_, .paragraph lines) =>
    if n = 0 then .here (hasText s.definitions lines) else .beyond
  | _ => .none

/-- Adds a line of text to the open paragraph, or opens one. -/
def addText (s : OpenBlocks) (n : Nat) (text : List Char) : OpenBlocks :=
  match s.leaf with
  | some (first, .paragraph lines) => { s with leaf := some (first, .paragraph (text :: lines)) }
  | _ => (s.endBlocks n).openLeaf (.paragraph [text])

/-- Makes a heading of the open paragraph. -/
def underline (s : OpenBlocks) (level : HeadingLevel) : OpenBlocks :=
  match s.leaf with
  | some (first, .paragraph lines) =>
    let (definitions, text) := splitParagraph s.definitions lines
    { s with leaf := none, definitions }.place (.heading level text) first s.number
  | _ => s

/-- Opens a block of HTML, which may end on the same line. -/
def openHtml (s : OpenBlocks) (block : HtmlBlock) (line : List Char) : OpenBlocks :=
  let s := s.openLeaf (.html block 1)
  if block.closedBy line then s.endLeaf s.number else s

/-- Takes what is left of a line that does not go on in `n` of the innermost containers. `ending` is
the end of the line as it stands in code. Every container takes a character of the line that is no
space, so `fuel` beyond their number is never spent. -/
def addRest (ending : List Char) : Nat → OpenBlocks → Nat → Line → OpenBlocks
  | 0, s, _, _ => s
  | fuel + 1, s, n, line =>
    if line.isBlank then s.endBlocks n
    else
      match BlockStart.ofLine (s.openParagraph n) line with
      | .quote rest => addRest ending fuel ((s.endBlocks n).openFrame .quote) 0 rest
      | .item marker start indent rest =>
        addRest ending fuel (s.openItem n marker start indent) 0 rest
      | .heading level text => (s.endBlocks n).placeHere (.heading level text)
      | .rule => (s.endBlocks n).placeHere .rule
      | .underline level => s.underline level
      | .fence fence => (s.endBlocks n).openLeaf (.fenced fence [])
      | .code rest => (s.endBlocks n).openLeaf (.indented [rest.rest ++ ending])
      | .html block => (s.endBlocks n).openHtml block line.rest
      | .text text => s.addText n text

/-! ## Going on -/

/-- What is left of a line that goes on in a container. -/
def continue? (container : Container) (line : Line) : Option Line :=
  match container with
  | .quote =>
    if line.indent < BlockStart.codeIndent && line.unindented.rest.head? = some '>' then
      some ((line.unindented.drop 1).dropIndent 1)
    else none
  | .list l =>
    if line.isBlank then some line.unindented
    else
      match l.indent with
      | some indent => if indent ≤ line.indent then some (line.dropIndent indent) else none
      | none => none

/-- In how many of the containers, which are given from the outermost inwards, a line goes on, and
what is left of it then. -/
def continueAll : List Frame → Line → Nat × Line
  | [], line => (0, line)
  | f :: inner, line =>
    match continue? f.container line with
    | some rest =>
      let (n, rest) := continueAll inner rest
      (n + 1, rest)
    | none => (0, line)

/-- Ends the open item of the innermost list if nothing stands in it yet. The list goes on. -/
def endEmptyItem (s : OpenBlocks) : OpenBlocks :=
  match s.frames with
  | ⟨.list l, first, before⟩ :: frames =>
    if s.siblings.isEmpty && s.leaf.isNone then
      { s with frames := ⟨.list { l with indent := none }, first, before⟩ :: frames }
    else s
  | _ => s

/-- Whether a line closes a fenced code block. -/
def closesFence (fence : Fence) (line : Line) : Bool :=
  let s := trimRight line.unindented.rest
  line.indent < BlockStart.codeIndent && fence.length ≤ s.length && s.all (· == fence.mark)

/-- The blocks after a line that goes on in all open containers and in the open code or HTML;
nothing if it does not. -/
def continueLeaf? (s : OpenBlocks) (ending : List Char) (line : Line) : Option OpenBlocks :=
  match s.leaf with
  | some (first, .indented lines) =>
    if line.isBlank || BlockStart.codeIndent ≤ line.indent then
      let text := (line.dropIndent BlockStart.codeIndent).rest ++ ending
      some { s with leaf := some (first, .indented (text :: lines)) }
    else none
  | some (first, .fenced fence lines) =>
    if closesFence fence line then some (s.endLeaf s.number)
    else
      let text := (line.dropIndent fence.indent).rest ++ ending
      some { s with leaf := some (first, .fenced fence (text :: lines)) }
  | some (first, .html block lines) =>
    if line.isBlank && !block.hasClosingMark then none
    else
      let s := { s with leaf := some (first, .html block (lines + 1)) }
      some (if block.closedBy line.rest then s.endLeaf s.number else s)
  | _ => none

/-- Adds a line; `ending` is its end as it stands in code. An item that starts with a blank line
ends at a second one. -/
def addLine (s : OpenBlocks) (text ending : List Char) : OpenBlocks :=
  let s := { s with number := s.number + 1 }
  let (n, rest) := continueAll s.frames.reverse ⟨0, text⟩
  let unmatched := s.frames.length - n
  match if unmatched = 0 then s.continueLeaf? ending rest else none with
  | some s => s
  | none =>
    let s := if unmatched = 0 && rest.isBlank then s.endEmptyItem else s
    addRest ending (text.length + 1) s unmatched rest

/-- Ends all blocks that are open at the end of the text. -/
def finish (s : OpenBlocks) : OpenBlocks :=
  (s.endLeaf s.number).endFrames s.number s.frames.length

end OpenBlocks

end RichText.Markdown
