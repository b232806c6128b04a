import RichText.Markdown.Entity
import RichText.Markdown.Event
import RichText.Markdown.Line
import RichText.Markdown.RawHtml

/-!
# How blocks start

What a line starts is decided by its first characters. Only a few rules look at what stands before
the line: an underline makes a heading of a paragraph, and some blocks do not interrupt one.
-/

namespace RichText.Markdown

/-- The paragraph that is open when a line begins. -/
inductive OpenParagraph where
  | none
  /-- It stands in a container that the line does not continue. -/
  | beyond
  /-- The line may continue it. A paragraph of nothing but definitions has no text. -/
  | here (hasText : Bool)
deriving DecidableEq

/-- Whether a paragraph is open. -/
def OpenParagraph.isOpen (p : OpenParagraph) : Bool := p != none

/-- Whether a paragraph is open that the line may continue. -/
def OpenParagraph.isHere : OpenParagraph → Bool
  | here _ => true
  | _ => false

/-- What stands before every item of a list. -/
inductive ListMarker where
  | bullet (mark : Char)
  | ordered (delimiter : Char)
deriving DecidableEq

/-- The line that opens a fenced code block. -/
structure Fence where
  mark : Char
  length : Nat
  /-- How far the fence is indented; lines of code lose as much. -/
  indent : Nat
  info : String
deriving DecidableEq

/-- What a line starts. -/
inductive BlockStart where
  | quote (rest : Line)
  | heading (level : HeadingLevel) (text : List Char)
  | fence (fence : Fence)
  | html (block : HtmlBlock)
  /-- A line that makes a heading of the paragraph before it. -/
  | underline (level : HeadingLevel)
  | rule
  /-- An item of a list; all of its further lines are indented by `indent` columns. -/
  | item (marker : ListMarker) (start : Option Nat) (indent : Nat) (rest : Line)
  /-- An indented line of code. -/
  | code (rest : Line)
  | text (s : List Char)

namespace BlockStart

/-! ## Headings, rules and fences -/

/-- The text of a heading without the marks that close it. -/
def headingText (s : List Char) : List Char :=
  let s := trimRight (s.dropWhile isGap)
  let unmarked := (s.reverse.dropWhile (· == '#')).reverse
  if unmarked.getLast?.all isGap then trimRight unmarked else s

/-- A heading: one to six marks, and a space or nothing after them. -/
def heading? (s : List Char) : Option BlockStart :=
  let rest := s.dropWhile (· == '#')
  match HeadingLevel.ofNat? (s.takeWhile (· == '#')).length with
  | some level => if rest.head?.all isGap then some (.heading level (headingText rest)) else none
  | none => none

/-- The underline of a heading: a run of one mark. -/
def underline? (s : List Char) : Option BlockStart :=
  let s := trimRight s
  if s.isEmpty then none
  else if s.all (· == '=') then some (.underline .h1)
  else if s.all (· == '-') then some (.underline .h2)
  else none

/-- Whether a line is a rule: three or more of one mark, with any space between. -/
def isRule (s : List Char) : Bool :=
  let marks := s.filter (!isGap ·)
  3 ≤ marks.length && ['*', '_', '-'].any fun m => marks.all (· == m)

/-- A fence: three or more of one mark. What follows backticks must hold no further one. -/
def fence? (indent : Nat) (s : List Char) : Option BlockStart :=
  match s with
  | mark :: _ =>
    let length := (s.takeWhile (· == mark)).length
    let rest := s.drop length
    if (mark == '\x60' && !rest.contains '\x60' || mark == '~') && 3 ≤ length then
      some (.fence ⟨mark, length, indent, unescape (trimRight (rest.dropWhile isGap))⟩)
    else none
  | [] => none

/-! ## Items of lists -/

/-- The marker of an item with its number and its width. -/
def marker? (s : List Char) : Option (ListMarker × Option Nat × Nat) :=
  match s with
  | c :: rest =>
    if ['*', '+', '-'].contains c then some (.bullet c, none, 1)
    else
      let ds := (c :: rest).takeWhile Char.isDigit
      match (c :: rest).dropWhile Char.isDigit with
      | d :: _ =>
        if 1 ≤ ds.length && ds.length ≤ 9 && (d == '.' || d == ')') then
          some (.ordered d, some (Json.Parser.digitsValue ds), ds.length + 1)
        else none
      | [] => none
  | [] => none

/-- An item: a marker, and a space or nothing after it. Its text starts up to four columns after the
marker; if it is blank or indented further, one column after. Only an item with text interrupts a
paragraph, and only if it is unnumbered or has the number one. -/
def item? (p : OpenParagraph) (line : Line) : Option BlockStart :=
  let content := line.unindented
  match marker? content.rest with
  | none => none
  | some (marker, start, width) =>
    let rest := content.drop width
    let interrupts := !rest.isBlank && start.all (· == 1)
    if !rest.rest.head?.all isGap || p.isHere && !interrupts then none
    else if rest.isBlank || 5 ≤ rest.indent then
      some (.item marker start (line.indent + width + 1) (rest.dropIndent 1))
    else some (.item marker start (line.indent + width + rest.indent) rest.unindented)

/-! ## All blocks -/

/-- The block of HTML that a line opens, given what stands on it. -/
def html? (p : OpenParagraph) : List Char → Option BlockStart
  | '<' :: rest => (HtmlBlock.ofLine? p.isOpen rest).map .html
  | _ => none

/-- A block quote: an angle bracket and a space after it or none. -/
def quote? (content : Line) : Option BlockStart :=
  if content.rest.head? = some '>' then some (.quote ((content.drop 1).dropIndent 1)) else none

/-- A rule. -/
def rule? (s : List Char) : Option BlockStart := if isRule s then some .rule else none

/-- How far a line of code is indented. -/
def codeIndent : Nat := 4

/-- What a line starts that is not blank. -/
def ofLine (p : OpenParagraph) (line : Line) : BlockStart :=
  let content := line.unindented
  let s := content.rest
  if codeIndent ≤ line.indent then
    if p.isOpen then .text s else .code (line.dropIndent codeIndent)
  else
    (quote? content
      |>.or (heading? s)
      |>.or (fence? line.indent s)
      |>.or (html? p s)
      |>.or (if p = .here true then underline? s else none)
      |>.or (rule? s)
      |>.or (item? p line)).getD (.text s)

end BlockStart

end RichText.Markdown
