import RichText.Markdown.Emphasis
import RichText.Markdown.Link
import RichText.Markdown.RawHtml

/-!
# The text of a block

Reads the raw text of a paragraph or a heading as inlines. The reader goes through the text once and
keeps the pieces read so far, the last one first. A closing bracket looks back for the bracket that
it belongs to, and what stands between the two becomes the content of a link or an image.

**Main definition.** `inlines` reads a whole text.
-/

namespace RichText.Markdown

namespace Inlines

/-- Where a reader stands: the pieces so far, last first, the character before the rest, and the
rest. -/
structure Cursor where
  pieces : List Piece
  before : Char
  rest : List Char

/-- Adds an inline that ends with the character `before` of the text. -/
def Cursor.add (pieces : List Piece) (i : Inline) (before : Char) (rest : List Char) : Cursor :=
  ⟨.inline i :: pieces, before, rest⟩

/-! ## Code spans -/

/-- The characters up to the next run of exactly `n` backticks, and those after it. `run` backticks
stand directly before the characters given, and `done` holds what stands before these, in reverse.
-/
def codeUpTo (n run : Nat) (done : List Char) : List Char → Option (List Char × List Char)
  | [] => if run = n then some (done.reverse, []) else none
  | c :: rest =>
    if c = '\x60' then codeUpTo n (run + 1) done rest
    else if run = n then some (done.reverse, c :: rest)
    else codeUpTo n 0 (c :: (List.replicate run '\x60' ++ done)) rest

/-- The text of a code span: line ends are spaces, and one space is taken from both ends unless the
text is blank. -/
def codeText (raw : List Char) : String :=
  let s := raw.map fun c => if c = '\n' then ' ' else c
  String.ofList <|
    if s.head? = some ' ' && s.getLast? = some ' ' && s.any (· != ' ') then s.tail.dropLast else s

/-- Reads a run of backticks: a code span up to the next run of the same length, or text. -/
def readCode (pieces : List Piece) (s : List Char) : Cursor :=
  let n := (s.takeWhile (· == '\x60')).length
  let rest := s.drop n
  match codeUpTo n 0 [] rest with
  | some (raw, rest) => .add pieces (.code (codeText raw)) '\x60' rest
  | none => .add pieces (.text (String.ofList (s.take n))) '\x60' rest

/-! ## Links and images -/

/-- The pieces behind the nearest opening bracket, the bracket, and the pieces before it; all pieces
last first. `inner` holds those already passed, in order. -/
def lastBracket? (inner : List Piece) :
    List Piece → Option (List Piece × (Bool × Bool × List Char) × List Piece)
  | [] => none
  | .bracket image dead after :: before => some (inner.reverse, (image, dead, after), before)
  | p :: before => lastBracket? (p :: inner) before

/-- Where a link or an image with a raw label leads, and the rest of the text, given the text after
its closing bracket. A target in round brackets comes first, then a second label, and then the
content's own text as a label. -/
def linkTarget? (defs : Definitions) (own rest : List Char) : Option (String × List Char) :=
  let byLabel :=
    match rest with
    | '[' :: s =>
      match label? s with
      | some ([], rest) => (defs.find? own).map (·, rest)
      | some (raw, rest) => (defs.find? raw).map (·, rest)
      | none => (defs.find? own).map (·, rest)
    | _ => (defs.find? own).map (·, rest)
  match rest with
  | '(' :: s => (target? s).or byLabel
  | _ => byLabel

/-- A bracket that can open no link any more, since it would stand around one. -/
def deaden : Piece → Piece
  | .bracket false _ after => .bracket false true after
  | p => p

/-- Reads what follows a closing bracket. -/
def readBracket (defs : Definitions) (pieces : List Piece) (rest : List Char) : Cursor :=
  let failed : Cursor := .add pieces (.text "]") ']' rest
  match lastBracket? [] pieces with
  | none => failed
  | some (inner, (image, dead, after), before) =>
    let own := after.take (after.length - (rest.length + 1))
    match if dead then none else linkTarget? defs own rest with
    | none =>
      let bracket := (Piece.bracket image dead after).settled
      .add (inner ++ .inline bracket :: before) (.text "]") ']' rest
    | some (url, rest) =>
      let content := Piece.settle inner
      if image then .add before (.image url content) ']' rest
      else .add (before.map deaden) (.styled (.link url) content) ']' rest

/-! ## Other characters -/

/-- Reads what follows a backslash: a break at the end of a line, an escaped character, or text. -/
def readEscape (pieces : List Piece) : List Char → Cursor
  | '\n' :: rest => .add pieces .hardBreak '\n' rest
  | c :: rest =>
    if isAsciiPunctuation c then .add pieces (.text (String.ofList [c])) c rest
    else .add pieces (.text "\\") '\\' (c :: rest)
  | [] => .add pieces (.text "\\") '\\' []

/-- Reads what follows an opening angle bracket: an address, a piece of HTML, or text. -/
def readAngle (pieces : List Piece) (s : List Char) : Cursor :=
  match address? s with
  | some (url, rest) => .add pieces (.styled (.link url) [.text url]) '>' rest
  | none =>
    match tag? s with
    | some rest => .add pieces .ignored '>' rest
    | none => .add pieces (.text "<") '<' s

/-- Reads what follows an ampersand: a character reference, or text. -/
def readReference (pieces : List Piece) (s : List Char) : Cursor :=
  match reference? s with
  | some (cs, rest) => .add pieces (.text (String.ofList cs)) ';' rest
  | none => .add pieces (.text "&") '&' s

/-- Reads a run of one of the marks of emphasis. -/
def readRun (pieces : List Piece) (before mark : Char) (s : List Char) : Cursor :=
  let n := (s.takeWhile (· == mark)).length
  let rest := s.drop n
  let run := DelimiterRun.ofNeighbours mark n before (rest.headD '\n')
  ⟨.delimiters run :: pieces, mark, rest⟩

/-- Whether `c` has no meaning of its own. -/
def isPlain (c : Char) : Bool :=
  !(['\\', '\x60', '*', '_', '~', '[', ']', '!', '<', '&', '\n'].contains c)

/-- Reads characters without meaning and the line end after them, if there is one. Spaces before a
line end are dropped; two of them make it a hard break. -/
def readPlain (pieces : List Piece) (before : Char) (s : List Char) : Cursor :=
  let plain := s.takeWhile isPlain
  match s.dropWhile isPlain with
  | '\n' :: rest =>
    let line := trimRight plain
    let isHard := line.length + 2 ≤ plain.length
    .add (if line.isEmpty then pieces else .inline (.text (String.ofList line)) :: pieces)
      (if isHard then .hardBreak else .softBreak) '\n' rest
  | rest => .add pieces (.text (String.ofList plain)) (plain.getLastD before) rest

/-- Reads the next piece, which starts with `c`. -/
def readNext (defs : Definitions) (pieces : List Piece) (before c : Char) (rest : List Char) :
    Cursor :=
  match c with
  | '\\' => readEscape pieces rest
  | '\x60' => readCode pieces (c :: rest)
  | '*' | '_' | '~' => readRun pieces before c (c :: rest)
  | '[' => ⟨.bracket false false rest :: pieces, c, rest⟩
  | ']' => readBracket defs pieces rest
  | '!' =>
    match rest with
    | '[' :: rest => ⟨.bracket true false rest :: pieces, '[', rest⟩
    | _ => .add pieces (.text "!") c rest
  | '<' => readAngle pieces rest
  | '&' => readReference pieces rest
  | _ => readPlain pieces before (c :: rest)

/-- Reads to the end of the text. Every piece takes at least one character, so `fuel` beyond the
length of the text is never spent. -/
def readAll (defs : Definitions) : Nat → Cursor → List Piece
  | fuel + 1, ⟨pieces, before, c :: rest⟩ =>
    readAll defs fuel (readNext defs pieces before c rest)
  | _, ⟨pieces, _, _⟩ => pieces

end Inlines

/-- The inlines that a raw text writes, with links as defined. Spaces and tabs at its end are
dropped. -/
def inlines (defs : Definitions) (s : List Char) : List Inline :=
  let s := trimRight s
  Piece.settle (Inlines.readAll defs s.length ⟨[], '\n', s⟩)

end RichText.Markdown
