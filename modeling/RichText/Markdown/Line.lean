/-!
# Lines

Markdown is read line by line, and blocks are told apart by indentation. A tab reaches to the next
column that is a multiple of four, so a `Line` knows the column at which its rest starts, and a tab
of which only a part is taken leaves spaces behind.
-/

namespace RichText.Markdown

/-- What is left of a line, and the column at which it starts. -/
structure Line where
  column : Nat := 0
  rest : List Char
deriving DecidableEq

/-- Whether `c` is a space or a tab. -/
def isGap (c : Char) : Bool := c == ' ' || c == '\t'

/-- The width of a tab that stands at `column`. -/
def tabWidth (column : Nat) : Nat := 4 - column % 4

/-- The characters without spaces and tabs at the end. -/
def trimRight (s : List Char) : List Char := (s.reverse.dropWhile isGap).reverse

namespace Line

/-- Whether nothing but spaces and tabs is left. -/
def isBlank (l : Line) : Bool := l.rest.all isGap

/-- The column of the first character at `column` or later that is neither space nor tab. -/
def contentColumn (column : Nat) : List Char → Nat
  | ' ' :: rest => contentColumn (column + 1) rest
  | '\t' :: rest => contentColumn (column + tabWidth column) rest
  | _ => column

/-- How many columns the line is indented. -/
def indent (l : Line) : Nat := contentColumn l.column l.rest - l.column

/-- The line after its indentation. -/
def unindented (l : Line) : Line := ⟨contentColumn l.column l.rest, l.rest.dropWhile isGap⟩

/-- Takes up to `n` columns of spaces and tabs off the front of `s`, which starts at `column`. -/
def dropGaps (column : Nat) : Nat → List Char → Line
  | 0, s => ⟨column, s⟩
  | n + 1, ' ' :: rest => dropGaps (column + 1) n rest
  | n + 1, '\t' :: rest =>
    let width := tabWidth column
    if width ≤ n + 1 then dropGaps (column + width) (n + 1 - width) rest
    else ⟨column + (n + 1), List.replicate (width - (n + 1)) ' ' ++ rest⟩
  | _, s => ⟨column, s⟩
termination_by structural _ s => s

/-- The line without up to `n` columns of its indentation. -/
def dropIndent (l : Line) (n : Nat) : Line := dropGaps l.column n l.rest

/-- The line after its first `n` characters, none of them a tab. -/
def drop (l : Line) (n : Nat) : Line := ⟨l.column + n, l.rest.drop n⟩

end Line

/-! ## Lines of a text -/

/-- The lines of a text, each with its end as it stands in code: a line feed, or nothing at the end
of the text. A line ends at a line feed, a carriage return, or both in this order; `done` holds the
characters of the current line, in reverse. -/
def splitLines (done : List Char) : List Char → List (List Char × List Char)
  | '\r' :: '\n' :: rest => (done.reverse, ['\n']) :: splitLines [] rest
  | '\n' :: rest => (done.reverse, ['\n']) :: splitLines [] rest
  | '\r' :: rest => (done.reverse, ['\n']) :: splitLines [] rest
  | c :: rest => splitLines (c :: done) rest
  | [] => if done.isEmpty then [] else [(done.reverse, [])]

end RichText.Markdown
