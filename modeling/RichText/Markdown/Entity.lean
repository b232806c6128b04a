import RichText.Json.Parser
import RichText.Markdown.NamedCharacters

/-!
# Character references and escapes

A text may write a character as `&name;`, `&#decimal;` or `&#xhex;`, and take the meaning from a
punctuation character by a backslash before it.
-/

namespace RichText.Markdown

/-! ## Kinds of characters -/

/-- Whether `c` is ASCII punctuation, which a backslash may escape. -/
def isAsciiPunctuation (c : Char) : Bool :=
  ('!' ≤ c && c ≤ '/') || (':' ≤ c && c ≤ '@') || ('[' ≤ c && c ≤ '\x60') || ('\x7b' ≤ c && c ≤ '~')

/-- Whether `c` is a hexadecimal digit. -/
def isHexDigit (c : Char) : Bool := (Json.Parser.hexDigit? c).isSome

/-! ## Character references -/

/-- The number that hexadecimal digits write. -/
def hexNumber (ds : List Char) : Nat :=
  ds.foldl (fun n d => 16 * n + (Json.Parser.hexDigit? d).getD 0) 0

/-- The character with a code point; U+FFFD stands for zero and for what is no code point. -/
def referredChar (n : Nat) : Char := if n ≠ 0 ∧ n.isValidChar then Char.ofNat n else '\uFFFD'

/-- The names with the characters that they stand for. -/
def namedEntries : List (List Char × List Char) :=
  (namedCharacters.flatMap fun row => row.toList.splitOn ' ').map fun entry =>
    let points := (entry.dropWhile (· != ':')).drop 1
    (entry.takeWhile (· != ':'), (points.splitOn ',').map fun ds => Char.ofNat (hexNumber ds))

/-- A number of one to `limit` digits up to a semicolon, read by `value`. -/
def numericReference (isDigit : Char → Bool) (limit : Nat) (value : List Char → Nat)
    (s : List Char) : Option (List Char × List Char) :=
  let ds := s.takeWhile isDigit
  match s.dropWhile isDigit with
  | ';' :: rest =>
    if ds.isEmpty || limit < ds.length then none else some ([referredChar (value ds)], rest)
  | _ => none

/-- A character reference after its ampersand: the characters it stands for, and the rest. -/
def reference? : List Char → Option (List Char × List Char)
  | '#' :: 'x' :: s | '#' :: 'X' :: s => numericReference isHexDigit 6 hexNumber s
  | '#' :: s => numericReference Char.isDigit 7 Json.Parser.digitsValue s
  | s =>
    match s.dropWhile Char.isAlphanum with
    | ';' :: rest => (namedEntries.lookup (s.takeWhile Char.isAlphanum)).map (·, rest)
    | _ => none

/-! ## Escapes -/

/-- The characters that a raw text stands for, at most `fuel` of them read. -/
def unescapeFrom : Nat → List Char → List Char
  | fuel + 1, '\\' :: c :: rest =>
    if isAsciiPunctuation c then c :: unescapeFrom fuel rest
    else '\\' :: unescapeFrom fuel (c :: rest)
  | fuel + 1, '&' :: rest =>
    match reference? rest with
    | some (cs, rest) => cs ++ unescapeFrom fuel rest
    | none => '&' :: unescapeFrom fuel rest
  | fuel + 1, c :: rest => c :: unescapeFrom fuel rest
  | _, _ => []

/-- The text that a raw text stands for once its escapes and references are resolved. -/
def unescape (s : List Char) : String := String.ofList (unescapeFrom s.length s)

end RichText.Markdown
