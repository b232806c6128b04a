import RichText.Json.Basic

/-!
# Reading JSON text

A reader takes the characters that remain and gives back a value and the characters after it, or
nothing if the text is not JSON. `value depth` reads any value whose arrays and objects nest at most
`depth` deep; it hands `value (depth - 1)` to the readers of arrays and objects, so nesting is the
recursion and no fuel is spent on it.

**Main definition.** `Json.parse?` reads a whole text.
-/

namespace RichText.Json

namespace Parser

/-- What a reader gives back: a value and the characters after it. -/
abbrev Read (α : Type) := Option (α × List Char)

/-- Space, tab, line feed and carriage return may stand between any two tokens. -/
def isBlank (c : Char) : Bool := c == ' ' || c == '\t' || c == '\n' || c == '\r'

/-- The characters after leading blanks. -/
def skipBlanks : List Char → List Char
  | c :: rest => if isBlank c then skipBlanks rest else c :: rest
  | [] => []

/-! ## Texts -/

/-- The value of a hexadecimal digit. -/
def hexDigit? (c : Char) : Option Nat :=
  if '0' ≤ c ∧ c ≤ '9' then some (c.toNat - 48)
  else if 'a' ≤ c ∧ c ≤ 'f' then some (c.toNat - 87)
  else if 'A' ≤ c ∧ c ≤ 'F' then some (c.toNat - 55)
  else none

/-- The number written by four hexadecimal digits. -/
def hexQuad? (a b c d : Char) : Option Nat := do
  return (((← hexDigit? a) * 16 + (← hexDigit? b)) * 16 + (← hexDigit? c)) * 16 + (← hexDigit? d)

/-- The character that a one-letter escape stands for. -/
def escaped? : Char → Option Char
  | '"' => some '"'
  | '\\' => some '\\'
  | '/' => some '/'
  | 'b' => some '\x08'
  | 'f' => some '\x0c'
  | 'n' => some '\n'
  | 'r' => some '\r'
  | 't' => some '\t'
  | _ => none

/-- The rest of a text after its opening quote; `done` holds what was read, in reverse. A code point
beyond the basic plane is written by two escapes, and neither half may stand alone. -/
def textBody (done : List Char) : List Char → Read String
  | '"' :: rest => some (String.ofList done.reverse, rest)
  | '\\' :: 'u' :: a :: b :: c :: d :: rest =>
    match hexQuad? a b c d with
    | none => none
    | some n =>
      if 0xD800 ≤ n ∧ n < 0xDC00 then
        match rest with
        | '\\' :: 'u' :: a' :: b' :: c' :: d' :: rest =>
          match hexQuad? a' b' c' d' with
          | none => none
          | some low =>
            if 0xDC00 ≤ low ∧ low < 0xE000 then
              textBody (Char.ofNat (0x10000 + (n - 0xD800) * 0x400 + (low - 0xDC00)) :: done) rest
            else none
        | _ => none
      else if 0xDC00 ≤ n ∧ n < 0xE000 then none
      else textBody (Char.ofNat n :: done) rest
  | '\\' :: e :: rest =>
    match escaped? e with
    | some c => textBody (c :: done) rest
    | none => none
  | c :: rest => if c.toNat < 0x20 ∨ c = '\\' then none else textBody (c :: done) rest
  | [] => none

/-! ## Numbers -/

/-- Whether `c` is a decimal digit. -/
def isDigit (c : Char) : Bool := '0' ≤ c && c ≤ '9'

/-- The number that a list of decimal digits writes. -/
def digitsValue (ds : List Char) : Nat := ds.foldl (fun n d => 10 * n + (d.toNat - 48)) 0

/-- The fraction after an integer part: a point and at least one digit, or nothing at all. -/
def fraction? : List Char → Read (Option (List Char))
  | '.' :: rest =>
    match rest.takeWhile isDigit with
    | [] => none
    | ds => some (some ds, rest.dropWhile isDigit)
  | s => some (none, s)

/-- The digits of an exponent after its sign. -/
def exponentDigits? (negate : Bool) (s : List Char) : Read (Option Int) :=
  match s.takeWhile isDigit with
  | [] => none
  | ds =>
    let n : Int := digitsValue ds
    some (some (if negate then -n else n), s.dropWhile isDigit)

/-- The exponent after a number: a letter, a sign or none, and at least one digit; or nothing. -/
def exponent? : List Char → Read (Option Int)
  | c :: rest =>
    if c = 'e' ∨ c = 'E' then
      match rest with
      | '+' :: rest => exponentDigits? false rest
      | '-' :: rest => exponentDigits? true rest
      | rest => exponentDigits? false rest
    else some (none, c :: rest)
  | [] => some (none, [])

/-- The number with the given parts. Without fraction and exponent it is an integer, if it fits the
machine's signed or unsigned word; zero with a sign is none. All else is a double, if it is finite.
-/
def number? (negate : Bool) (whole : List Char) (fraction : Option (List Char))
    (exponent : Option Int) : Option Json :=
  let n := digitsValue whole
  match fraction, exponent with
  | none, none =>
    if negate then
      if 0 < n ∧ n ≤ Binary64.twoTo 63 then some (.int (-n))
      else (Binary64.ofDecimal? true n 0).map .float
    else if n < Binary64.twoTo 64 then some (.int n)
    else (Binary64.ofDecimal? false n 0).map .float
  | _, _ =>
    let ds := fraction.getD []
    let x := Binary64.ofDecimal? negate (digitsValue (whole ++ ds)) (exponent.getD 0 - ds.length)
    x.map .float

/-- A number without its sign. No digit may follow a leading zero. -/
def unsigned (negate : Bool) (s : List Char) : Read Json :=
  match s.takeWhile isDigit with
  | [] => none
  | '0' :: _ :: _ => none
  | whole =>
    match fraction? (s.dropWhile isDigit) with
    | none => none
    | some (fraction, rest) =>
      match exponent? rest with
      | none => none
      | some (exponent, rest) => (number? negate whole fraction exponent).map (·, rest)

/-! ## Arrays and objects -/

/-- The items of an array after its opening bracket or after a comma, each read by `item`. Every
item takes at least one character, so `fuel` beyond the length of the text is never spent. -/
def items (item : List Char → Read Json) : Nat → List Char → Read (List Json)
  | 0, _ => none
  | fuel + 1, s =>
    match item s with
    | none => none
    | some (v, rest) =>
      match skipBlanks rest with
      | ']' :: rest => some ([v], rest)
      | ',' :: rest => (items item fuel rest).map fun (vs, rest) => (v :: vs, rest)
      | _ => none

/-- A member of an object: a name, a colon and a value. -/
def member (item : List Char → Read Json) (s : List Char) : Read (String × Json) :=
  match skipBlanks s with
  | '"' :: rest =>
    match textBody [] rest with
    | none => none
    | some (key, rest) =>
      match skipBlanks rest with
      | ':' :: rest => (item rest).map fun (v, rest) => ((key, v), rest)
      | _ => none
  | _ => none

/-- The members of an object after its opening brace or after a comma. -/
def members (item : List Char → Read Json) : Nat → List Char → Read (List (String × Json))
  | 0, _ => none
  | fuel + 1, s =>
    match member item s with
    | none => none
    | some (m, rest) =>
      match skipBlanks rest with
      | '\x7d' :: rest => some ([m], rest)
      | ',' :: rest => (members item fuel rest).map fun (ms, rest) => (m :: ms, rest)
      | _ => none

/-- The rest of an array after its opening bracket. -/
def array (item : List Char → Read Json) (s : List Char) : Read Json :=
  match skipBlanks s with
  | ']' :: rest => some (.arr [], rest)
  | s => (items item s.length s).map fun (vs, rest) => (.arr vs, rest)

/-- The rest of an object after its opening brace. -/
def object (item : List Char → Read Json) (s : List Char) : Read Json :=
  match skipBlanks s with
  | '\x7d' :: rest => some (.obj [], rest)
  | s => (members item s.length s).map fun (ms, rest) => (.obj ms, rest)

/-! ## Values -/

/-- A value that is neither array nor object. -/
def scalar : List Char → Read Json
  | 'n' :: 'u' :: 'l' :: 'l' :: rest => some (.null, rest)
  | 't' :: 'r' :: 'u' :: 'e' :: rest => some (.bool true, rest)
  | 'f' :: 'a' :: 'l' :: 's' :: 'e' :: rest => some (.bool false, rest)
  | '"' :: rest => (textBody [] rest).map fun (s, rest) => (.str s, rest)
  | '-' :: rest => unsigned true rest
  | s => unsigned false s

/-- A value whose arrays and objects nest at most `depth` deep. -/
def value : Nat → List Char → Read Json
  | 0, s =>
    match skipBlanks s with
    | '[' :: _ | '\x7b' :: _ => none
    | s => scalar s
  | depth + 1, s =>
    match skipBlanks s with
    | '[' :: rest => array (value depth) rest
    | '\x7b' :: rest => object (value depth) rest
    | s => scalar s

/-- How deep arrays and objects may nest. -/
def maxDepth : Nat := 127

end Parser

/-- The value that a text writes, members in the order of the text. Nothing but blanks may follow.
-/
def parse? (s : String) : Option Json :=
  match Parser.value Parser.maxDepth s.toList with
  | some (v, rest) => if Parser.skipBlanks rest = [] then some v else none
  | none => none

/-- The value that a text writes, with the members of each object sorted and the last of each name
kept. -/
def parseSorted? (s : String) : Option Json := (parse? s).map sorted

end RichText.Json
