import RichText.Markdown.Entity
import RichText.Markdown.Line
import RichText.Text.Case

/-!
# Links

The parts of a link that stand outside its content: where it leads, its title, which a document does
not hold, and the label under which a definition elsewhere in the text gives these.

Readers take the characters that remain and give back what they read and the characters after it.
-/

namespace RichText.Markdown

/-! ## Space -/

/-- The characters after spaces and tabs and at most one line feed among them. -/
def skipSpace (s : List Char) : List Char :=
  match s.dropWhile isGap with
  | '\n' :: rest => rest.dropWhile isGap
  | s => s

/-- Whether `c` is a space, a tab or a line feed. -/
def isSpace (c : Char) : Bool := isGap c || c == '\n'

/-! ## Destination and title -/

/-- Whether `c` is a control character. -/
def isControl (c : Char) : Bool := c.toNat < 0x20 || c.toNat == 0x7F

/-- The raw characters up to an unescaped `close`, none of which `refused` holds of, and the rest;
`done` holds those already read, in reverse. -/
def readUpTo (close : Char) (refused : Char → Bool) (done : List Char) :
    List Char → Option (List Char × List Char)
  | '\\' :: c :: rest =>
    if isAsciiPunctuation c then readUpTo close refused (c :: '\\' :: done) rest
    else if refused c then none
    else readUpTo close refused (c :: '\\' :: done) rest
  | c :: rest =>
    if c = close then some (done.reverse, rest)
    else if refused c then none
    else readUpTo close refused (c :: done) rest
  | [] => none

/-- The raw characters of a destination without brackets around it, in which round brackets are
balanced; `depth` of them are open. -/
def bareDestination (depth : Nat) (done : List Char) : List Char → Option (List Char × List Char)
  | '\\' :: c :: rest =>
    if isAsciiPunctuation c then bareDestination depth (c :: '\\' :: done) rest
    else if c = ' ' ∨ isControl c then finish depth ('\\' :: done) (c :: rest)
    else bareDestination depth (c :: '\\' :: done) rest
  | c :: rest =>
    if c = ' ' ∨ isControl c then finish depth done (c :: rest)
    else if c = '(' then bareDestination (depth + 1) (c :: done) rest
    else if c = ')' then
      match depth with
      | 0 => finish 0 done (c :: rest)
      | depth + 1 => bareDestination depth (c :: done) rest
    else bareDestination depth (c :: done) rest
  | [] => finish depth done []
where
  /-- The destination ends here, unless a bracket is open. -/
  finish (depth : Nat) (done rest : List Char) : Option (List Char × List Char) :=
    if depth = 0 then some (done.reverse, rest) else none

/-- A destination in raw characters; one between angle brackets may be empty and hold spaces. -/
def destination? : List Char → Option (List Char × List Char)
  | '<' :: rest => readUpTo '>' (fun c => c == '<' || c == '\n') [] rest
  | s => bareDestination 0 [] s

/-- The characters after a title between quotes or round brackets. -/
def afterTitle? : List Char → Option (List Char)
  | '"' :: rest => (readUpTo '"' (fun _ => false) [] rest).map (·.2)
  | '\'' :: rest => (readUpTo '\'' (fun _ => false) [] rest).map (·.2)
  | '(' :: rest => (readUpTo ')' (· == '(') [] rest).map (·.2)
  | _ => none

/-- A target in round brackets, given the characters after the opening one: a destination, which may
be left out, and a title after some space, which may be left out as well. -/
def target? (s : List Char) : Option (String × List Char) :=
  match destination? (skipSpace s) with
  | none => none
  | some (url, rest) =>
    let close := skipSpace rest
    match close with
    | ')' :: rest => some (unescape url, rest)
    | _ =>
      if close.length < rest.length then
        match (afterTitle? close).map skipSpace with
        | some (')' :: rest) => some (unescape url, rest)
        | _ => none
      else none

/-! ## Addresses in angle brackets -/

/-- Whether `s` is an absolute address: a scheme of 2 to 32 characters, a colon, and no space,
control character or angle bracket. -/
def isAddress (s : List Char) : Bool :=
  let isSchemeChar (c : Char) := c.isAlphanum || ['.', '+', '-'].contains c
  let scheme := s.takeWhile isSchemeChar
  2 ≤ scheme.length && scheme.length ≤ 32 && scheme.head?.any Char.isAlpha &&
    (s.dropWhile isSchemeChar).head? == some ':' &&
    s.all fun c => c != ' ' && c != '<' && !isControl c

/-- Whether `s` may stand between two points of the domain of a mail address. -/
def isDomainLabel (s : List Char) : Bool :=
  s.length ≤ 63 && s.head?.any Char.isAlphanum && s.getLast?.any Char.isAlphanum &&
    s.all fun c => c.isAlphanum || c == '-'

/-- Whether `s` is a mail address. -/
def isMailAddress (s : List Char) : Bool :=
  match s.splitOn '@' with
  | [user, domain] =>
    !user.isEmpty &&
      user.all (fun c => c.isAlphanum || ".!#$%&'*+/=?^_\x60\x7b|\x7d~-".toList.contains c) &&
      (domain.splitOn '.').all isDomainLabel
  | _ => false

/-- An address up to a closing angle bracket, given the characters after the opening one. -/
def address? (s : List Char) : Option (String × List Char) :=
  let inner := s.takeWhile (· != '>')
  match s.dropWhile (· != '>') with
  | _ :: rest =>
    if isAddress inner || isMailAddress inner then some (String.ofList inner, rest) else none
  | [] => none

/-! ## Labels -/

/-- How many characters a label may have. -/
def maxLabelLength : Nat := 999

/-- The words of a text. -/
def words (s : List Char) : List (List Char) :=
  (s.splitOnP isSpace).filter (!·.isEmpty)

/-- The form in which labels are compared: words folded to one case, with a single space between. -/
def normalLabel (raw : List Char) : List Char :=
  caseFold ((words raw).intersperse [' ']).flatten

/-- A label, given the characters after its opening bracket: raw characters without brackets. -/
def label? (s : List Char) : Option (List Char × List Char) :=
  match readUpTo ']' (· == '[') [] s with
  | some (raw, rest) => if raw.length ≤ maxLabelLength then some (raw, rest) else none
  | none => none

/-! ## Definitions -/

/-- The links that a text defines: normal labels with where they lead. The first definition of a
label counts. -/
abbrev Definitions := List (List Char × String)

/-- Where the link with a raw label leads, if it is defined. -/
def Definitions.find? (defs : Definitions) (raw : List Char) : Option String :=
  let label := normalLabel raw
  if label.isEmpty then none else defs.lookup label

/-- Adds a definition behind those before it. -/
def Definitions.define (defs : Definitions) (label : List Char) (url : String) : Definitions :=
  defs ++ [(label, url)]

/-- The rest of a text after the end of its line, if only spaces and tabs stand before that. -/
def afterLineEnd? (s : List Char) : Option (List Char) :=
  match s.dropWhile isGap with
  | '\n' :: rest => some rest
  | [] => some []
  | _ => none

/-- The rest after the title and the line of a definition. A title that is followed by more on its
line is none, and belongs to the text if it stands on a line of its own. -/
def afterDefinition? (s : List Char) : Option (List Char) :=
  let title := skipSpace s
  let withTitle :=
    if title.length < s.length then (afterTitle? title).bind afterLineEnd? else none
  match withTitle with
  | some rest => some rest
  | none => afterLineEnd? s

/-- A definition at the start of a paragraph: a label, a colon and a target to the end of the line.
-/
def definition? : List Char → Option ((List Char × String) × List Char)
  | '[' :: s =>
    match label? s with
    | some (raw, ':' :: rest) =>
      let rest := skipSpace rest
      match destination? rest with
      | some (url, after) =>
        let label := normalLabel raw
        if label.isEmpty || after.length = rest.length then none
        else (afterDefinition? after).map fun after => ((label, unescape url), after)
      | none => none
    | _ => none
  | _ => none

/-- The definitions at the start of a paragraph, at most `fuel` of them, and the rest of its text.
-/
def takeDefinitions : Nat → Definitions → List Char → Definitions × List Char
  | 0, defs, s => (defs, s)
  | fuel + 1, defs, s =>
    match definition? s with
    | some ((label, url), rest) => takeDefinitions fuel (defs.define label url) rest
    | none => (defs, s)

end RichText.Markdown
