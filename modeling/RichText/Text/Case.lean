import RichText.Text.CaseTable

/-!
# Lower case and case folding

Lower case maps one character at a time, with two exceptions: a capital I with dot above becomes two
characters, and a capital sigma takes its final form at the end of a word. Case folding is the
coarser map under which two labels are compared.
-/

namespace RichText

/-- The lower case of a single character, out of context. -/
def lowerChar (c : Char) : List Char :=
  if c.toNat < 128 then [c.toLower]
  else if c = 'İ' then ['i', '\u0307']
  else [(CaseRun.image? lowercaseRuns c.toNat).getD c]

/-- Whether the first character that counts for case is cased. -/
def startsCased (s : List Char) : Bool :=
  match s.dropWhile caseIgnorable.mem with
  | c :: _ => cased.mem c
  | [] => false

/-- Lower case of a text that stands after the characters `before`, given in reverse. A sigma is
final when a cased character stands before it and none after it. -/
def lowerFrom (before : List Char) : List Char → List Char
  | [] => []
  | c :: rest =>
    let image :=
      if c = 'Σ' then
        if startsCased before && !startsCased rest then ['ς'] else ['σ']
      else lowerChar c
    image ++ lowerFrom (c :: before) rest

/-- The lower case of a text. -/
def lowercase (s : String) : String := String.ofList (lowerFrom [] s.toList)

/-- The case folding of a single character. -/
def foldChar (c : Char) : List Char :=
  match foldSequences.find? (·.1 == c.toNat) with
  | some (_, image) => image.map Char.ofNat
  | none =>
    match CaseRun.image? foldRuns c.toNat with
    | some d => [d]
    | none => lowerChar c

/-- The case folding of a text: two texts are alike up to case when their foldings are equal. -/
def caseFold (s : List Char) : List Char := s.flatMap foldChar

end RichText
