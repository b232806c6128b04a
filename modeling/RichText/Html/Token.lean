import RichText.Html.Escape

/-!
# Reading HTML

What the HTML target writes is read back here as start tags, end tags and text. The reader knows
nothing of the target: it splits the text at angle brackets, takes each tag apart at its quotes, and
resolves the five entities of `Html.Escape`.
-/

namespace RichText.Html

/-! ## Entities -/

/-- The character of an entity at the start of the characters after an ampersand, and the rest. -/
def entity? : List Char → Option (Char × List Char)
  | 'a' :: 'm' :: 'p' :: ';' :: rest => some ('&', rest)
  | 'l' :: 't' :: ';' :: rest => some ('<', rest)
  | 'g' :: 't' :: ';' :: rest => some ('>', rest)
  | 'q' :: 'u' :: 'o' :: 't' :: ';' :: rest => some ('"', rest)
  | '#' :: '3' :: '9' :: ';' :: rest => some ('\'', rest)
  | _ => none

theorem length_of_entity? {s rest : List Char} {c : Char} (h : entity? s = some (c, rest)) :
    rest.length < s.length := by
  unfold entity? at h
  split at h <;> simp at h <;> obtain ⟨_, rfl⟩ := h <;> simp <;> omega

/-- The characters that escaped text stands for. An ampersand that starts no entity stands for
itself. -/
def unescapeChars : List Char → List Char
  | [] => []
  | c :: rest =>
    if c = '&' then
      match h : entity? rest with
      | some (d, after) =>
        have := length_of_entity? h
        d :: unescapeChars after
      | none => c :: unescapeChars rest
    else c :: unescapeChars rest
termination_by s => s.length
decreasing_by all_goals simp_all <;> omega

/-- The text that an escaped text stands for. -/
def unescape (s : String) : String := String.ofList (unescapeChars s.toList)

/-! ## Tokens -/

/-- A piece of HTML. -/
inductive Token where
  | start (tag : String) (attributes : List (String × String))
  | finish (tag : String)
  | text (s : String)
deriving DecidableEq

/-- The text `s`, unless it is empty. -/
def textToken (s : List Char) : List Token :=
  if s.isEmpty then [] else [.text (String.ofList (unescapeChars s))]

/-- The attributes of a tag, which was split at its quotes: names, each between a space and an
equals sign, and values in turn. -/
def attributes? : List (List Char) → Option (List (String × String))
  | [[]] => some []
  | (' ' :: name) :: value :: rest =>
    if name.getLast? = some '=' then
      (attributes? rest).map fun as =>
        (String.ofList name.dropLast, String.ofList (unescapeChars value)) :: as
    else none
  | _ => none

/-- What stands between two angle brackets. -/
def tag? : List Char → Option Token
  | '/' :: name => some (.finish (String.ofList name))
  | s =>
    (attributes? ((s.dropWhile (· != ' ')).splitOn '"')).map fun as =>
      .start (String.ofList (s.takeWhile (· != ' '))) as

/-- The tokens of the characters that remain. `done` holds, in reverse, what was read since the last
angle bracket, which was an opening one if `inTag` holds. -/
def tokensFrom (inTag : Bool) (done : List Char) : List Char → Option (List Token)
  | [] => if inTag then none else some (textToken done.reverse)
  | c :: rest =>
    match inTag, c with
    | true, '>' => do return (← tag? done.reverse) :: (← tokensFrom false [] rest)
    | true, '<' => none
    | false, '<' => do return textToken done.reverse ++ (← tokensFrom true [] rest)
    | false, '>' => none
    | inTag, c => tokensFrom inTag (c :: done) rest

/-- The tokens of a text, if its angle brackets pair up and its tags are well formed. -/
def tokens? (s : String) : Option (List Token) := tokensFrom false [] s.toList

end RichText.Html
