/-!
# Escaping text for HTML

Five characters have a meaning in element content or in a quoted attribute value. Each is written as
an entity, and all other characters stand for themselves.
-/

namespace RichText.Html

/-- One character as it stands in HTML. -/
def escapeChar : Char → List Char
  | '&' => ['&', 'a', 'm', 'p', ';']
  | '<' => ['&', 'l', 't', ';']
  | '>' => ['&', 'g', 't', ';']
  | '"' => ['&', 'q', 'u', 'o', 't', ';']
  | '\'' => ['&', '#', '3', '9', ';']
  | c => [c]

/-- Characters as they stand in element content or between the quotes of an attribute value. -/
def escapeChars (cs : List Char) : List Char := cs.flatMap escapeChar

/-- A text as it stands in element content or between the quotes of an attribute value. -/
def escape (s : String) : String := String.ofList (escapeChars s.toList)

end RichText.Html
