/-!
# Names that may be written raw

Tags and attribute names go into output without escaping, so only those listed here are let through.
-/

namespace RichText

/-- Tags of a block of marked-up text. -/
def markupSectionTags : List String :=
  ["p", "h1", "h2", "h3", "h4", "h5", "h6", "blockquote", "pull-quote", "aside"]

/-- Tags of a list. -/
def listSectionTags : List String := ["ul", "ol"]

/-- Tags of a markup. -/
def markupTags : List String := ["a", "b", "code", "em", "i", "s", "strong", "sub", "sup", "u"]

/-- Whether a block of marked-up text may carry the tag. -/
def isMarkupSectionTag (tag : String) : Bool := markupSectionTags.contains tag

/-- Whether a list may carry the tag. -/
def isListSectionTag (tag : String) : Bool := listSectionTags.contains tag

/-- Whether a markup may carry the tag. -/
def isMarkupTag (tag : String) : Bool := markupTags.contains tag

/-- Whether `c` may stand in an attribute name after its first letter. -/
def isNameChar (c : Char) : Bool := c.isAlphanum || c == '-' || c == '_' || c == ':'

/-- Whether the characters form a plain attribute name: a letter, then letters, digits, hyphens,
underscores and colons, all of them ASCII. -/
def isPlainName : List Char → Bool
  | c :: rest => c.isAlpha && rest.all isNameChar
  | [] => false

/-- Whether a markup may carry an attribute of this name. -/
def isAttributeName (name : String) : Bool := isPlainName name.toList

end RichText
