import RichText.Html.Token

/-!
# Elements

A list of HTML tokens is well nested if it is the flat form of a list of elements: every end tag
then closes the start tag opened last, and nothing stays open. Only an image has no end tag.
-/

namespace RichText.Html

/-- An element, an image or a text. -/
inductive Element where
  | element (tag : String) (attributes : List (String × String)) (children : List Element)
  /-- An element that has no content and no end tag. -/
  | void (tag : String) (attributes : List (String × String))
  | text (s : String)

/-- The start tag of an element: its name and its attributes. -/
abbrev OpenTag := String × List (String × String)

mutual

/-- The tokens of an element. -/
def Element.tokens : Element → List Token
  | .element tag attributes children =>
    .start tag attributes :: Element.tokensList children ++ [.finish tag]
  | .void tag attributes => [.start tag attributes]
  | .text s => [.text s]

/-- The tokens of elements, one after another. -/
def Element.tokensList : List Element → List Token
  | [] => []
  | e :: rest => e.tokens ++ Element.tokensList rest

end

mutual

/-- The characters of an element, each with the tags that are open around it, outermost first; the
tags `around` are open around the element itself. -/
def Element.styledFrom (around : List OpenTag) : Element → List (Char × List OpenTag)
  | .element tag attributes children =>
    Element.styledListFrom (around ++ [(tag, attributes)]) children
  | .void _ _ => []
  | .text s => s.toList.map (·, around)

/-- The characters of elements, one after another. -/
def Element.styledListFrom (around : List OpenTag) : List Element → List (Char × List OpenTag)
  | [] => []
  | e :: rest => e.styledFrom around ++ Element.styledListFrom around rest

end

/-- The characters of elements, each with the tags that are open around it, outermost first. -/
def Element.styled (es : List Element) : List (Char × List OpenTag) := Element.styledListFrom [] es

end RichText.Html
