import RichText.Markdown.Inlines

/-!
# Outlines

The blocks of a text before the text in them is read. That has to wait, since a link may be defined
after the place where it is used.

In a *tight* list, which has no blank lines between its parts, the text of an item stands in the
item without a paragraph around it.
-/

namespace RichText.Markdown

/-- A block whose text is still raw. -/
inductive Outline where
  | paragraph (text : List Char)
  | heading (level : HeadingLevel) (text : List Char)
  /-- A code block with its lines. -/
  | code (info : Option String) (lines : List String)
  /-- A block of HTML with the number of its lines. -/
  | html (lines : Nat)
  | rule
  | quote (children : List Outline)
  | list (start : Option Nat) (tight : Bool) (items : List (List Outline))

namespace Outline

mutual

/-- The block with its text read, and links as defined. -/
def toBlock (defs : Definitions) : Outline → Block
  | .paragraph text => .paragraph (inlines defs text)
  | .heading level text => .heading level (inlines defs text)
  | .code info lines => .code info lines
  | .html lines => .other (List.replicate lines .ignored)
  | .rule => .rule
  | .quote children => .other (toBlocks defs children)
  | .list start tight items => .list start (toItems defs tight items)

/-- The blocks with their text read. -/
def toBlocks (defs : Definitions) : List Outline → List Block
  | [] => []
  | o :: rest => o.toBlock defs :: toBlocks defs rest

/-- The parts of an item. -/
def toParts (defs : Definitions) (tight : Bool) : List Outline → List ItemPart
  | [] => []
  | .paragraph text :: rest =>
    let content := inlines defs text
    (if tight then content.map .inline else [.block (.paragraph content)]) ++
      toParts defs tight rest
  | o :: rest => .block (o.toBlock defs) :: toParts defs tight rest

/-- The items of a list. -/
def toItems (defs : Definitions) (tight : Bool) : List (List Outline) → List (List ItemPart)
  | [] => []
  | item :: rest => toParts defs tight item :: toItems defs tight rest

end

end Outline

end RichText.Markdown
