import RichText.Document.Decoding
import RichText.Markdown.Import
import RichText.Markdown.Tree

/-!
# What a Markdown tree says

The document that a tree stands for, by recursion on the tree and without the events. Texts are
runs: each text, code span or break with the formats around it, outermost first. Tags, attributes
and cards are written out here and not taken from the importer.

**Outside lists** (`Block.contents`). A paragraph or a heading is a block of text, unless it has no
text, and the images in it follow it. Code blocks and rules are cards at their own place, and a
container that a document does not hold is only what is in it.

**Lists** (`Block.pieces`). A list, with all lists inside it, is one list of texts. The text of an
item begins and ends with the item and is interrupted by a nested list, and its paragraphs are
separated by a space. So the texts of a list are a flat sequence of runs, paragraph starts and
boundaries, cut at the boundaries (`passages`). What has no place in a list, at whatever depth it
stands, follows the outermost list (`Block.held`).

**Images** (`Inline.Described`). The content of an image describes it and is no part of the
document, as long as it is nothing but formatted text.
-/

namespace RichText.Markdown

/-! ## Inlines -/

/-- The markup that a style applies. -/
def Style.markup : Style → Markup
  | .strong => ⟨"strong", .empty⟩
  | .emphasis => ⟨"em", .empty⟩
  | .strikethrough => ⟨"s", .empty⟩
  | .link url => ⟨"a", ⟨[("href", url)], List.pairwise_singleton _ _⟩⟩

mutual

/-- The text of an inline inside the formats `around` it. -/
def Inline.runs (around : List Markup) : Inline → List Run
  | .text s => [⟨s, around⟩]
  | .code s => [⟨s, around ++ [⟨"code", .empty⟩]⟩]
  | .softBreak => [⟨" ", around⟩]
  | .hardBreak => [⟨"\n", around⟩]
  | .ignored => []
  | .styled style content => Inline.runsList (around ++ [style.markup]) content
  | .image _ _ => []

def Inline.runsList (around : List Markup) : List Inline → List Run
  | [] => []
  | i :: rest => i.runs around ++ Inline.runsList around rest

end

mutual

/-- The images in an inline, which are sections of the document. -/
def Inline.images : Inline → List Section
  | .styled _ content => Inline.imagesList content
  | .image url _ => [.image ⟨url⟩]
  | _ => []

def Inline.imagesList : List Inline → List Section
  | [] => []
  | i :: rest => i.images ++ Inline.imagesList rest

end

mutual

/-- Nothing but formatted text. -/
def Inline.IsText : Inline → Prop
  | .text _ | .ignored => True
  | .styled _ content => Inline.IsTextList content
  | .code _ | .softBreak | .hardBreak | .image _ _ => False

def Inline.IsTextList : List Inline → Prop
  | [] => True
  | i :: rest => i.IsText ∧ Inline.IsTextList rest

end

mutual

/-- Every image is described by formatted text. -/
def Inline.Described : Inline → Prop
  | .styled _ content => Inline.DescribedList content
  | .image _ content => Inline.IsTextList content
  | _ => True

def Inline.DescribedList : List Inline → Prop
  | [] => True
  | i :: rest => i.Described ∧ Inline.DescribedList rest

end

mutual

/-- Every image in a block is described by formatted text. -/
def Block.Described : Block → Prop
  | .paragraph content | .heading _ content => Inline.DescribedList content
  | .list _ items => ItemPart.DescribedItems items
  | .other children => Block.DescribedList children
  | .code _ _ | .rule | .ignored => True

def Block.DescribedList : List Block → Prop
  | [] => True
  | b :: rest => b.Described ∧ Block.DescribedList rest

def ItemPart.Described : ItemPart → Prop
  | .inline i => i.Described
  | .block b => b.Described

def ItemPart.DescribedList : List ItemPart → Prop
  | [] => True
  | p :: rest => p.Described ∧ ItemPart.DescribedList rest

def ItemPart.DescribedItems : List (List ItemPart) → Prop
  | [] => True
  | item :: rest => ItemPart.DescribedList item ∧ ItemPart.DescribedItems rest

end

/-! ## Lists -/

/-- A piece of the text of a list: a run, the start of a paragraph, or a place where the text of an
item begins or ends. -/
inductive ListPiece where
  | run (r : Run)
  | paragraph
  | boundary
deriving DecidableEq

/-- The text of a piece. A paragraph is separated from what is before it by a space. -/
def ListPiece.runs : ListPiece → List Run
  | .run r => [r]
  | .paragraph => [⟨" ", []⟩]
  | .boundary => []

/-- The text between two boundaries; nothing separates a paragraph from a boundary. -/
def passage (ps : List ListPiece) : List Run := (ps.dropWhile (· = .paragraph)).flatMap (·.runs)

/-- The texts between boundaries, where there are any. -/
def passages (ps : List ListPiece) : List (List Run) :=
  ((ps.splitOn .boundary).map passage).filter (· ≠ [])

mutual

/-- The text of a block in a list. -/
def Block.pieces : Block → List ListPiece
  | .paragraph content => .paragraph :: (Inline.runsList [] content).map .run
  | .heading _ content => (Inline.runsList [] content).map .run
  | .list _ items => .boundary :: ItemPart.piecesItems items
  | .other children => Block.piecesList children
  | .code _ _ | .rule | .ignored => []

def Block.piecesList : List Block → List ListPiece
  | [] => []
  | b :: rest => b.pieces ++ Block.piecesList rest

def ItemPart.pieces : ItemPart → List ListPiece
  | .inline i => (i.runs []).map .run
  | .block b => b.pieces

def ItemPart.piecesList : List ItemPart → List ListPiece
  | [] => []
  | p :: rest => p.pieces ++ ItemPart.piecesList rest

def ItemPart.piecesItems : List (List ItemPart) → List ListPiece
  | [] => []
  | item :: rest =>
    .boundary :: ItemPart.piecesList item ++ .boundary :: ItemPart.piecesItems rest

end

/-- The card of a code block: all its text, and its language, which the information string names. -/
def codeBlockCard (info : Option String) (texts : List String) : Card :=
  ⟨"code", .obj [("code", .str (String.join texts)), ("language", .str (info.getD ""))]⟩

mutual

/-- What a block in a list has besides text. -/
def Block.held : Block → List Section
  | .paragraph content | .heading _ content => Inline.imagesList content
  | .list _ items => ItemPart.heldItems items
  | .code info texts => [.card (codeBlockCard info texts)]
  | .rule => [.card ⟨"hr", .obj []⟩]
  | .other children => Block.heldList children
  | .ignored => []

def Block.heldList : List Block → List Section
  | [] => []
  | b :: rest => b.held ++ Block.heldList rest

def ItemPart.held : ItemPart → List Section
  | .inline i => i.images
  | .block b => b.held

def ItemPart.heldList : List ItemPart → List Section
  | [] => []
  | p :: rest => p.held ++ ItemPart.heldList rest

def ItemPart.heldItems : List (List ItemPart) → List Section
  | [] => []
  | item :: rest => ItemPart.heldList item ++ ItemPart.heldItems rest

end

/-! ## Documents -/

/-- What a section of a document says, with its markers decoded. -/
inductive Content where
  | text (tagName : String) (chars : List StyledChar)
  | list (tagName : String) (items : List (List StyledChar))
  | image (src : String)
  | card (c : Card)
deriving DecidableEq

end RichText.Markdown

namespace RichText

/-- What a section says. -/
def Section.content : Section → Markdown.Content
  | .markup s => .text s.tagName (decode s.markers)
  | .list s => .list s.tagName (s.items.map (decode ·.markers))
  | .image s => .image s.src
  | .card c => .card c

namespace Markdown

/-- The tag of a heading. -/
def headingTag : HeadingLevel → String
  | .h1 => "h1"
  | .h2 => "h2"
  | .h3 => "h3"
  | .h4 => "h4"
  | .h5 => "h5"
  | .h6 => "h6"

/-- The tag of a list, which is ordered if it has the number of its first item. -/
def listTag (start : Option Nat) : String := if start.isSome then "ol" else "ul"

/-- A block of text, unless it is empty, and what follows it. -/
def textContents (tagName : String) (chars : List StyledChar) (blocks : List Section) :
    List Content :=
  (if chars = [] then [] else [.text tagName chars]) ++ blocks.map Section.content

mutual

/-- What a block outside lists says. -/
def Block.contents : Block → List Content
  | .paragraph content =>
    textContents "p" (decodeRuns (Inline.runsList [] content)) (Inline.imagesList content)
  | .heading level content =>
    textContents (headingTag level) (decodeRuns (Inline.runsList [] content))
      (Inline.imagesList content)
  | .list start items =>
    .list (listTag start) ((passages (ItemPart.piecesItems items)).map decodeRuns)
      :: (ItemPart.heldItems items).map Section.content
  | .code info texts => [.card (codeBlockCard info texts)]
  | .rule => [.card ⟨"hr", .obj []⟩]
  | .other children => Block.contentsList children
  | .ignored => []

def Block.contentsList : List Block → List Content
  | [] => []
  | b :: rest => b.contents ++ Block.contentsList rest

end

end RichText.Markdown
