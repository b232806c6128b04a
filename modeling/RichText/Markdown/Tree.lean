import RichText.Markdown.Event

/-!
# Markdown as a tree

A stream of Markdown events that opens and closes everything in order is a tree of blocks written
flat. `Block.events` writes it, and a stream is *well formed* when it is written by some tree.

**Inlines** are texts, code spans and breaks, and styles and images around other inlines.

**Blocks** are paragraphs, headings, lists, code, rules, and containers that a document does not
hold. An item of a list mixes inlines and blocks in any order: in a list without blank lines the
text of an item stands in it without a paragraph of its own.
-/

namespace RichText.Markdown

/-! ## Inlines -/

/-- A format around inline content. -/
inductive Style where
  | strong
  | emphasis
  | strikethrough
  | link (url : String)
deriving DecidableEq

/-- What the start event of a style starts. -/
def Style.startTag : Style → StartTag
  | .strong => .strong
  | .emphasis => .emphasis
  | .strikethrough => .strikethrough
  | .link url => .link url

/-- What the end event of a style ends. -/
def Style.endTag : Style → EndTag
  | .strong => .strong
  | .emphasis => .emphasis
  | .strikethrough => .strikethrough
  | .link _ => .link

/-- A part of the text of a block. -/
inductive Inline where
  | text (s : String)
  | code (s : String)
  | softBreak
  | hardBreak
  /-- Something that a document does not hold, such as an HTML tag. -/
  | ignored
  | styled (style : Style) (content : List Inline)
  /-- An image; its content describes it. -/
  | image (url : String) (content : List Inline)

mutual

/-- The events of an inline. -/
def Inline.events : Inline → List Event
  | .text s => [.text s]
  | .code s => [.code s]
  | .softBreak => [.softBreak]
  | .hardBreak => [.hardBreak]
  | .ignored => [.other]
  | .styled style content =>
    .start style.startTag :: Inline.eventsList content ++ [.finish style.endTag]
  | .image url content => .start (.image url) :: Inline.eventsList content ++ [.finish .image]

/-- The events of inlines, one after another. -/
def Inline.eventsList : List Inline → List Event
  | [] => []
  | i :: rest => i.events ++ Inline.eventsList rest

end

/-! ## Blocks -/

mutual

/-- A block. -/
inductive Block where
  | paragraph (content : List Inline)
  | heading (level : HeadingLevel) (content : List Inline)
  /-- A list; an ordered one has the number of its first item. -/
  | list (start : Option Nat) (items : List (List ItemPart))
  /-- A code block and its text in pieces; a fenced one has an information string. -/
  | code (info : Option String) (texts : List String)
  | rule
  /-- A container that a document does not hold, such as a block quote. -/
  | other (children : List Block)
  /-- Something between blocks that a document does not hold, such as a line of HTML. -/
  | ignored

/-- A part of an item of a list. -/
inductive ItemPart where
  | inline (i : Inline)
  | block (b : Block)

end

mutual

/-- The events of a block. -/
def Block.events : Block → List Event
  | .paragraph content => .start .paragraph :: Inline.eventsList content ++ [.finish .paragraph]
  | .heading level content =>
    .start (.heading level) :: Inline.eventsList content ++ [.finish .heading]
  | .list start items => .start (.list start) :: ItemPart.eventsItems items ++ [.finish .list]
  | .code info texts => .start (.codeBlock info) :: texts.map .text ++ [.finish .codeBlock]
  | .rule => [.rule]
  | .other children => .start .other :: Block.eventsList children ++ [.finish .other]
  | .ignored => [.other]

/-- The events of blocks, one after another. -/
def Block.eventsList : List Block → List Event
  | [] => []
  | b :: rest => b.events ++ Block.eventsList rest

/-- The events of a part of an item. -/
def ItemPart.events : ItemPart → List Event
  | .inline i => i.events
  | .block b => b.events

/-- The events of the parts of an item, one after another. -/
def ItemPart.eventsList : List ItemPart → List Event
  | [] => []
  | p :: rest => p.events ++ ItemPart.eventsList rest

/-- The events of items, one after another. -/
def ItemPart.eventsItems : List (List ItemPart) → List Event
  | [] => []
  | item :: rest =>
    .start .item :: ItemPart.eventsList item ++ [.finish .item] ++ ItemPart.eventsItems rest

end

end RichText.Markdown
