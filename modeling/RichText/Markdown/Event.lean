/-!
# Markdown events

A Markdown text is read as a stream of events: blocks and formats start and end, and texts, code
spans and breaks stand between. Events carry only what a document can hold.
-/

namespace RichText.Markdown

/-- The level of a heading. -/
inductive HeadingLevel where
  | h1
  | h2
  | h3
  | h4
  | h5
  | h6
deriving DecidableEq, Inhabited

/-- The tag of a heading. -/
def HeadingLevel.tag : HeadingLevel → String
  | h1 => "h1"
  | h2 => "h2"
  | h3 => "h3"
  | h4 => "h4"
  | h5 => "h5"
  | h6 => "h6"

/-- The level of a number from one to six. -/
def HeadingLevel.ofNat? : Nat → Option HeadingLevel
  | 1 => some h1
  | 2 => some h2
  | 3 => some h3
  | 4 => some h4
  | 5 => some h5
  | 6 => some h6
  | _ => none

/-- What a start event starts. -/
inductive StartTag where
  | paragraph
  | heading (level : HeadingLevel)
  /-- A list; an ordered one has the number of its first item. -/
  | list (start : Option Nat)
  | item
  | strong
  | emphasis
  | strikethrough
  | link (url : String)
  | image (url : String)
  /-- A code block; a fenced one has an information string. -/
  | codeBlock (info : Option String)
  /-- A container that a document does not hold, such as a block quote. -/
  | other
deriving DecidableEq

/-- What an end event ends. -/
inductive EndTag where
  | paragraph
  | heading
  | list
  | item
  | strong
  | emphasis
  | strikethrough
  | link
  | image
  | codeBlock
  | other
deriving DecidableEq

/-- A step in reading a Markdown text. -/
inductive Event where
  | start (tag : StartTag)
  | finish (tag : EndTag)
  | text (s : String)
  | code (s : String)
  | softBreak
  | hardBreak
  | rule
  /-- Anything that a document does not hold, such as raw HTML. -/
  | other
deriving DecidableEq

end RichText.Markdown
