import RichText.Markdown.OpenBlocks

/-!
# Reading Markdown

A text is read in two passes. The first finds its blocks line by line and collects the links it
defines, the second reads the text in the blocks. The result is a tree of blocks; its events are
what a document is built from.
-/

namespace RichText.Markdown

/-- The blocks of a text before the text in them is read, and the links that they define. -/
def outline (s : List Char) : OpenBlocks :=
  ((splitLines [] s).foldl (fun (s : OpenBlocks) (line, ending) => s.addLine line ending) {}).finish

/-- The blocks of a text. -/
def blocks (s : String) : List Block :=
  let o := outline s.toList
  Outline.toBlocks o.definitions (o.siblings.reverse.map (·.block))

/-- The events of a text. -/
def parse (s : String) : List Event := Block.eventsList (blocks s)

end RichText.Markdown
