import RichText.Mobiledoc.Builder
import RichText.Visitor

/-!
# Documents as Mobiledoc

A node emits an opcode that opens it, and then its children. A marker says how many markups it
closes when it is opened, and the markups that it opens follow it.

**Main definition.** `Mobiledoc.ofNode` visits a node and runs the opcodes on an empty builder.
-/

namespace RichText.Mobiledoc

/-- The steps of a node with children after it. -/
def opening (o : Opcode) (children : List α) : List (Step α) := [.emit o, .descend children]

/-- What each node emits to be built into a Mobiledoc. -/
def visitor : Visitor where
  post := some fun p => opening (.nullary "openPost") p.sections
  markupSection := some fun s => opening (.unary "openMarkupSection" (.str s.tagName)) s.markers
  listSection := some fun s => opening (.unary "openListSection" (.str s.tagName)) s.items
  listItem := some fun i => opening (.nullary "openListItem") i.markers
  imageSection := some fun s => [.unary "openImageSection" (.str s.src)]
  card := some fun c => [.binary "openCardSection" (.str c.name) c.payload]
  marker := some fun m =>
    opening (.binary "openMarker" (.nat m.closedCount) (.str m.value)) m.openedMarkups
  markup := some fun m => [.binary "openMarkup" (.str m.tagName) (.strings m.sortedAttributes)]

/-- The Mobiledoc of a node. -/
def ofNode (n : Node) : Except Error Mobiledoc := do
  let ops ← visitor.opcodes n
  let b ← (Builder.handlers.run ops {}).toExcept
  return b.doc

/-- The Mobiledoc of a post. -/
def ofPost (p : Post) : Except Error Mobiledoc := ofNode (.post p)

end RichText.Mobiledoc
