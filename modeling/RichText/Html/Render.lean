import RichText.Html.Writer
import RichText.Visitor

/-!
# Documents as HTML

A section becomes an element with its markers inside, a list item an `li`, a card an empty `div`
that carries its name. A marker opens its markups, writes its text, and closes as many as it says.

**Main definition.** `Html.render` visits a node and runs the opcodes on an empty writer.
-/

namespace RichText.Html

/-- The steps of an element with children inside. -/
def element (tag : String) (children : List α) : List (Step α) :=
  [.emit (.unary "openElement" (.str tag)), .descend children,
    .emit (.unary "closeElement" (.str tag))]

/-- The steps of a marker. -/
def markerSteps (m : Marker) : List (Step Markup) :=
  [.descend m.openedMarkups, .emit (.unary "text" (.str m.value))] ++
    if 0 < m.closedCount then [.emit (.unary "closeMarkups" (.nat m.closedCount))] else []

/-- What each node emits to be written as HTML. -/
def visitor : Visitor where
  post := some fun p => [.descend p.sections]
  markupSection := some fun s => element s.tagName s.markers
  listSection := some fun s => element s.tagName s.items
  listItem := some fun i => element "li" i.markers
  imageSection := some fun s => [.unary "image" (.str s.src)]
  card := some fun c => [.binary "card" (.str c.name) c.payload]
  marker := some markerSteps
  markup := some fun m => [.binary "openMarkup" (.str m.tagName) (.strings m.sortedAttributes)]

/-- The HTML of a node. -/
def render (n : Node) : Except Error String := do
  let ops ← visitor.opcodes n
  let w ← (Writer.handlers.run ops {}).toExcept
  return w.html

end RichText.Html
