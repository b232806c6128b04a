import RichText.Document.Basic
import RichText.Document.Tags
import RichText.Text.Case

/-!
# Admissible documents

A document is admissible if every tag and every attribute name in it is on the lists of
`Document.Tags`, each tag on the list for the place where it stands.
-/

namespace RichText

/-- The tag is known and the attribute names are plain. -/
def Markup.Admissible (m : Markup) : Prop :=
  isMarkupTag m.tagName = true ∧ ∀ e ∈ m.attributes.entries, isAttributeName e.1 = true

/-- All markups that the markers open are admissible. -/
def AdmissibleMarkers (ms : List Marker) : Prop :=
  ∀ m ∈ ms, ∀ u ∈ m.openedMarkups, u.Admissible

/-- The tag suits the kind of section, and all markups inside are admissible. -/
def Section.Admissible : Section → Prop
  | .markup s => isMarkupSectionTag s.tagName = true ∧ AdmissibleMarkers s.markers
  | .list s => isListSectionTag s.tagName = true ∧ ∀ i ∈ s.items, AdmissibleMarkers i.markers
  | .image _ => True
  | .card _ => True

/-- All sections are admissible. -/
def Post.Admissible (p : Post) : Prop := ∀ s ∈ p.sections, s.Admissible

/-! ## Lower case -/

/-- The markup with its tag in lower case. -/
def Markup.lowercased (m : Markup) : Markup := { m with tagName := lowercase m.tagName }

/-- The marker with the tags of its markups in lower case. -/
def Marker.lowercased (m : Marker) : Marker :=
  { m with openedMarkups := m.openedMarkups.map Markup.lowercased }

/-- The item with all tags in lower case. -/
def ListItem.lowercased (i : ListItem) : ListItem := ⟨i.markers.map Marker.lowercased⟩

/-- The section with all tags in lower case. -/
def Section.lowercased : Section → Section
  | .markup s => .markup ⟨lowercase s.tagName, s.markers.map Marker.lowercased⟩
  | .list s => .list ⟨lowercase s.tagName, s.items.map ListItem.lowercased⟩
  | s => s

/-- The post with all tags in lower case. -/
def Post.lowercased (p : Post) : Post := ⟨p.sections.map Section.lowercased⟩

end RichText
