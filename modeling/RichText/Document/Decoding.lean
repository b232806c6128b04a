import RichText.Document.Runs

/-!
# What markers and runs say

Markers are read with a stack of open markups: each marker pushes what it opens, its text stands
under the whole stack, and then it pops as many as it closes. Both markers and runs therefore denote
a list of characters, each with the markups that apply to it, outermost first.

**Balance.** Markers are balanced if none closes more markups than are open and none is left open at
the end.
-/

namespace RichText

/-- A character with the markups that apply to it, outermost first. -/
abbrev StyledChar := Char × List Markup

/-- The characters of a text under the same markups. -/
def styled (markups : List Markup) (s : String) : List StyledChar := s.toList.map (·, markups)

/-! ## Markers -/

namespace Marker

/-- The markups that apply to the text of a marker, where `before` are open before it. -/
def inside (m : Marker) (before : List Markup) : List Markup := before ++ m.openedMarkups

/-- The markups that are open after a marker. -/
def after (m : Marker) (before : List Markup) : List Markup :=
  (m.inside before).take ((m.inside before).length - m.closedCount)

end Marker

/-- The characters that markers say, where `before` are open before the first of them. -/
def decodeFrom (before : List Markup) : List Marker → List StyledChar
  | [] => []
  | m :: rest => styled (m.inside before) m.value ++ decodeFrom (m.after before) rest

/-- The characters that markers say. -/
def decode (ms : List Marker) : List StyledChar := decodeFrom [] ms

/-- Markers that start with `depth` markups open never close more than are open, and leave none
open. -/
def BalancedFrom : Nat → List Marker → Prop
  | depth, [] => depth = 0
  | depth, m :: rest =>
    m.closedCount ≤ depth + m.openedMarkups.length ∧
      BalancedFrom (depth + m.openedMarkups.length - m.closedCount) rest

instance decidableBalancedFrom : (depth : Nat) → (ms : List Marker) →
    Decidable (BalancedFrom depth ms)
  | depth, [] => inferInstanceAs (Decidable (depth = 0))
  | depth, m :: rest =>
    have := decidableBalancedFrom (depth + m.openedMarkups.length - m.closedCount) rest
    inferInstanceAs (Decidable (_ ∧ _))

/-- Markers close exactly what they open, each markup after it was opened. -/
def Balanced (ms : List Marker) : Prop := BalancedFrom 0 ms

instance (ms : List Marker) : Decidable (Balanced ms) := decidableBalancedFrom 0 ms

/-- How many markups markers open in all. -/
def openingCount (ms : List Marker) : Nat := (ms.flatMap (·.openedMarkups)).length

/-! ## Runs -/

/-- The characters that runs say. -/
def decodeRuns (runs : List Run) : List StyledChar :=
  runs.flatMap fun r => styled r.markups r.text

/-! ## Small laws -/

theorem Marker.length_after (m : Marker) (before : List Markup) :
    (m.after before).length = before.length + m.openedMarkups.length - m.closedCount := by
  rw [after, List.length_take, inside, List.length_append]
  omega

@[simp] theorem styled_empty (markups : List Markup) : styled markups "" = [] := by simp [styled]

@[simp] theorem styled_append (markups : List Markup) (s t : String) :
    styled markups (s ++ t) = styled markups s ++ styled markups t := by
  simp [styled, String.toList_append]

theorem styled_eq_nil {markups : List Markup} {s : String} : styled markups s = [] ↔ s = "" := by
  simp [styled]

@[simp] theorem decodeRuns_append (r s : List Run) :
    decodeRuns (r ++ s) = decodeRuns r ++ decodeRuns s := by
  simp [decodeRuns]

end RichText
