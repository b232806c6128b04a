import RichText.Document.Basic

/-!
# Markers from runs

A run is a text with the full list of markups that apply to it, outermost first. Markers say the
same by what each of them opens and closes.

**From runs to markers.** Empty runs are dropped and neighbours with equal markups merged. A marker
then opens the markups beyond the prefix that its run shares with the run before it, and closes
those beyond the prefix that it shares with the run after it.
-/

namespace RichText

/-- A text with all markups that apply to it, outermost first. -/
structure Run where
  text : String
  markups : List Markup := []
deriving DecidableEq, Inhabited

/-- The length of the longest common prefix. -/
def commonPrefix [DecidableEq α] : List α → List α → Nat
  | a :: as, b :: bs => if a = b then commonPrefix as bs + 1 else 0
  | _, _ => 0

/-- Puts a run that is not empty in front of merged runs. -/
def Run.merge (r : Run) : List Run → List Run
  | s :: rest =>
    if r.markups = s.markups then ⟨r.text ++ s.text, r.markups⟩ :: rest else r :: s :: rest
  | [] => [r]

/-- The runs without the empty ones, neighbours with equal markups merged. -/
def mergeRuns : List Run → List Run
  | [] => []
  | r :: rest => if r.text = "" then mergeRuns rest else r.merge (mergeRuns rest)

/-- The markups of the first run. -/
def firstMarkups : List Run → List Markup
  | r :: _ => r.markups
  | [] => []

/-- One marker for each run, where `before` holds the markups of the run before the first. -/
def markersAfter (before : List Markup) : List Run → List Marker
  | [] => []
  | r :: rest =>
    { value := r.text
      openedMarkups := r.markups.drop (commonPrefix r.markups before)
      closedCount := r.markups.length - commonPrefix r.markups (firstMarkups rest) }
    :: markersAfter r.markups rest

/-- The markers that say what the runs say. -/
def markersFromRuns (runs : List Run) : List Marker := markersAfter [] (mergeRuns runs)

/-- The block of marked-up text made of the runs. -/
def MarkupSection.ofRuns (tagName : String) (runs : List Run) : MarkupSection :=
  ⟨tagName, markersFromRuns runs⟩

/-- The list item made of the runs. -/
def ListItem.ofRuns (runs : List Run) : ListItem := ⟨markersFromRuns runs⟩

end RichText
