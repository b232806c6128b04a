import RichText.Proofs.Document.CanonicalMarkers

/-!
# Markers of runs open as little as possible

Markers may say the same in many ways, too: they may close a markup and open it again, or hold no
text at all. The markers made of runs do so least of all.

**Openings (`openings`).** To come from one stack of markups to another, all markups beyond their
common prefix must be opened. A detour never saves any (`openings_triangle`).

**The bound.** The markers of some runs open what it takes to come from each run to the next. Read
the markers of a competitor as runs (`runsOfMarkers`). It opens at least what these runs need
(`openingCount_runsFrom_le`), and leaving out empty runs and merging neighbours only saves openings
(`openingCount_mergeRuns_le`). What is left are the runs to begin with, since both say the same.

**Theorem (`markersFromRuns_fewest`).** No markers that say what the runs say open fewer markups in
all, or are fewer.
-/

namespace RichText

/-! ## Common prefixes of three lists -/

section CommonPrefix

variable {α : Type} [DecidableEq α]

/-- What two lists share with a third one, they share with each other. -/
theorem min_commonPrefix_le (as bs cs : List α) :
    min (commonPrefix as bs) (commonPrefix bs cs) ≤ commonPrefix as cs := by
  induction bs generalizing as cs with
  | nil => simp [commonPrefix_nil_right]
  | cons b bs ih =>
    cases as with
    | nil => simp [commonPrefix]
    | cons a as =>
      cases cs with
      | nil => simp [commonPrefix]
      | cons c cs =>
        by_cases hab : a = b
        · by_cases hbc : b = c
          · have hrest := ih as cs
            simp only [commonPrefix, hab, hbc, if_true]
            omega
          · simp [commonPrefix, hbc]
        · simp [commonPrefix, hab]

/-- A common beginning is part of the common prefix. -/
theorem length_le_commonPrefix_append (as bs cs : List α) :
    as.length ≤ commonPrefix (as ++ bs) (as ++ cs) := by
  induction as with
  | nil => exact Nat.zero_le _
  | cons a as ih => simpa [commonPrefix] using ih

theorem commonPrefix_self (as : List α) : commonPrefix as as = as.length := by
  have hle := commonPrefix_le_length as as
  have hge := length_le_commonPrefix_append as [] []
  rw [List.append_nil] at hge
  omega

end CommonPrefix

/-! ## Openings -/

/-- How many markups must be opened to come from the stack `before` to the stack `markups`. -/
def openings (before markups : List Markup) : Nat :=
  markups.length - commonPrefix markups before

theorem openings_self (markups : List Markup) : openings markups markups = 0 := by
  rw [openings, commonPrefix_self, Nat.sub_self]

/-- A stack in between saves nothing. -/
theorem openings_triangle (before between markups : List Markup) :
    openings before markups ≤ openings before between + openings between markups := by
  have hshared := min_commonPrefix_le markups between before
  have hmarkups := commonPrefix_le_length markups between
  have hbetween := commonPrefix_le_length between markups
  have hbefore := commonPrefix_le_length between before
  rw [commonPrefix_comm between markups] at hbetween
  simp only [openings]
  omega

/-- Nothing but `markups` must be opened after `before`, also if more than `before` is open. -/
theorem openings_append_le {before stack : List Markup} (h : before <+: stack)
    (markups : List Markup) : openings stack (before ++ markups) ≤ markups.length := by
  obtain ⟨more, rfl⟩ := h
  have hshared := length_le_commonPrefix_append before markups more
  rw [openings, List.length_append]
  omega

/-! ## Openings of the markers of runs -/

theorem openingCount_cons (m : Marker) (ms : List Marker) :
    openingCount (m :: ms) = m.openedMarkups.length + openingCount ms := by
  simp [openingCount]

/-- Markers of runs open what it takes to come from each run to the next. -/
theorem openingCount_markersAfter_cons (before : List Markup) (r : Run) (rs : List Run) :
    openingCount (markersAfter before (r :: rs)) =
      openings before r.markups + openingCount (markersAfter r.markups rs) := by
  rw [markersAfter, openingCount_cons, List.length_drop, openings]

/-- It saves nothing to come to the runs by another stack. -/
theorem openingCount_markersAfter_le (before between : List Markup) (rs : List Run) :
    openingCount (markersAfter before rs) ≤
      openings before between + openingCount (markersAfter between rs) := by
  cases rs with
  | nil => exact Nat.zero_le _
  | cons r rs =>
    have hdetour := openings_triangle before between r.markups
    rw [openingCount_markersAfter_cons, openingCount_markersAfter_cons]
    omega

theorem openingCount_merge_le (before : List Markup) (r : Run) (rs : List Run) :
    openingCount (markersAfter before (r.merge rs)) ≤
      openingCount (markersAfter before (r :: rs)) := by
  cases rs with
  | nil => exact Nat.le_refl _
  | cons s rs =>
    by_cases h : r.markups = s.markups
    · have hmerged : r.merge (s :: rs) = ⟨r.text ++ s.text, r.markups⟩ :: rs := if_pos h
      rw [hmerged]
      simp only [openingCount_markersAfter_cons, h, openings_self]
      omega
    · have hkept : r.merge (s :: rs) = r :: s :: rs := if_neg h
      exact Nat.le_of_eq (by rw [hkept])

/-- **Merging saves openings.** It leaves out empty runs, and it opens nothing between neighbours
that it merges. -/
theorem openingCount_mergeRuns_le (before : List Markup) (rs : List Run) :
    openingCount (markersAfter before (mergeRuns rs)) ≤ openingCount (markersAfter before rs) := by
  induction rs generalizing before with
  | nil => exact Nat.le_refl _
  | cons r rs ih =>
    rw [mergeRuns, openingCount_markersAfter_cons]
    split
    · calc openingCount (markersAfter before (mergeRuns rs))
          ≤ openings before r.markups + openingCount (markersAfter r.markups (mergeRuns rs)) :=
            openingCount_markersAfter_le before r.markups (mergeRuns rs)
        _ ≤ openings before r.markups + openingCount (markersAfter r.markups rs) :=
            Nat.add_le_add_left (ih r.markups) _
    · calc openingCount (markersAfter before (r.merge (mergeRuns rs)))
          ≤ openingCount (markersAfter before (r :: mergeRuns rs)) :=
            openingCount_merge_le before r (mergeRuns rs)
        _ = openings before r.markups + openingCount (markersAfter r.markups (mergeRuns rs)) :=
            openingCount_markersAfter_cons before r (mergeRuns rs)
        _ ≤ openings before r.markups + openingCount (markersAfter r.markups rs) :=
            Nat.add_le_add_left (ih r.markups) _

/-- **Markers open at least what their runs need.** Between two texts the stack falls to what is
open before the second marker, and only what that marker opens is above. -/
theorem openingCount_runsFrom_le {before stack : List Markup} (h : before <+: stack)
    (ms : List Marker) :
    openingCount (markersAfter stack (runsFrom before ms)) ≤ openingCount ms := by
  induction ms generalizing before stack with
  | nil => exact Nat.le_refl _
  | cons m ms ih =>
    have hopened : openings stack (m.inside before) ≤ m.openedMarkups.length :=
      openings_append_le h m.openedMarkups
    have hrest := ih (List.take_prefix _ (m.inside before) : m.after before <+: m.inside before)
    rw [runsFrom, openingCount_markersAfter_cons, openingCount_cons]
    exact Nat.add_le_add hopened hrest

/-! ## Number of markers -/

theorem length_markersAfter (before : List Markup) (rs : List Run) :
    (markersAfter before rs).length = rs.length := by
  induction rs generalizing before with
  | nil => rfl
  | cons r rs ih => rw [markersAfter, List.length_cons, List.length_cons, ih]

theorem length_runsFrom (before : List Markup) (ms : List Marker) :
    (runsFrom before ms).length = ms.length := by
  induction ms generalizing before with
  | nil => rfl
  | cons m ms ih => rw [runsFrom, List.length_cons, List.length_cons, ih]

theorem length_merge_le (r : Run) (rs : List Run) : (r.merge rs).length ≤ rs.length + 1 := by
  cases rs with
  | nil => exact Nat.le_refl _
  | cons s rs => by_cases h : r.markups = s.markups <;> simp [Run.merge, h]

theorem length_mergeRuns_le (rs : List Run) : (mergeRuns rs).length ≤ rs.length := by
  induction rs with
  | nil => exact Nat.le_refl _
  | cons r rs ih =>
    have hmerge := length_merge_le r (mergeRuns rs)
    rw [mergeRuns, List.length_cons]
    split <;> omega

/-! ## The bound -/

/-- **Markers of runs are the fewest and open the fewest markups.** Any markers that say the same
characters under the same markups, whether they are balanced or not, open at least as many markups
in all, and there are at least as many of them. -/
theorem markersFromRuns_fewest (rs : List Run) (ms : List Marker) (h : decode ms = decodeRuns rs) :
    openingCount (markersFromRuns rs) ≤ openingCount ms ∧
      (markersFromRuns rs).length ≤ ms.length := by
  have hsame : mergeRuns rs = mergeRuns (runsOfMarkers ms) :=
    mergeRuns_eq_of_decodeRuns_eq ((decodeRuns_runsOfMarkers ms).trans h).symm
  rw [markersFromRuns, hsame]
  constructor
  · calc openingCount (markersAfter [] (mergeRuns (runsOfMarkers ms)))
        ≤ openingCount (markersAfter [] (runsOfMarkers ms)) :=
          openingCount_mergeRuns_le [] (runsOfMarkers ms)
      _ ≤ openingCount ms := openingCount_runsFrom_le List.prefix_rfl ms
  · calc (markersAfter [] (mergeRuns (runsOfMarkers ms))).length
        = (mergeRuns (runsOfMarkers ms)).length := length_markersAfter [] _
      _ ≤ (runsOfMarkers ms).length := length_mergeRuns_le _
      _ = ms.length := length_runsFrom [] ms

/-- Emphasis inside strong text. -/
def nestedRuns : List Run :=
  [⟨"x", [⟨"strong", .empty⟩]⟩, ⟨"y", [⟨"strong", .empty⟩, ⟨"em", .empty⟩]⟩,
    ⟨"z", [⟨"strong", .empty⟩]⟩]

/-- Markers that say the same, but close the strong markup each time, and open it once around
nothing. -/
def restlessMarkers : List Marker :=
  [⟨"x", [⟨"strong", .empty⟩], 1⟩, ⟨"", [⟨"strong", .empty⟩], 1⟩,
    ⟨"y", [⟨"strong", .empty⟩, ⟨"em", .empty⟩], 2⟩, ⟨"z", [⟨"strong", .empty⟩], 1⟩]

theorem markersFromRuns_fewest_restless :
    decode restlessMarkers = decodeRuns nestedRuns ∧ Balanced restlessMarkers ∧
      openingCount (markersFromRuns nestedRuns) = 2 ∧ openingCount restlessMarkers = 5 ∧
      openingCount (markersFromRuns nestedRuns) ≤ openingCount restlessMarkers ∧
      (markersFromRuns nestedRuns).length ≤ restlessMarkers.length := by
  have hsame : decode restlessMarkers = decodeRuns nestedRuns := by decide +kernel
  refine ⟨hsame, by decide, by decide +kernel, rfl, ?_⟩
  exact markersFromRuns_fewest nestedRuns restlessMarkers hsame

end RichText
