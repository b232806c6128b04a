import RichText.Proofs.Document.RunNormalisation

/-!
# Markers of runs are canonical

Runs can say the same thing in many ways: a text may be cut anywhere, and runs without text may
stand anywhere, under any markups. The markers made of runs do not depend on any of this.

**Stretches (`stretches`).** Characters fall into stretches, each as long as the markups stay the
same. Merged runs are the stretches of what the runs say (`mergeRuns_eq_stretches`), so merging is a
function of the characters alone, and no two lists of runs need be compared.

**Runs of markers (`runsOfMarkers`).** Each marker is read as a run: its text under all markups
that are open there.

* `markersFromRuns_canonical` — runs have the same markers just if they say the same characters
  under the same markups.
* `mergeForward_eq_mergeRuns` — runs may also be merged as they come, from the first to the last.
-/

namespace RichText

/-! ## Stretches -/

/-- The runs into which characters fall, one for each stretch under the same markups. -/
def stretches : List StyledChar → List Run
  | [] => []
  | (c, markups) :: rest => Run.merge ⟨String.singleton c, markups⟩ (stretches rest)

/-- Texts under the same markups may be merged with each other first. -/
theorem merge_merge (s t : String) (markups : List Markup) (rs : List Run) :
    Run.merge ⟨s, markups⟩ (Run.merge ⟨t, markups⟩ rs) = Run.merge ⟨s ++ t, markups⟩ rs := by
  cases rs with
  | nil => simp [Run.merge]
  | cons r rs =>
    by_cases h : markups = r.markups
    · simp [Run.merge, h, String.append_assoc]
    · simp [Run.merge, h]

/-- A text that is not empty is merged as a whole. -/
theorem stretches_map_append (markups : List Markup) {cs : List Char} (hcs : cs ≠ [])
    (rest : List StyledChar) :
    stretches (cs.map (·, markups) ++ rest) =
      Run.merge ⟨String.ofList cs, markups⟩ (stretches rest) := by
  induction cs with
  | nil => exact absurd rfl hcs
  | cons c cs ih =>
    rw [List.map_cons, List.cons_append, stretches]
    by_cases h : cs = []
    · rw [h, String.singleton_eq_ofList]
      rfl
    · rw [ih h, merge_merge, String.ofList_cons]

theorem stretches_styled_append (markups : List Markup) (s : String) (rest : List StyledChar) :
    stretches (styled markups s ++ rest) =
      if s = "" then stretches rest else Run.merge ⟨s, markups⟩ (stretches rest) := by
  by_cases h : s = ""
  · rw [if_pos h, h, styled_empty, List.nil_append]
  · have hs : s.toList ≠ [] := by simpa using h
    rw [if_neg h, styled, stretches_map_append markups hs, String.ofList_toList]

/-- **Merged runs are the stretches of what the runs say.** -/
theorem mergeRuns_eq_stretches (rs : List Run) : mergeRuns rs = stretches (decodeRuns rs) := by
  induction rs with
  | nil => rfl
  | cons r rs ih => rw [mergeRuns, decodeRuns_cons, stretches_styled_append, ih]

theorem mergeRuns_eq_of_decodeRuns_eq {r s : List Run} (h : decodeRuns r = decodeRuns s) :
    mergeRuns r = mergeRuns s := by
  rw [mergeRuns_eq_stretches, mergeRuns_eq_stretches, h]

theorem markersFromRuns_eq_of_decodeRuns_eq {r s : List Run} (h : decodeRuns r = decodeRuns s) :
    markersFromRuns r = markersFromRuns s := by
  rw [markersFromRuns, markersFromRuns, mergeRuns_eq_of_decodeRuns_eq h]

/-! ## Runs that say the same -/

/-- A text in pieces says what the text says. -/
theorem decodeRuns_pieces (markups : List Markup) (pieces : List String) :
    decodeRuns (pieces.map (Run.mk · markups)) = styled markups (String.join pieces) := by
  induction pieces with
  | nil => simp [decodeRuns]
  | cons s pieces ih =>
    rw [List.map_cons, decodeRuns_cons, ih, String.join_cons, styled_append]

/-- Runs without text say nothing. -/
theorem decodeRuns_blank {rs : List Run} (h : ∀ r ∈ rs, r.text = "") : decodeRuns rs = [] := by
  induction rs with
  | nil => rfl
  | cons r rs ih =>
    obtain ⟨hr, hrs⟩ := List.forall_mem_cons.1 h
    rw [decodeRuns_cons, hr, styled_empty, ih hrs]
    rfl

/-! ## Runs of markers -/

/-- One run for each marker, where the markups `before` are open before the first of them. -/
def runsFrom (before : List Markup) : List Marker → List Run
  | [] => []
  | m :: rest => ⟨m.value, m.inside before⟩ :: runsFrom (m.after before) rest

/-- The runs that markers stand for: each text under all markups that are open there. -/
def runsOfMarkers (ms : List Marker) : List Run := runsFrom [] ms

theorem decodeRuns_runsFrom (before : List Markup) (ms : List Marker) :
    decodeRuns (runsFrom before ms) = decodeFrom before ms := by
  induction ms generalizing before with
  | nil => rfl
  | cons m ms ih => rw [runsFrom, decodeRuns_cons, decodeFrom, ih]

theorem decodeRuns_runsOfMarkers (ms : List Marker) :
    decodeRuns (runsOfMarkers ms) = decode ms := decodeRuns_runsFrom [] ms

/-! ## Merging from first to last -/

/-- Puts a run that is not empty behind merged runs. -/
def Run.mergeBehind (r : Run) : List Run → List Run
  | [] => [r]
  | [s] => if s.markups = r.markups then [⟨s.text ++ r.text, s.markups⟩] else [s, r]
  | s :: t :: rest => s :: r.mergeBehind (t :: rest)

/-- The merged runs after one more run. -/
def mergeNext (done : List Run) (r : Run) : List Run :=
  if r.text = "" then done else r.mergeBehind done

/-- The runs without the empty ones, neighbours with equal markups merged as they come. -/
def mergeForward (rs : List Run) : List Run := rs.foldl mergeNext []

/-- A run may go in front before or after another one goes behind. -/
theorem merge_mergeBehind (r s : Run) (rs : List Run) :
    r.merge (s.mergeBehind rs) = s.mergeBehind (r.merge rs) := by
  cases rs with
  | nil =>
    by_cases h : r.markups = s.markups <;> simp [Run.merge, Run.mergeBehind, h]
  | cons t rs =>
    cases rs with
    | nil =>
      by_cases hts : t.markups = s.markups <;> by_cases hrt : r.markups = t.markups <;>
        simp_all [Run.merge, Run.mergeBehind, String.append_assoc]
    | cons u rs =>
      by_cases hrt : r.markups = t.markups <;> simp [Run.merge, Run.mergeBehind, hrt]

theorem mergeRuns_concat (rs : List Run) (r : Run) :
    mergeRuns (rs ++ [r]) = mergeNext (mergeRuns rs) r := by
  by_cases hr : r.text = ""
  · have hsame : decodeRuns (rs ++ [r]) = decodeRuns rs := by
      rw [decodeRuns_append, decodeRuns_cons, hr, styled_empty]
      simp [decodeRuns]
    rw [mergeNext, if_pos hr, mergeRuns_eq_of_decodeRuns_eq hsame]
  · rw [mergeNext, if_neg hr]
    induction rs with
    | nil => simp [mergeRuns, Run.merge, Run.mergeBehind, hr]
    | cons s rs ih =>
      rw [List.cons_append, mergeRuns, mergeRuns, ih]
      split
      · rfl
      · exact merge_mergeBehind s r (mergeRuns rs)

/-- **Runs may be merged from either end.** -/
theorem mergeForward_eq_mergeRuns (rs : List Run) : mergeForward rs = mergeRuns rs := by
  suffices h : ∀ done, rs.foldl mergeNext (mergeRuns done) = mergeRuns (done ++ rs) from h []
  induction rs with
  | nil =>
    intro done
    rw [List.append_nil, List.foldl_nil]
  | cons r rs ih =>
    intro done
    rw [List.foldl_cons, ← mergeRuns_concat, ih, List.append_assoc, List.singleton_append]

/-! ## The canonical form -/

/-- **Markers of runs are canonical.** Runs have the same markers if and only if they say the same
characters, each under the same markups. So a run may be cut into pieces, runs without text may be
put in anywhere, and the runs that the markers stand for give these markers again. -/
theorem markersFromRuns_canonical :
    (∀ r s : List Run, markersFromRuns r = markersFromRuns s ↔ decodeRuns r = decodeRuns s) ∧
      (∀ (before after : List Run) (markups : List Markup) (pieces : List String),
        markersFromRuns (before ++ pieces.map (Run.mk · markups) ++ after) =
          markersFromRuns (before ++ ⟨String.join pieces, markups⟩ :: after)) ∧
      (∀ before blank after : List Run, (∀ r ∈ blank, r.text = "") →
        markersFromRuns (before ++ blank ++ after) = markersFromRuns (before ++ after)) ∧
      ∀ rs : List Run,
        markersFromRuns (runsOfMarkers (markersFromRuns rs)) = markersFromRuns rs := by
  refine ⟨fun r s => ⟨fun h => ?_, markersFromRuns_eq_of_decodeRuns_eq⟩, ?_, ?_, ?_⟩
  · -- the markers can be read, so they fix what the runs say
    rw [← decode_markersFromRuns r, h, decode_markersFromRuns]
  · intro before after markups pieces
    apply markersFromRuns_eq_of_decodeRuns_eq
    rw [decodeRuns_append, decodeRuns_append, decodeRuns_pieces, decodeRuns_append,
      decodeRuns_cons, List.append_assoc]
  · intro before blank after hblank
    apply markersFromRuns_eq_of_decodeRuns_eq
    rw [decodeRuns_append, decodeRuns_append, decodeRuns_blank hblank, List.append_nil,
      decodeRuns_append]
  · intro rs
    apply markersFromRuns_eq_of_decodeRuns_eq
    rw [decodeRuns_runsOfMarkers, decode_markersFromRuns]

end RichText
