import RichText.Document.Decoding

/-!
# Normalising runs loses nothing

Runs are merged and then turned into markers, each of which opens what its run does not share with
the run before it and closes what its run does not share with the run after it. The two prefixes are
computed apart from each other, one from either side of a boundary.

**Theorem (`markersFromRuns_lossless`).** The markers are balanced, none of them is empty, and they
say the same characters under the same markups as the runs.

The proof is an induction over the merged runs with the invariant that the markups open before a
marker are the prefix that its run shares with the run before it (`shared`). That this prefix is
also what the marker before leaves open is `take_commonPrefix` and `commonPrefix_comm`.

What markers open are just the markups of the runs that have text (`opened_markersFromRuns_iff`).
-/

namespace RichText

/-! ## Common prefixes -/

section CommonPrefix

variable {α : Type} [DecidableEq α]

theorem commonPrefix_nil_right (as : List α) : commonPrefix as [] = 0 := by
  cases as <;> rfl

theorem commonPrefix_comm (as bs : List α) : commonPrefix as bs = commonPrefix bs as := by
  induction as generalizing bs with
  | nil => rw [commonPrefix_nil_right]; rfl
  | cons a as ih =>
    cases bs with
    | nil => rfl
    | cons b bs =>
      simp only [commonPrefix]
      by_cases h : a = b
      · rw [if_pos h, if_pos h.symm, ih]
      · rw [if_neg h, if_neg (Ne.symm h)]

theorem commonPrefix_le_length (as bs : List α) : commonPrefix as bs ≤ as.length := by
  induction as generalizing bs with
  | nil => exact Nat.zero_le _
  | cons a as ih =>
    cases bs with
    | nil => exact Nat.zero_le _
    | cons b bs =>
      simp only [commonPrefix, List.length_cons]
      split
      · exact Nat.succ_le_succ (ih bs)
      · exact Nat.zero_le _

/-- The common prefix is a prefix of both lists. -/
theorem take_commonPrefix (as bs : List α) :
    as.take (commonPrefix as bs) = bs.take (commonPrefix as bs) := by
  induction as generalizing bs with
  | nil => simp [commonPrefix]
  | cons a as ih =>
    cases bs with
    | nil => rfl
    | cons b bs =>
      simp only [commonPrefix]
      by_cases h : a = b
      · rw [if_pos h, List.take_succ_cons, List.take_succ_cons, ih, h]
      · rw [if_neg h, List.take_zero, List.take_zero]

end CommonPrefix

/-! ## Merging -/

theorem decodeRuns_cons (r : Run) (rs : List Run) :
    decodeRuns (r :: rs) = styled r.markups r.text ++ decodeRuns rs := rfl

theorem decodeRuns_merge (r : Run) (rs : List Run) :
    decodeRuns (r.merge rs) = styled r.markups r.text ++ decodeRuns rs := by
  cases rs with
  | nil => rfl
  | cons s rs =>
    simp only [Run.merge]
    split
    · rename_i h
      rw [decodeRuns_cons, decodeRuns_cons, styled_append, List.append_assoc, h]
    · rfl

/-- Merging keeps all characters and their markups. -/
theorem decodeRuns_mergeRuns (rs : List Run) : decodeRuns (mergeRuns rs) = decodeRuns rs := by
  induction rs with
  | nil => rfl
  | cons r rs ih =>
    rw [mergeRuns, decodeRuns_cons]
    split
    · rename_i h
      rw [h, styled_empty, List.nil_append, ih]
    · rw [decodeRuns_merge, ih]

theorem text_ne_empty_of_mem_merge {r : Run} (hr : r.text ≠ "") {rs : List Run}
    (hrs : ∀ s ∈ rs, s.text ≠ "") {s : Run} (hs : s ∈ r.merge rs) : s.text ≠ "" := by
  cases rs with
  | nil =>
    obtain rfl : s = r := List.mem_singleton.1 hs
    exact hr
  | cons t rs =>
    simp only [Run.merge] at hs
    split at hs
    · rcases List.mem_cons.1 hs with rfl | hs
      · intro h
        exact hr (String.append_eq_empty_iff.1 h).1
      · exact hrs s (List.mem_cons_of_mem t hs)
    · rcases List.mem_cons.1 hs with rfl | hs
      · exact hr
      · exact hrs s hs

theorem text_ne_empty_of_mem_mergeRuns {rs : List Run} {r : Run} (hr : r ∈ mergeRuns rs) :
    r.text ≠ "" := by
  induction rs generalizing r with
  | nil => cases hr
  | cons s rs ih =>
    rw [mergeRuns] at hr
    split at hr
    · exact ih hr
    · rename_i hs
      exact text_ne_empty_of_mem_merge hs (fun t ht => ih ht) hr

/-! ## The stack at a boundary -/

/-- The markups that the first of the runs shares with a run before it. -/
def shared (before : List Markup) (rs : List Run) : List Markup :=
  (firstMarkups rs).take (commonPrefix (firstMarkups rs) before)

/-- A marker opens what its run does not share with the run before it. -/
theorem inside_shared (before : List Markup) (r : Run) (rs : List Run) (value : String) (n : Nat) :
    (⟨value, r.markups.drop (commonPrefix r.markups before), n⟩ : Marker).inside
      (shared before (r :: rs)) = r.markups :=
  List.take_append_drop _ _

/-- It closes what its run does not share with the run after it. -/
theorem take_shared (r : Run) (rs : List Run) :
    r.markups.take
        (r.markups.length - (r.markups.length - commonPrefix r.markups (firstMarkups rs))) =
      shared r.markups rs := by
  have hle := commonPrefix_le_length r.markups (firstMarkups rs)
  rw [Nat.sub_sub_self hle, take_commonPrefix, shared, commonPrefix_comm]

theorem decodeFrom_markersAfter (before : List Markup) (rs : List Run) :
    decodeFrom (shared before rs) (markersAfter before rs) = decodeRuns rs := by
  induction rs generalizing before with
  | nil => rfl
  | cons r rs ih =>
    -- a marker leaves open what its run shares with the next, which is where `ih` starts
    rw [markersAfter, decodeFrom, Marker.after, inside_shared, take_shared, ih, decodeRuns_cons]

theorem balancedFrom_markersAfter (before : List Markup) (rs : List Run) :
    BalancedFrom (shared before rs).length (markersAfter before rs) := by
  induction rs generalizing before with
  | nil => rfl
  | cons r rs ih =>
    have hopen : (shared before (r :: rs)).length +
        (r.markups.drop (commonPrefix r.markups before)).length = r.markups.length := by
      rw [← List.length_append]
      exact congrArg List.length (inside_shared before r rs r.text 0)
    have hclose : r.markups.length - (r.markups.length - commonPrefix r.markups (firstMarkups rs)) =
        (shared r.markups rs).length := by
      rw [← take_shared, List.length_take]
      omega
    rw [markersAfter, BalancedFrom, hopen, hclose]
    exact ⟨Nat.sub_le _ _, ih r.markups⟩

theorem value_mem_of_mem_markersAfter {before : List Markup} {rs : List Run} {m : Marker}
    (hm : m ∈ markersAfter before rs) : ∃ r ∈ rs, r.text = m.value := by
  induction rs generalizing before with
  | nil => cases hm
  | cons r rs ih =>
    rcases List.mem_cons.1 hm with rfl | hm
    · exact ⟨r, List.mem_cons_self, rfl⟩
    · obtain ⟨s, hs, hsm⟩ := ih hm
      exact ⟨s, List.mem_cons_of_mem r hs, hsm⟩

/-! ## Markers of runs -/

theorem decode_markersFromRuns (rs : List Run) : decode (markersFromRuns rs) = decodeRuns rs := by
  have h := decodeFrom_markersAfter [] (mergeRuns rs)
  rw [shared, commonPrefix_nil_right, List.take_zero] at h
  rw [decode, markersFromRuns, h, decodeRuns_mergeRuns]

/-- There are no markers just if there is no text. -/
theorem markersFromRuns_eq_nil_iff (rs : List Run) :
    markersFromRuns rs = [] ↔ decodeRuns rs = [] := by
  rw [← decodeRuns_mergeRuns, markersFromRuns]
  cases h : mergeRuns rs with
  | nil => simp [markersAfter, decodeRuns]
  | cons r rest =>
    have hr : r.text ≠ "" := text_ne_empty_of_mem_mergeRuns (h ▸ List.mem_cons_self)
    simp [markersAfter, decodeRuns_cons, styled_eq_nil, hr]

theorem balanced_markersFromRuns (rs : List Run) : Balanced (markersFromRuns rs) := by
  have h := balancedFrom_markersAfter [] (mergeRuns rs)
  rwa [shared, commonPrefix_nil_right, List.take_zero] at h

theorem value_ne_empty_of_mem_markersFromRuns {rs : List Run} {m : Marker}
    (hm : m ∈ markersFromRuns rs) : m.value ≠ "" := by
  obtain ⟨r, hr, hrm⟩ := value_mem_of_mem_markersAfter hm
  exact hrm ▸ text_ne_empty_of_mem_mergeRuns hr

/-! ## Which markups are opened -/

theorem mem_styled {markups : List Markup} {s : String} {c : StyledChar} :
    c ∈ styled markups s ↔ c.1 ∈ s.toList ∧ c.2 = markups := by
  rw [styled, List.mem_map]
  constructor
  · rintro ⟨ch, hch, rfl⟩
    exact ⟨hch, rfl⟩
  · rintro ⟨hch, rfl⟩
    exact ⟨c.1, hch, rfl⟩

/-- A markup that applies to a character is open before the markers, or one of them opens it. -/
theorem opened_of_mem_decodeFrom {before : List Markup} {ms : List Marker} {c : StyledChar}
    (hc : c ∈ decodeFrom before ms) {u : Markup} (hu : u ∈ c.2) :
    u ∈ before ∨ ∃ m ∈ ms, u ∈ m.openedMarkups := by
  induction ms generalizing before with
  | nil => cases hc
  | cons m ms ih =>
    have hinside : u ∈ m.inside before → u ∈ before ∨ ∃ n ∈ m :: ms, u ∈ n.openedMarkups := by
      intro h
      rcases List.mem_append.1 h with h | h
      · exact .inl h
      · exact .inr ⟨m, List.mem_cons_self, h⟩
    rcases List.mem_append.1 hc with hc | hc
    · exact hinside ((mem_styled.1 hc).2 ▸ hu)
    · rcases ih hc with h | ⟨n, hn, h⟩
      · exact hinside (List.mem_of_mem_take h)
      · exact .inr ⟨n, List.mem_cons_of_mem m hn, h⟩

/-- A markup that is opened by a marker with text applies to a character. -/
theorem exists_mem_decodeFrom {ms : List Marker} {m : Marker} (hm : m ∈ ms) (hvalue : m.value ≠ "")
    {u : Markup} (hu : u ∈ m.openedMarkups) (before : List Markup) :
    ∃ c ∈ decodeFrom before ms, u ∈ c.2 := by
  induction ms generalizing before with
  | nil => cases hm
  | cons n ms ih =>
    rcases List.mem_cons.1 hm with rfl | hm
    · obtain ⟨ch, hch⟩ : ∃ ch, ch ∈ m.value.toList :=
        List.exists_mem_of_ne_nil _ (by simpa using hvalue)
      exact ⟨(ch, m.inside before), List.mem_append_left _ (mem_styled.2 ⟨hch, rfl⟩),
        List.mem_append_right before hu⟩
    · obtain ⟨c, hc, huc⟩ := ih hm (n.after before)
      exact ⟨c, List.mem_append_right _ hc, huc⟩

/-- The markups that apply to characters of runs are those of the runs with text. -/
theorem exists_mem_decodeRuns_iff {rs : List Run} {u : Markup} :
    (∃ c ∈ decodeRuns rs, u ∈ c.2) ↔ ∃ r ∈ rs, r.text ≠ "" ∧ u ∈ r.markups := by
  simp only [decodeRuns, List.mem_flatMap]
  constructor
  · rintro ⟨c, ⟨r, hr, hc⟩, hu⟩
    obtain ⟨hch, hmarkups⟩ := mem_styled.1 hc
    refine ⟨r, hr, fun hempty => ?_, hmarkups ▸ hu⟩
    simp [hempty] at hch
  · rintro ⟨r, hr, htext, hu⟩
    obtain ⟨ch, hch⟩ : ∃ ch, ch ∈ r.text.toList :=
      List.exists_mem_of_ne_nil _ (by simpa using htext)
    exact ⟨(ch, r.markups), ⟨r, hr, mem_styled.2 ⟨hch, rfl⟩⟩, hu⟩

/-- **Markers open just the markups of the runs with text.** One that neighbouring runs share is
opened at the first of them. -/
theorem opened_markersFromRuns_iff {rs : List Run} {u : Markup} :
    (∃ m ∈ markersFromRuns rs, u ∈ m.openedMarkups) ↔
      ∃ r ∈ rs, r.text ≠ "" ∧ u ∈ r.markups := by
  rw [← exists_mem_decodeRuns_iff, ← decode_markersFromRuns]
  constructor
  · rintro ⟨m, hm, hu⟩
    exact exists_mem_decodeFrom hm (value_ne_empty_of_mem_markersFromRuns hm) hu []
  · rintro ⟨c, hc, hu⟩
    exact (opened_of_mem_decodeFrom hc hu).resolve_left List.not_mem_nil

/-! ## Nothing is lost -/

/-- **Normalising runs loses nothing.** No marker closes more markups than are open, none is left
open at the end, no marker is empty, and each character stands under the markups of its run. -/
theorem markersFromRuns_lossless (rs : List Run) :
    Balanced (markersFromRuns rs) ∧ (∀ m ∈ markersFromRuns rs, m.value ≠ "") ∧
      decode (markersFromRuns rs) = decodeRuns rs := by
  exact ⟨balanced_markersFromRuns rs, fun m => value_ne_empty_of_mem_markersFromRuns,
    decode_markersFromRuns rs⟩

end RichText
