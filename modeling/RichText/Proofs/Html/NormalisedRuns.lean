import RichText.Proofs.Document.RunNormalisation
import RichText.Proofs.Html.Depiction

/-!
# Runs always nest in HTML

A block or an item that is made of runs goes to a target that knows nothing of runs. The target
closes what it is told to close, and it complains if markups cross the end of an element.

**Nesting.** Markers of runs are balanced, so the target never complains of nesting; what is left to
complain of are names. It meets just the names of the runs that have text, since the markers open
all their markups and no others (`admissible_markersFromRuns_iff`).

**Theorem (`render_ofRuns`).** A block made of runs has an HTML form just if its tag and all names
in runs with text are known, an item just if the latter are. The HTML is one element, in which each
character stands under the tags of the markups of its run, outermost first.
-/

namespace RichText.Html

/-! ## Names in runs -/

/-- All markups of runs that have text are admissible. -/
def AdmissibleTexts (rs : List Run) : Prop :=
  ∀ r ∈ rs, r.text ≠ "" → ∀ u ∈ r.markups, u.Admissible

/-- Markers of runs open admissible markups just if the runs with text have no others. -/
theorem admissible_markersFromRuns_iff (rs : List Run) :
    (∀ u ∈ openedBy (markersFromRuns rs), u.Admissible) ↔ AdmissibleTexts rs := by
  constructor
  · intro h r hr htext u hu
    obtain ⟨m, hm, hum⟩ := opened_markersFromRuns_iff.2 ⟨r, hr, htext, hu⟩
    exact h u (List.mem_flatMap.2 ⟨m, hm, hum⟩)
  · intro h u hu
    obtain ⟨m, hm, hum⟩ := List.mem_flatMap.1 hu
    obtain ⟨r, hr, htext, hur⟩ := opened_markersFromRuns_iff.1 ⟨m, hm, hum⟩
    exact h r hr htext u hur

/-- Nothing can be wrong with markers of runs but the names in runs with text. -/
theorem markersFaults_ofRuns_eq_nil (rs : List Run) :
    markersFaults 0 (markersFromRuns rs) = [] ↔ AdmissibleTexts rs := by
  rw [markersFaults_eq_nil, admissible_markersFromRuns_iff]
  exact and_iff_left (balanced_markersFromRuns rs)

/-! ## Elements of runs -/

/-- The HTML is one element, in which each character of the runs stands under the start tags of just
the markups of its run, outermost first. -/
def EnclosesRuns (tag : String) (rs : List Run) (html : String) : Prop :=
  ∃ es, tokens? html = some (Element.tokensList [.element tag [] es]) ∧
    Element.ProperList [.element tag [] es] ∧ Element.styled es = (decodeRuns rs).map underTags

theorem enclosesRuns_htmlOf {tag : String} (htag : isElementTag tag = true) {rs : List Run}
    (hrs : AdmissibleTexts rs) :
    EnclosesRuns tag rs (htmlOf (elementTokens tag (markersTokens [] (markersFromRuns rs)))) := by
  have hfaults := (markersFaults_ofRuns_eq_nil rs).2 hrs
  obtain ⟨es, hproper, htokens, hdepicts⟩ := exists_depictsMarkers hfaults
  have hreads := reads_element htag hproper htokens
  have hplain := plain_element htag (plain_markers (markersFromRuns rs) [] (by simp)
    ((admissible_markersFromRuns_iff rs).2 hrs))
  refine ⟨es, ?_, hreads.1, ?_⟩
  · rw [tokens_htmlOf hplain, hreads.joinTexts_eq]
  · rw [hdepicts.styled, decode_markersFromRuns]

/-- The node has an HTML form just if `known` holds, which encloses the runs in one element; if it
has none, this is because of a name and not because of nesting. -/
structure RendersRuns (n : Node) (tag : String) (rs : List Run) (known : Prop) : Prop where
  ok_iff : (∃ html, render n = .ok html) ↔ known
  encloses : ∀ html, render n = .ok html → EnclosesRuns tag rs html
  nameError : ∀ e, render n = .error e → NameError e
  nests : ∀ e, NestingError e → render n ≠ .error e

/-- The faults and the tokens of an element made of runs decide what becomes of it. -/
theorem rendersRuns_of_faults {n : Node} {tag : String} {rs : List Run}
    (hfaults : nodeFaults n = tagFaults tag ++ markersFaults 0 (markersFromRuns rs))
    (htokens : nodeTokens n = elementTokens tag (markersTokens [] (markersFromRuns rs))) :
    RendersRuns n tag rs (isElementTag tag = true ∧ AdmissibleTexts rs) := by
  have hnil : nodeFaults n = [] ↔ isElementTag tag = true ∧ AdmissibleTexts rs := by
    rw [hfaults, List.append_eq_nil_iff, tagFaults, check_eq_nil, markersFaults_ofRuns_eq_nil]
  have hname : ∀ e, render n = .error e → NameError e := by
    intro e he
    obtain ⟨f, hf, rfl⟩ := exists_fault_of_render he
    rw [hfaults] at hf
    rcases List.mem_append.1 hf with hf | hf
    · exact nameError_of_mem_tagFaults hf
    · rcases mem_markersFaults hf with ⟨u, -, hf⟩ | ⟨-, hunbalanced⟩
      · exact nameError_of_mem_markupFaults hf
      · exact absurd (balanced_markersFromRuns rs) hunbalanced
  refine ⟨(exists_render_iff n).trans hnil, ?_, hname, ?_⟩
  · intro html hhtml
    obtain ⟨hnone, rfl⟩ := (render_ok_iff n html).1 hhtml
    obtain ⟨htag, hrs⟩ := hnil.1 hnone
    rw [htokens]
    exact enclosesRuns_htmlOf htag hrs
  · intro e hnesting he
    exact (hname e he).not_nestingError hnesting

/-! ## Blocks and items of runs -/

/-- **Runs always nest in HTML.** A block made of runs has an HTML form if and only if its tag is
one of an element and all markups of runs with text are admissible, and an item if and only if the
latter holds. The HTML is one element with each character under the tags of just the markups of its
run, outermost first. It never fails because of how many markups a marker closes, or because a
markup is left open. -/
theorem render_ofRuns (rs : List Run) :
    (∀ tag, RendersRuns (.markupSection (.ofRuns tag rs)) tag rs
      (isElementTag tag = true ∧ AdmissibleTexts rs)) ∧
      RendersRuns (.listItem (.ofRuns rs)) "li" rs (AdmissibleTexts rs) := by
  constructor
  · intro tag
    exact rendersRuns_of_faults rfl rfl
  · have hli : isElementTag "li" = true := rfl
    have hitem : RendersRuns (.listItem (.ofRuns rs)) "li" rs
        (isElementTag "li" = true ∧ AdmissibleTexts rs) := rendersRuns_of_faults rfl rfl
    rwa [and_iff_right hli] at hitem

example :
    let strong : Markup := ⟨"strong", .empty⟩
    let em : Markup := ⟨"em", .empty⟩
    let video : Markup := ⟨"video", .empty⟩
    render (.listItem (.ofRuns [⟨"a", [strong]⟩, ⟨"", [video]⟩, ⟨"b", [strong, em]⟩, ⟨"c", []⟩])) =
      .ok "<li><strong>a<em>b</em></strong>c</li>" := by decide +kernel

end RichText.Html
