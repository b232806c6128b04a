import RichText.Markdown.Import
import RichText.Proofs.Document.RunNormalisation
import RichText.Proofs.Html.Faults
import RichText.Proofs.Mobiledoc.RoundTrip

/-!
# What is imported can be written

A post that comes from Markdown events is accepted by both backends, whatever the events are and
whether or not they are nested.

**The invariant (`Importer.Sound`).** All names that the importer holds are known: the tag of the
open block, the open markups and those of the runs. All sections that are complete, held back or
open as a list are writable: their names are known and their markers balance, which they do because
each list of markers is made of runs at once. Every part of a step keeps the invariant, and so do
events (`Sound.step`) and streams of events (`Sound.steps`).

**Theorem (`postOfEvents_writable`).** The post has an HTML form and a Mobiledoc, and reading the
Mobiledoc gives the post back.
-/

namespace RichText

/-! ## Writable sections -/

/-- A section that both backends write: its names are known and its markers balance. -/
structure Section.Writable (b : Section) : Prop where
  admissible : b.Admissible
  balanced : ∀ ms ∈ b.markerLists, Balanced ms

theorem Section.writable_image (s : ImageSection) : (Section.image s).Writable :=
  ⟨trivial, by simp [markerLists]⟩

theorem Section.writable_card (c : Card) : (Section.card c).Writable :=
  ⟨trivial, by simp [markerLists]⟩

/-- All markups of the runs are admissible. -/
def AdmissibleRuns (rs : List Run) : Prop := ∀ r ∈ rs, ∀ m ∈ r.markups, m.Admissible

theorem AdmissibleRuns.concat {rs : List Run} (h : AdmissibleRuns rs) {r : Run}
    (hr : ∀ m ∈ r.markups, m.Admissible) : AdmissibleRuns (rs ++ [r]) :=
  List.forall_mem_append.2 ⟨h, List.forall_mem_singleton.2 hr⟩

theorem AdmissibleRuns.markers {rs : List Run} (h : AdmissibleRuns rs) :
    AdmissibleMarkers (markersFromRuns rs) := fun _ hm _ hu => by
  obtain ⟨r, hr, -, hur⟩ := opened_markersFromRuns_iff.1 ⟨_, hm, hu⟩
  exact h r hr _ hur

/-- A block made of runs is writable. -/
theorem Section.writable_ofRuns {tag : String} (htag : isMarkupSectionTag tag = true)
    {rs : List Run} (h : AdmissibleRuns rs) : (Section.markup (.ofRuns tag rs)).Writable where
  admissible := ⟨htag, h.markers⟩
  balanced := List.forall_mem_singleton.2 (balanced_markersFromRuns rs)

/-- A list stays writable when an item made of runs is added to it. -/
theorem Section.Writable.addItem {l : ListSection} (hl : (Section.list l).Writable)
    {rs : List Run} (h : AdmissibleRuns rs) :
    (Section.list { l with items := l.items ++ [.ofRuns rs] }).Writable where
  admissible := ⟨hl.admissible.1,
    List.forall_mem_append.2 ⟨hl.admissible.2, List.forall_mem_singleton.2 h.markers⟩⟩
  balanced := by
    have hitem : ∀ ms ∈ [(ListItem.ofRuns rs).markers], Balanced ms :=
      List.forall_mem_singleton.2 (balanced_markersFromRuns rs)
    simpa [markerLists, or_imp, forall_and] using And.intro hl.balanced hitem

theorem Post.admissible_of_writable {p : Post} (h : ∀ b ∈ p.sections, b.Writable) :
    p.Admissible := fun b hb => (h b hb).admissible

theorem Post.renderable_of_writable {p : Post} (h : ∀ b ∈ p.sections, b.Writable) :
    p.Renderable := by
  refine (Post.renderable_iff_of_admissible (admissible_of_writable h)).2 fun ms hms => ?_
  obtain ⟨b, hb, hms⟩ := List.mem_flatMap.1 hms
  exact (h b hb).balanced ms hms

namespace Markdown

/-! ## The invariant -/

theorem isMarkupSectionTag_heading (level : HeadingLevel) :
    isMarkupSectionTag level.tag = true := by
  cases level <;> decide

theorem admissible_linkMarkup (url : String) : (linkMarkup url).Admissible :=
  have htag : isMarkupTag "a" = true := by decide
  have hname : isAttributeName "href" = true := by decide
  ⟨htag, List.forall_mem_singleton.2 hname⟩

namespace Importer

/-- All names are known, and all sections are writable. -/
structure Sound (s : Importer) : Prop where
  sections : ∀ b ∈ s.sections, b.Writable
  blockTag : ∀ tag ∈ s.blockTag, isMarkupSectionTag tag = true
  list : ∀ l ∈ s.list, (Section.list l).Writable
  markups : ∀ m ∈ s.markups, m.Admissible
  runs : AdmissibleRuns s.runs
  pending : ∀ b ∈ s.pending, b.Writable

theorem sound_empty : Sound {} where
  sections := by simp
  blockTag := by simp
  list := by simp
  markups := by simp
  runs := by simp [AdmissibleRuns]
  pending := by simp

variable {s : Importer}

/-! ## Parts of a step -/

theorem Sound.pushRun (h : s.Sound) (text : String) : (s.pushRun text).Sound :=
  { h with runs := h.runs.concat h.markups }

theorem Sound.pushCode (h : s.Sound) (text : String) : (s.pushCode text).Sound :=
  { h with
    runs := h.runs.concat (List.forall_mem_append.2 ⟨h.markups,
      List.forall_mem_singleton.2 ⟨by decide, by simp⟩⟩) }

theorem Sound.pushText (h : s.Sound) (text : String) : (s.pushText text).Sound := by
  unfold Importer.pushText
  split
  · exact h
  · split
    · exact { h with }
    · exact h.pushRun text

theorem Sound.pushBlock (h : s.Sound) {b : Section} (hb : b.Writable) :
    (s.pushBlock b).Sound := by
  unfold Importer.pushBlock
  split
  · exact { h with
      pending := List.forall_mem_append.2 ⟨h.pending, List.forall_mem_singleton.2 hb⟩ }
  · exact { h with
      sections := List.forall_mem_append.2 ⟨h.sections, List.forall_mem_singleton.2 hb⟩ }

theorem Sound.openMarkup (h : s.Sound) {m : Markup} (hm : m.Admissible) :
    (s.openMarkup m).Sound :=
  { h with markups := List.forall_mem_append.2 ⟨h.markups, List.forall_mem_singleton.2 hm⟩ }

theorem Sound.blockSections (h : s.Sound) : ∀ b ∈ s.blockSections, b.Writable := by
  unfold Importer.blockSections
  split
  · rename_i tag htag
    dsimp only
    split
    · simp
    · exact List.forall_mem_singleton.2 (Section.writable_ofRuns (h.blockTag tag htag) h.runs)
  · simp

theorem Sound.flushBlock (h : s.Sound) : s.flushBlock.Sound where
  sections := List.forall_mem_append.2
    ⟨List.forall_mem_append.2 ⟨h.sections, h.blockSections⟩, h.pending⟩
  blockTag := by simp [Importer.flushBlock]
  list := h.list
  markups := h.markups
  runs := by simp [Importer.flushBlock, AdmissibleRuns]
  pending := by simp [Importer.flushBlock]

theorem Sound.flushItem (h : s.Sound) : s.flushItem.Sound := by
  unfold Importer.flushItem
  split
  · exact h
  · have hlist : ∀ l ∈ s.list.map fun l => { l with items := l.items ++ [.ofRuns s.runs] },
        (Section.list l).Writable := by
      intro l hl
      obtain ⟨k, hk, rfl⟩ := Option.map_eq_some_iff.1 hl
      exact (h.list k hk).addItem h.runs
    exact { h with list := hlist, runs := by simp [AdmissibleRuns] }

theorem Sound.listSections (h : s.Sound) : ∀ b ∈ s.listSections, b.Writable := by
  unfold Importer.listSections
  split
  · rename_i l hl
    exact List.forall_mem_singleton.2 (h.list l hl)
  · simp

theorem Sound.flushList (h : s.Sound) : s.flushList.Sound where
  sections := List.forall_mem_append.2
    ⟨List.forall_mem_append.2 ⟨h.sections, h.listSections⟩, h.pending⟩
  blockTag := h.blockTag
  list := by simp [Importer.flushList]
  markups := h.markups
  runs := h.runs
  pending := by simp [Importer.flushList]

/-! ## Steps -/

theorem Sound.startList (h : s.Sound) (start : Option Nat) : (s.startList start).Sound := by
  have hdeeper : Sound { s with listDepth := s.listDepth + 1 } := { h with }
  unfold Importer.startList
  dsimp only
  split
  · have hempty : ∀ tag, isListSectionTag tag = true → (Section.list ⟨tag, []⟩).Writable :=
      fun tag htag => ⟨⟨htag, by simp⟩, by simp [Section.markerLists]⟩
    refine { h with list := ?_ }
    rintro l ⟨⟩
    refine hempty _ ?_
    split <;> decide
  · exact hdeeper.flushItem

theorem Sound.startParagraph (h : s.Sound) : s.startParagraph.Sound := by
  unfold Importer.startParagraph
  split
  · exact { h with blockTag := by rintro _ ⟨⟩; decide }
  · split
    · exact h
    · exact { h with runs := h.runs.concat (by simp) }

theorem Sound.startHeading (h : s.Sound) (level : HeadingLevel) :
    (s.startHeading level).Sound := by
  unfold Importer.startHeading
  split
  · exact { h with blockTag := by rintro _ ⟨⟩; exact isMarkupSectionTag_heading level }
  · exact h

theorem Sound.start (h : s.Sound) (tag : StartTag) : (s.start tag).Sound := by
  cases tag with
  | paragraph => exact h.startParagraph
  | heading level => exact h.startHeading level
  | list start => exact h.startList start
  | item => exact h.flushItem
  | strong => exact h.openMarkup ⟨by decide, by simp⟩
  | emphasis => exact h.openMarkup ⟨by decide, by simp⟩
  | strikethrough => exact h.openMarkup ⟨by decide, by simp⟩
  | link url => exact h.openMarkup (admissible_linkMarkup url)
  | image url =>
    have hs : Sound { s with inImage := true } := { h with }
    exact hs.pushBlock (Section.writable_image ⟨url⟩)
  | codeBlock info => exact { h with }
  | other => exact h

theorem Sound.finishList (h : s.Sound) : s.finishList.Sound := by
  have hs : Sound { s with listDepth := s.listDepth - 1 } := { h with }
  unfold Importer.finishList
  dsimp only
  split
  · exact hs.flushItem.flushList
  · exact hs

theorem Sound.finishBlock (h : s.Sound) : s.finishBlock.Sound := by
  unfold Importer.finishBlock
  split
  · exact h.flushBlock
  · exact h

theorem Sound.finishCode (h : s.Sound) : s.finishCode.Sound := by
  unfold Importer.finishCode
  split
  · rename_i language code _
    have hs : Sound { s with code := none } := { h with }
    exact hs.pushBlock (Section.writable_card (codeCard language code))
  · exact h

theorem Sound.closeMarkup (h : s.Sound) : Sound { s with markups := s.markups.dropLast } :=
  { h with markups := fun m hm => h.markups m (List.dropLast_subset _ hm) }

theorem Sound.finish (h : s.Sound) (tag : EndTag) : (s.finish tag).Sound := by
  cases tag with
  | paragraph | heading => exact h.finishBlock
  | item => exact h.flushItem
  | list => exact h.finishList
  | strong | emphasis | strikethrough | link => exact h.closeMarkup
  | image => exact { h with }
  | codeBlock => exact h.finishCode
  | other => exact h

/-- Every event keeps the invariant. -/
theorem Sound.step (h : s.Sound) (e : Event) : (s.step e).Sound := by
  cases e with
  | start tag => exact h.start tag
  | finish tag => exact h.finish tag
  | text t => exact h.pushText t
  | code t => exact h.pushCode t
  | softBreak => exact h.pushRun " "
  | hardBreak => exact h.pushRun "\n"
  | rule => exact h.pushBlock (Section.writable_card ruleCard)
  | other => exact h

/-- Every stream of events keeps the invariant. -/
theorem Sound.steps (h : s.Sound) (events : List Event) :
    (events.foldl Importer.step s).Sound := by
  induction events generalizing s with
  | nil => exact h
  | cons e events ih => exact ih (h.step e)

theorem Sound.toPost (h : s.Sound) : ∀ b ∈ s.toPost.sections, b.Writable :=
  h.flushBlock.flushList.sections

end Importer

/-! ## Imported posts -/

theorem writable_postOfEvents (events : List Event) :
    ∀ b ∈ (postOfEvents events).sections, b.Writable :=
  (Importer.sound_empty.steps events).toPost

theorem admissible_postOfEvents (events : List Event) : (postOfEvents events).Admissible :=
  Post.admissible_of_writable (writable_postOfEvents events)

/-- **What is imported can be written.** For every stream of events, nested or not, the post has an
HTML form and a Mobiledoc, and the Mobiledoc is read as the same post. -/
theorem postOfEvents_writable (events : List Event) :
    (∃ html, Html.render (.post (postOfEvents events)) = .ok html) ∧
      ∃ d, Mobiledoc.ofPost (postOfEvents events) = .ok d ∧
        Post.ofMobiledoc d.toJson = .ok (postOfEvents events) := by
  have hfaults : Html.nodeFaults (.post (postOfEvents events)) = [] :=
    (Html.postFaults_eq_nil _).2 (Post.renderable_of_writable (writable_postOfEvents events))
  refine ⟨⟨_, (Html.render_ok_iff _ _).2 ⟨hfaults, rfl⟩⟩, _, Mobiledoc.ofPost_eq _, ?_⟩
  exact Mobiledoc.ofMobiledoc_written (admissible_postOfEvents events)

end Markdown

end RichText
