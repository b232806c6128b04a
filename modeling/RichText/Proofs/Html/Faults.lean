import RichText.Proofs.Html.Run

/-!
# Which posts have an HTML form

The faults of `Html.Run` come from a walk over the markers with a depth. Here the absence of faults
is put as a condition on the tree, in which no depth passes from one section or item to the next:

- the tag of each section is one that an element may have (`Section.HasElementTag`);
- each markup that is opened is admissible;
- the markers of each section and of each item are balanced, taken on their own.

Main result: `render_post`. A post has an HTML form just if it meets the condition, and otherwise
the error is that of its first fault.
-/

namespace RichText

/-- The tag of a section is one that an element may have. Other blocks have no tag to choose. -/
def Section.HasElementTag : Section → Prop
  | .markup s => Html.isElementTag s.tagName = true
  | .list s => Html.isElementTag s.tagName = true
  | .image _ => True
  | .card _ => True

/-- The post has an HTML form. -/
structure Post.Renderable (p : Post) : Prop where
  tags : ∀ s ∈ p.sections, s.HasElementTag
  markups : ∀ u ∈ p.openedMarkups, u.Admissible
  balanced : ∀ ms ∈ p.markerLists, Balanced ms

theorem Section.HasElementTag.of_admissible {s : Section} (h : s.Admissible) :
    s.HasElementTag := by
  cases s with
  | markup s => simp [HasElementTag, Html.isElementTag, h.1]
  | list s => simp [HasElementTag, Html.isElementTag, h.1]
  | image s => trivial
  | card c => trivial

/-- In an admissible post nothing can be wrong but the balance of markers. -/
theorem Post.renderable_iff_of_admissible {p : Post} (h : p.Admissible) :
    p.Renderable ↔ ∀ ms ∈ p.markerLists, Balanced ms := by
  constructor
  · intro hp
    exact hp.balanced
  · intro hbalanced
    exact ⟨fun s hs => .of_admissible (h s hs), ((Post.admissible_iff p).1 h).2, hbalanced⟩

namespace Html

/-! ## No faults -/

theorem markupFaults_eq_nil (m : Markup) : markupFaults m = [] ↔ m.Admissible := by
  rw [markupFaults, List.append_eq_nil_iff, check_eq_nil, attributeFaults,
    List.flatMap_eq_nil_iff, Markup.Admissible]
  simp only [check_eq_nil]

theorem markerFaults_eq_nil (depth : Nat) (m : Marker) :
    markerFaults depth m = [] ↔
      (∀ u ∈ m.openedMarkups, u.Admissible) ∧ m.closedCount ≤ depth + m.openedMarkups.length := by
  rw [markerFaults, List.append_eq_nil_iff, check_eq_nil, List.flatMap_eq_nil_iff,
    decide_eq_true_iff]
  simp only [markupFaults_eq_nil]

/-- Markers have no faults if what they open is admissible and they are balanced. -/
theorem markersFaults_eq_nil (depth : Nat) (ms : List Marker) :
    markersFaults depth ms = [] ↔ (∀ u ∈ openedBy ms, u.Admissible) ∧ BalancedFrom depth ms := by
  induction ms generalizing depth with
  | nil =>
    rw [markersFaults, check_eq_nil, decide_eq_true_iff]
    simp [openedBy, BalancedFrom]
  | cons m ms ih =>
    rw [markersFaults, List.append_eq_nil_iff, markerFaults_eq_nil, ih, openedBy_cons,
      List.forall_mem_append, BalancedFrom]
    exact and_and_and_comm

theorem sectionFaults_eq_nil (s : Section) :
    sectionFaults s = [] ↔ s.HasElementTag ∧ (∀ u ∈ s.openedMarkups, u.Admissible) ∧
      ∀ ms ∈ s.markerLists, Balanced ms := by
  cases s with
  | markup s =>
    rw [sectionFaults, List.append_eq_nil_iff, tagFaults, check_eq_nil, markersFaults_eq_nil]
    simp [Section.HasElementTag, Section.openedMarkups, Section.markerLists, Balanced]
  | list s =>
    rw [sectionFaults, List.append_eq_nil_iff, tagFaults, check_eq_nil, List.flatMap_eq_nil_iff]
    simp only [markersFaults_eq_nil, Section.HasElementTag, Section.openedMarkups,
      Section.markerLists, List.mem_flatMap, List.forall_mem_map]
    refine and_congr_right fun _ => ⟨fun h => ⟨?_, fun i hi => (h i hi).2⟩, fun h i hi => ?_⟩
    · rintro u ⟨i, hi, hu⟩
      exact (h i hi).1 u hu
    · exact ⟨fun u hu => h.1 u ⟨i, hi, hu⟩, h.2 i hi⟩
  | image s =>
    simp [sectionFaults, Section.HasElementTag, Section.openedMarkups, Section.markerLists]
  | card c =>
    simp [sectionFaults, Section.HasElementTag, Section.openedMarkups, Section.markerLists]

theorem postFaults_eq_nil (p : Post) : nodeFaults (.post p) = [] ↔ p.Renderable := by
  rw [nodeFaults, List.flatMap_eq_nil_iff]
  simp only [sectionFaults_eq_nil]
  constructor
  · intro h
    refine ⟨fun s hs => (h s hs).1, fun u hu => ?_, fun ms hms => ?_⟩
    · obtain ⟨s, hs, hu⟩ := List.mem_flatMap.1 hu
      exact (h s hs).2.1 u hu
    · obtain ⟨s, hs, hms⟩ := List.mem_flatMap.1 hms
      exact (h s hs).2.2 ms hms
  · intro h s hs
    refine ⟨h.tags s hs, fun u hu => ?_, fun ms hms => ?_⟩
    · exact h.markups u (List.mem_flatMap.2 ⟨s, hs, hu⟩)
    · exact h.balanced ms (List.mem_flatMap.2 ⟨s, hs, hms⟩)

/-! ## Names and nesting -/

/-- The error is about a name: the tag of an element or of a markup, or the name of an attribute. -/
inductive NameError : Error → Prop where
  | sectionTag (tag : String) : NameError (.invalidParam 0 .sectionTag tag)
  | markupTag (tag : String) : NameError (.invalidParam 0 .markupTag tag)
  | attributeName (name : String) : NameError (.invalidParam 1 .attributeNames name)

/-- The error is about nesting: a marker closes more markups than are open, or some are left
open. -/
inductive NestingError : Error → Prop where
  | closeCount (count : Nat) : NestingError (.invalidParam 0 .closeCount (toString count))
  | leftOpen : NestingError (.misplaced "closeElement" .openMarkups)

theorem NameError.not_nestingError {e : Error} (h : NameError e) : ¬NestingError e := by
  cases h <;> nofun

theorem nameError_of_mem_tagFaults {tag : String} {f : Fault} (h : f ∈ tagFaults tag) :
    NameError f.error := by
  obtain ⟨-, rfl⟩ := mem_check.1 h
  exact .sectionTag tag

theorem nameError_of_mem_markupFaults {u : Markup} {f : Fault} (h : f ∈ markupFaults u) :
    NameError f.error := by
  rcases List.mem_append.1 h with h | h
  · obtain ⟨-, rfl⟩ := mem_check.1 h
    exact .markupTag u.tagName
  · obtain ⟨e, -, he⟩ := List.mem_flatMap.1 h
    obtain ⟨-, rfl⟩ := mem_check.1 he
    exact .attributeName e.1

/-- A fault of markers is one of a markup that they open, or one of their nesting, in which case
they are not balanced. -/
theorem mem_markersFaults {depth : Nat} {ms : List Marker} {f : Fault}
    (h : f ∈ markersFaults depth ms) :
    (∃ u ∈ openedBy ms, f ∈ markupFaults u) ∨ (NestingError f.error ∧ ¬BalancedFrom depth ms) := by
  induction ms generalizing depth with
  | nil =>
    obtain ⟨hdepth, rfl⟩ := mem_check.1 h
    exact .inr ⟨.leftOpen, of_decide_eq_false hdepth⟩
  | cons m ms ih =>
    rw [openedBy_cons]
    rcases List.mem_append.1 h with h | h
    · rcases List.mem_append.1 h with h | h
      · obtain ⟨u, hu, hf⟩ := List.mem_flatMap.1 h
        exact .inl ⟨u, List.mem_append_left _ hu, hf⟩
      · obtain ⟨hcount, rfl⟩ := mem_check.1 h
        refine .inr ⟨.closeCount m.closedCount, fun hbalanced => ?_⟩
        exact of_decide_eq_false hcount hbalanced.1
    · rcases ih h with ⟨u, hu, hf⟩ | ⟨hnesting, hrest⟩
      · exact .inl ⟨u, List.mem_append_right _ hu, hf⟩
      · exact .inr ⟨hnesting, fun hbalanced => hrest hbalanced.2⟩

/-- In a section whose names are known, all faults are about nesting. -/
theorem nestingError_of_mem_sectionFaults {s : Section} (hs : s.Admissible) {f : Fault}
    (h : f ∈ sectionFaults s) : NestingError f.error := by
  have htag := Section.HasElementTag.of_admissible hs
  have hmarkers : ∀ {ms : List Marker}, AdmissibleMarkers ms → f ∈ markersFaults 0 ms →
      NestingError f.error := by
    intro ms hms hf
    rcases mem_markersFaults hf with ⟨u, hu, hf⟩ | ⟨hnesting, -⟩
    · rw [(markupFaults_eq_nil u).2 ((admissibleMarkers_iff ms).1 hms u hu)] at hf
      cases hf
    · exact hnesting
  cases s with
  | markup s =>
    rw [sectionFaults, tagFaults, check_eq_nil.2 htag, List.nil_append] at h
    exact hmarkers hs.2 h
  | list s =>
    rw [sectionFaults, tagFaults, check_eq_nil.2 htag, List.nil_append] at h
    obtain ⟨i, hi, hf⟩ := List.mem_flatMap.1 h
    exact hmarkers (hs.2 i hi) hf
  | image s => cases h
  | card c => cases h

/-! ## Rendering a post -/

theorem render_ok_iff (n : Node) (html : String) :
    render n = .ok html ↔ nodeFaults n = [] ∧ htmlOf (nodeTokens n) = html := by
  rw [render_eq]
  cases nodeFaults n with
  | nil => simp
  | cons f fs => simp

theorem render_error_iff (n : Node) (e : Error) :
    render n = .error e ↔ (nodeFaults n).head?.map Fault.error = some e := by
  rw [render_eq]
  cases nodeFaults n with
  | nil => simp
  | cons f fs => simp

theorem exists_render_iff (n : Node) : (∃ html, render n = .ok html) ↔ nodeFaults n = [] := by
  simp [render_ok_iff]

/-- An error is that of one of the faults. -/
theorem exists_fault_of_render {n : Node} {e : Error} (h : render n = .error e) :
    ∃ f ∈ nodeFaults n, f.error = e := by
  obtain ⟨f, hf, hfe⟩ := Option.map_eq_some_iff.1 ((render_error_iff n e).1 h)
  exact ⟨f, List.mem_of_head? hf, hfe⟩

/-- **When a post renders, and which error it gives.** It renders just if every section has a tag
for an element, every opened markup is admissible, and the markers of every section and item
balance. Otherwise the error is that of the first fault in document order. It never comes from the
visit, nor from the lookup of a handler. -/
theorem render_post (p : Post) :
    ((∃ html, render (.post p) = .ok html) ↔ p.Renderable) ∧
      (∀ e, render (.post p) = .error e ↔
        (nodeFaults (.post p)).head?.map Fault.error = some e) ∧
      (∀ type, render (.post p) ≠ .error (.unknownNodeType type)) ∧
      (∀ name index, render (.post p) ≠ .error (.unknownOpcode name index)) ∧
      ∀ name expected found, render (.post p) ≠ .error (.arityMismatch name expected found) := by
  have hfault : ∀ {e}, render (.post p) = .error e → ∃ f : Fault, f.error = e := by
    intro e he
    obtain ⟨f, _, hf⟩ := Option.map_eq_some_iff.1 ((render_error_iff _ e).1 he)
    exact ⟨f, hf⟩
  refine ⟨?_, render_error_iff _, ?_, ?_, ?_⟩
  · rw [← postFaults_eq_nil]
    constructor
    · rintro ⟨html, hhtml⟩
      exact ((render_ok_iff _ html).1 hhtml).1
    · intro hnil
      exact ⟨_, (render_ok_iff _ _).2 ⟨hnil, rfl⟩⟩
  · intro type he
    obtain ⟨f, hf⟩ := hfault he
    cases f <;> cases hf
  · intro name index he
    obtain ⟨f, hf⟩ := hfault he
    cases f <;> cases hf
  · intro name expected found he
    obtain ⟨f, hf⟩ := hfault he
    cases f <;> cases hf

end Html

end RichText
