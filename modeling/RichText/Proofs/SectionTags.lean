import RichText.Proofs.Html.Faults
import RichText.Proofs.Mobiledoc.RoundTrip

/-!
# Section tags in HTML and in Mobiledoc

Both backends check names against the same lists. The reader of Mobiledoc knows of each tag where it
stands and takes the list for that place. The HTML target sees an element only, which may be a
block of text, a list or an item, and takes all three together.

**The gap (`Section.HasForeignTag`).** A block with the tag of a list or of an item, or a list with
the tag of a block or of an item, is written as HTML and refused as Mobiledoc
(`not_readBack_of_render`). Nothing else is: markups and attributes are judged alike, and a post
that renders is read back just if no section has a foreign tag (`readBack_iff_of_render`).
-/

namespace RichText

/-- The tag of the section is one for another kind of element. -/
def Section.HasForeignTag : Section → Prop
  | .markup s => s.tagName ∈ "li" :: listSectionTags
  | .list s => s.tagName ∈ "li" :: markupSectionTags
  | .image _ => False
  | .card _ => False

/-! ## Element tags by their place -/

theorem Html.isElementTag_iff {tag : String} :
    isElementTag tag = true ↔ tag ∈ "li" :: (markupSectionTags ++ listSectionTags) := by
  simp [isElementTag, isMarkupSectionTag, isListSectionTag, or_assoc]

/-- The tags of elements fall into three groups, which have none in common. -/
theorem mem_sectionTags_iff : ∀ tag ∈ "li" :: (markupSectionTags ++ listSectionTags),
    (tag ∈ markupSectionTags ↔ tag ∉ "li" :: listSectionTags) ∧
      (tag ∈ listSectionTags ↔ tag ∉ "li" :: markupSectionTags) := by
  decide

theorem lowercase_of_isElementTag {tag : String} (h : Html.isElementTag tag = true) :
    lowercase tag = tag := by
  have all : ∀ t ∈ "li" :: (markupSectionTags ++ listSectionTags), lowercase t = t := by decide
  exact all tag (Html.isElementTag_iff.1 h)

namespace Section

/-- A tag that an element may have is foreign just if it is not on the list for its place. -/
theorem hasKnownTag_iff {s : Section} (h : s.HasElementTag) :
    s.HasKnownTag ↔ ¬s.HasForeignTag := by
  cases s with
  | markup s =>
    rw [HasKnownTag, HasForeignTag, isMarkupSectionTag, List.contains_iff_mem]
    exact (mem_sectionTags_iff s.tagName (Html.isElementTag_iff.1 h)).1
  | list s =>
    rw [HasKnownTag, HasForeignTag, isListSectionTag, List.contains_iff_mem]
    exact (mem_sectionTags_iff s.tagName (Html.isElementTag_iff.1 h)).2
  | image s => simp [HasKnownTag, HasForeignTag]
  | card c => simp [HasKnownTag, HasForeignTag]

theorem hasKnownTag_lowercased {s : Section} (h : s.HasElementTag) :
    s.lowercased.HasKnownTag ↔ s.HasKnownTag := by
  cases s with
  | markup s => simp [lowercased, HasKnownTag, lowercase_of_isElementTag h]
  | list s => simp [lowercased, HasKnownTag, lowercase_of_isElementTag h]
  | image s => exact Iff.rfl
  | card c => exact Iff.rfl

end Section

/-! ## Posts that render -/

namespace Post.Renderable

variable {p : Post}

theorem admissible_iff (h : p.Renderable) :
    p.Admissible ↔ ∀ s ∈ p.sections, ¬s.HasForeignTag := by
  rw [Post.admissible_iff, and_iff_left h.markups]
  exact forall₂_congr fun s hs => s.hasKnownTag_iff (h.tags s hs)

/-- Lower case mends nothing: tags of elements are in lower case. -/
theorem not_admissible_lowercased (h : p.Renderable) {s : Section} (hs : s ∈ p.sections)
    (hforeign : s.HasForeignTag) : ¬p.lowercased.Admissible := by
  intro hp
  have hknown := ((Post.admissible_iff _).1 hp).1 _ (List.mem_map_of_mem hs)
  rw [Section.hasKnownTag_lowercased (h.tags s hs), Section.hasKnownTag_iff (h.tags s hs)] at hknown
  exact hknown hforeign

end Post.Renderable

namespace Html

/-- **What HTML lets through.** Every post has a Mobiledoc. Let the post also have an HTML form.
Then all markups opened in it are admissible. It is read back from its Mobiledoc just if no section
has a tag for another kind of element, and is refused as no Mobiledoc if one has. -/
theorem readBack_iff_of_render (p : Post) :
    ∃ d, Mobiledoc.ofPost p = .ok d ∧ ∀ html, render (.post p) = .ok html →
      (∀ u ∈ p.openedMarkups, u.Admissible) ∧
      (Post.ofMobiledoc d.toJson = .ok p ↔ ∀ s ∈ p.sections, ¬s.HasForeignTag) ∧
      ∀ s ∈ p.sections, s.HasForeignTag →
        ∃ fault, Post.ofMobiledoc d.toJson = .error (.invalidMobiledoc fault) := by
  refine ⟨Mobiledoc.written p, Mobiledoc.ofPost_eq p, fun html hhtml => ?_⟩
  have hp : p.Renderable := (postFaults_eq_nil p).1 ((render_ok_iff _ html).1 hhtml).1
  have hrefused : ∀ s ∈ p.sections, s.HasForeignTag →
      ∃ fault, Post.ofMobiledoc (Mobiledoc.written p).toJson = .error (.invalidMobiledoc fault) :=
    fun s hs hforeign =>
      Mobiledoc.ofMobiledoc_written_of_not_admissible (hp.not_admissible_lowercased hs hforeign)
  refine ⟨hp.markups, ⟨fun hread s hs hforeign => ?_, fun h => ?_⟩, hrefused⟩
  · obtain ⟨fault, hfault⟩ := hrefused s hs hforeign
    cases hfault.symm.trans hread
  · exact Mobiledoc.ofMobiledoc_written (hp.admissible_iff.2 h)

/-- A block with the tag of a list. -/
def listTaggedBlock : Post := ⟨[.markup ⟨"ul", [⟨"x", [], 0⟩]⟩]⟩

/-- To have an HTML form is not enough to be read back. -/
theorem not_readBack_of_render :
    ¬∀ p : Post, (∃ html, render (.post p) = .ok html) →
      ∃ d, Mobiledoc.ofPost p = .ok d ∧ Post.ofMobiledoc d.toJson = .ok p := by
  intro h
  have hrender : render (.post listTaggedBlock) = .ok "<ul>x</ul>" := by decide +kernel
  obtain ⟨d, hd, hread⟩ := h listTaggedBlock ⟨_, hrender⟩
  have hp : listTaggedBlock.Renderable :=
    (postFaults_eq_nil _).1 ((render_ok_iff _ _).1 hrender).1
  have hforeign : (Section.markup ⟨"ul", [⟨"x", [], 0⟩]⟩).HasForeignTag := by
    show "ul" ∈ "li" :: listSectionTags
    decide
  obtain ⟨fault, hfault⟩ := Mobiledoc.ofMobiledoc_written_of_not_admissible
    (hp.not_admissible_lowercased List.mem_cons_self hforeign)
  rw [Mobiledoc.ofPost_eq] at hd
  cases hd
  cases hfault.symm.trans hread

end Html

end RichText
