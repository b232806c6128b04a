import Mathlib.Data.List.Forall2
import RichText.Proofs.Mobiledoc.Tables

/-!
# A Mobiledoc represents its post

`Mobiledoc.Build` gives the document of a post by recursion. Here the two are compared from outside:
`Represents` says what must be found in a document so that nothing of the post is lost, added or
attached to another place.

**Representation.** There is one entry for each section, of the same kind and in the same order,
with the same items and markers. Where a marker refers to the table of markups, it finds the markups
that it opens. The table has each markup once, in the order of first use, so that two markups share
an index just if they are equal; and card sections number the cards through.

**Theorem (`writer_represents`).** Every post is written as a document that represents it, whatever
the target held before. A section on its own is written like the post that holds nothing else. No
other part of a document can be written on its own.
-/

namespace RichText.Mobiledoc

/-! ## Representation -/

/-- The entry says what the marker says, and its indexes lead to the markups that it opens. -/
structure ShowsMarker (table : List MarkupEntry) (m : Marker) (e : MarkerEntry) : Prop where
  value : e.value = m.value
  closed : e.closed = m.closedCount
  opened : e.opened.map (fun i => table[i]?) = m.openedMarkups.map fun u => some u.entry

/-- The entry is that of a section of the same kind, with the same tag, source, items and
markers. -/
def ShowsSection (table : List MarkupEntry) : Section → SectionEntry → Prop
  | .markup s, .markup tagName markers =>
    tagName = s.tagName ∧ List.Forall₂ (ShowsMarker table) s.markers markers
  | .list s, .list tagName items =>
    tagName = s.tagName ∧
      List.Forall₂ (fun i markers => List.Forall₂ (ShowsMarker table) i.markers markers)
        s.items items
  | .image s, .image src => src = s.src
  | .card _, .card _ => True
  | _, _ => False

/-- The document says what the post says. -/
structure Represents (d : Mobiledoc) (p : Post) : Prop where
  sections : List.Forall₂ (ShowsSection d.markups) p.sections d.sections
  /-- Each markup stands in the table once, in the order of first use. -/
  markups : d.markups = (p.openedMarkups.map Markup.entry).eraseDups
  /-- Each markup that is opened has an index, in reading order. -/
  indexed : d.openIndexes.length = p.openedMarkups.length
  /-- Two markups have the same index just if they are equal. -/
  shared : ∀ u i v j, (u, i) ∈ p.openedMarkups.zip d.openIndexes →
    (v, j) ∈ p.openedMarkups.zip d.openIndexes → (i = j ↔ u = v)
  cards : d.cards = p.cards.map fun c => (c.name, c.payload)
  /-- The card sections refer to the entries of the table of cards one by one. -/
  numbered : d.cardIndexes = List.range d.cards.length

/-! ## The written document -/

section Written

variable {all : List Markup}

/-- At the position of a markup stands its entry. -/
theorem getElem?_table {u : Markup} (hu : u ∈ all) :
    (all.map Markup.entry).eraseDups[position all u]? = some u.entry :=
  List.getElem?_idxOf (List.mem_eraseDups.2 (List.mem_map_of_mem hu))

theorem position_inj {u v : Markup} (hu : u ∈ all) (hv : v ∈ all) :
    position all u = position all v ↔ u = v := by
  refine ⟨fun h => ?_, congrArg _⟩
  have hentry := getElem?_table hu
  rw [h, getElem?_table hv] at hentry
  exact Markup.entry_injective (Option.some.inj hentry).symm

theorem showsMarker {m : Marker} (hm : ∀ u ∈ m.openedMarkups, u ∈ all) :
    ShowsMarker (all.map Markup.entry).eraseDups m (markerEntry all m) := by
  refine ⟨rfl, rfl, ?_⟩
  rw [markerEntry, List.map_map]
  exact List.map_congr_left fun u hu => getElem?_table (hm u hu)

theorem showsMarkers {ms : List Marker} (hms : ∀ u ∈ openedBy ms, u ∈ all) :
    List.Forall₂ (ShowsMarker (all.map Markup.entry).eraseDups) ms
      (ms.map (markerEntry all)) := by
  rw [List.forall₂_map_right_iff, List.forall₂_same]
  intro m hm
  exact showsMarker fun u hu => hms u (List.mem_flatMap.2 ⟨m, hm, hu⟩)

theorem showsSection {s : Section} (hs : ∀ u ∈ s.openedMarkups, u ∈ all) (k : Nat) :
    ShowsSection (all.map Markup.entry).eraseDups s (sectionEntry all k s) := by
  cases s with
  | markup s => exact ⟨rfl, showsMarkers hs⟩
  | list s =>
    refine ⟨rfl, ?_⟩
    rw [List.forall₂_map_right_iff, List.forall₂_same]
    intro i hi
    exact showsMarkers fun u hu => hs u (List.mem_flatMap.2 ⟨i, hi, hu⟩)
  | image s => rfl
  | card c => trivial

theorem showsSections {sections : List Section}
    (hs : ∀ u ∈ sections.flatMap Section.openedMarkups, u ∈ all) (k : Nat) :
    List.Forall₂ (ShowsSection (all.map Markup.entry).eraseDups) sections
      (sectionEntries all k sections) := by
  induction sections generalizing k with
  | nil => exact .nil
  | cons s sections ih =>
    rw [List.flatMap_cons, List.forall_mem_append] at hs
    exact .cons (showsSection hs.1 k) (ih hs.2 _)

theorem indexesOf_markers (ms : List Marker) :
    indexesOf (ms.map (markerEntry all)) = (openedBy ms).map (position all) := by
  simp [indexesOf, openedBy, List.flatMap_map, List.map_flatMap, markerEntry]

theorem openIndexes_sectionEntry (k : Nat) (s : Section) :
    (sectionEntry all k s).openIndexes = s.openedMarkups.map (position all) := by
  cases s with
  | markup s => exact indexesOf_markers s.markers
  | list s =>
    simp only [sectionEntry, SectionEntry.openIndexes, Section.openedMarkups, List.flatMap_map,
      indexesOf_markers, List.map_flatMap]
  | image s => rfl
  | card c => rfl

theorem openIndexes_sectionEntries (k : Nat) (sections : List Section) :
    (sectionEntries all k sections).flatMap SectionEntry.openIndexes =
      (sections.flatMap Section.openedMarkups).map (position all) := by
  induction sections generalizing k with
  | nil => rfl
  | cons s sections ih =>
    rw [sectionEntries, List.flatMap_cons, openIndexes_sectionEntry, ih, List.flatMap_cons,
      List.map_append]

theorem cardIndexes_sectionEntries (k : Nat) (sections : List Section) :
    (sectionEntries all k sections).flatMap SectionEntry.cardIndexes =
      List.range' k (sections.flatMap Section.cards).length := by
  induction sections generalizing k with
  | nil => rfl
  | cons s sections ih =>
    have hs : (sectionEntry all k s).cardIndexes = List.range' k s.cards.length := by
      cases s <;> rfl
    rw [sectionEntries, List.flatMap_cons, hs, ih, List.flatMap_cons, List.length_append,
      List.range'_append_1]

end Written

theorem represents_written (p : Post) : (written p).Represents p := by
  have hindexes : (written p).openIndexes = p.openedMarkups.map (position p.openedMarkups) :=
    openIndexes_sectionEntries 0 p.sections
  refine ⟨showsSections (fun u hu => hu) 0, rfl, ?_, ?_, rfl, ?_⟩
  · rw [hindexes, List.length_map]
  · have hzip : p.openedMarkups.zip (written p).openIndexes =
        p.openedMarkups.map fun u => (u, position p.openedMarkups u) := by
      rw [hindexes, ← List.zip_map', List.map_id']
    intro u i v j hu hv
    simp only [hzip, List.mem_map, Prod.mk.injEq] at hu hv
    obtain ⟨_, hu, rfl, rfl⟩ := hu
    obtain ⟨_, hv, rfl, rfl⟩ := hv
    exact position_inj hu hv
  · show (sectionEntries p.openedMarkups 0 p.sections).flatMap SectionEntry.cardIndexes = _
    rw [cardIndexes_sectionEntries, List.range_eq_range']
    simp [written, Post.cards]

/-! ## Parts of a document -/

theorem ofNode_eq (n : Node) :
    ofNode n = (Builder.handlers.runFrom 0 (nodeOpcodes n) {}).toExcept.map (·.doc) := by
  have hops : visitor.opcodes n = .ok (nodeOpcodes n).toArray := by
    simp [Visitor.opcodes, emits_node n #[], Outcome.toExcept]
  rw [ofNode, hops]
  rfl

/-- A section on its own is written like the post that holds it alone. -/
theorem ofNode_section (s : Section) : ofNode s.toNode = .ok (written ⟨[s]⟩) := by
  have hall : [] ++ s.openedMarkups <+: (Post.mk [s]).openedMarkups :=
    ⟨[], by simp [Post.openedMarkups]⟩
  obtain ⟨b, hb, hholds⟩ := Builder.Holds.section Builder.holds_empty hall 0
  have hops : nodeOpcodes s.toNode = sectionOpcodes s := by cases s <;> rfl
  have hdoc : b.doc = written ⟨[s]⟩ := by
    show Mobiledoc.mk b.doc.cards b.doc.markups b.doc.sections = written ⟨[s]⟩
    rw [hholds.cards, hholds.interned.markups, hholds.sections]
    simp [written, Post.openedMarkups, Post.cards, sectionEntries]
  rw [ofNode_eq, hops, hb]
  exact congrArg Except.ok hdoc

theorem ofNode_listItem (i : ListItem) :
    ofNode (.listItem i) = .error (.misplaced "openListItem" .noList) := by
  rw [ofNode_eq]
  rfl

theorem ofNode_marker (m : Marker) :
    ofNode (.marker m) = .error (.misplaced "openMarker" .noSection) := by
  rw [ofNode_eq]
  rfl

theorem ofNode_markup (m : Markup) :
    ofNode (.markup m) = .error (.misplaced "openMarkup" .noSection) := by
  have hrun : Builder.openMarkup (.str m.tagName) (.strings m.sortedAttributes) {} =
      .failed (.misplaced "openMarkup" .noSection) (Builder.intern {} m.entry).2 := by
    rw [Builder.openMarkup_eq]
    rfl
  rw [ofNode_eq]
  show ((Builder.openMarkup (.str m.tagName) (.strings m.sortedAttributes) {}).andThen
    _).toExcept.map _ = _
  rw [hrun]
  rfl

/-- **The writer is total on posts and loses nothing.** Visiting a post and running its opcodes on a
target in any state succeeds with a document that represents the post. A section gives the document
of the post that holds it alone; an item, a marker or a markup on its own is out of place. -/
theorem writer_represents :
    (∀ p b, ∃ ops b', visitor.opcodes (.post p) = .ok ops ∧
      Builder.handlers.run ops b = .ok b' ∧ b'.doc.Represents p) ∧
    (∀ s : Section, ∃ d, ofNode s.toNode = .ok d ∧ ofPost ⟨[s]⟩ = .ok d) ∧
    (∀ i, ofNode (.listItem i) = .error (.misplaced "openListItem" .noList)) ∧
    (∀ m, ofNode (.marker m) = .error (.misplaced "openMarker" .noSection)) ∧
    ∀ m, ofNode (.markup m) = .error (.misplaced "openMarkup" .noSection) := by
  refine ⟨fun p b => ?_, fun s => ?_, ofNode_listItem, ofNode_marker, ofNode_markup⟩
  · have hops : visitor.opcodes (.post p) = .ok (nodeOpcodes (.post p)).toArray := by
      simp [Visitor.opcodes, emits_node (.post p) #[], Outcome.toExcept]
    obtain ⟨b', hb', hdoc⟩ := run_post p b
    exact ⟨_, b', hops, hb', hdoc ▸ represents_written p⟩
  · exact ⟨_, ofNode_section s, ofPost_eq ⟨[s]⟩⟩

end RichText.Mobiledoc
