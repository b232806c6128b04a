import Mathlib.Data.List.Induction
import RichText.Mobiledoc.Render
import RichText.Proofs.Document.Names
import RichText.Proofs.Emission

/-!
# The Mobiledoc of a post

The target sees a flat stream and no closing opcodes. This file gives the document that comes out of
it by recursion on the post.

**The table of markups.** After entries `seen` were asked for, in this order and with repetitions,
the table is `seen.eraseDups`, and the index of the target knows the position of each entry in it
(`Builder.Interned`). Later requests only append to the table, so positions stay.

**The simulation.** `Builder.Holds` describes the target while a post is visited: the entries asked
for so far, the cards and the sections. Positions in the sections are those of the final table from
the start, which is why `all`, the entries of the whole post, occurs in every lemma. Each kind of
node has one lemma that says how its opcodes move this description on.

Main result: `Mobiledoc.ofPost_eq`.
-/

namespace RichText

/-! ## First uses -/

section FirstUses

variable {α : Type} [BEq α] [LawfulBEq α]

theorem eraseDups_concat (seen : List α) (a : α) :
    (seen ++ [a]).eraseDups =
      if a ∈ seen then seen.eraseDups else seen.eraseDups ++ [a] := by
  rw [List.eraseDups_append]
  by_cases h : a ∈ seen
  · simp [List.removeAll, h]
  · simp [List.removeAll, h, List.eraseDups_cons]

/-- An element keeps the position that it got when it was first used. -/
theorem idxOf_eraseDups_of_prefix {seen all : List α} (h : seen <+: all) {a : α} (ha : a ∈ seen) :
    all.eraseDups.idxOf a = seen.eraseDups.idxOf a := by
  obtain ⟨rest, rfl⟩ := h
  rw [List.eraseDups_append, List.idxOf_append, if_pos (List.mem_eraseDups.2 ha)]

/-- The first uses of images are the images of the first uses, if no two elements share an image. -/
theorem eraseDups_map {β : Type} [BEq β] [LawfulBEq β] {f : α → β} (hf : Function.Injective f)
    (as : List α) : (as.map f).eraseDups = as.eraseDups.map f := by
  induction as using List.reverseRecOn with
  | nil => rfl
  | append_singleton as a ih =>
    rw [List.map_append, List.map_singleton, eraseDups_concat, eraseDups_concat, ih]
    by_cases h : a ∈ as
    · rw [if_pos h, if_pos (List.mem_map_of_mem h)]
    · have hfa : f a ∉ as.map f := by simpa [hf.eq_iff] using h
      rw [if_neg h, if_neg hfa, List.map_append, List.map_singleton]

end FirstUses

/-! ## Entries -/

/-- The entry under which the table of markups keeps a markup. -/
def Markup.entry (m : Markup) : MarkupEntry := ⟨m.tagName, m.sortedAttributes⟩

theorem Markup.entry_injective : Function.Injective Markup.entry := fun m n h => by
  have he : m.tagName = n.tagName ∧ m.sortedAttributes = n.sortedAttributes := by
    simpa [entry] using h
  exact Markup.eq_of_flat he.1 he.2

namespace Mobiledoc

/-! ## The document of a post -/

/-- The position of a markup in the table, where `all` are the markups of the whole post. -/
def position (all : List Markup) (m : Markup) : Nat :=
  (all.map Markup.entry).eraseDups.idxOf m.entry

/-- A marker with its markups replaced by their positions. -/
def markerEntry (all : List Markup) (m : Marker) : MarkerEntry :=
  ⟨m.openedMarkups.map (position all), m.closedCount, m.value⟩

/-- A section, before which `k` cards stand. -/
def sectionEntry (all : List Markup) (k : Nat) : Section → SectionEntry
  | .markup s => .markup s.tagName (s.markers.map (markerEntry all))
  | .list s => .list s.tagName (s.items.map fun i => i.markers.map (markerEntry all))
  | .image s => .image s.src
  | .card _ => .card k

/-- Sections, before the first of which `k` cards stand. -/
def sectionEntries (all : List Markup) (k : Nat) : List Section → List SectionEntry
  | [] => []
  | s :: rest => sectionEntry all k s :: sectionEntries all (k + s.cards.length) rest

/-- The document with the sections of a post: every markup once, every card as often as it
stands. -/
def written (p : Post) : Mobiledoc where
  cards := p.cards.map fun c => (c.name, c.payload)
  markups := (p.openedMarkups.map Markup.entry).eraseDups
  sections := sectionEntries p.openedMarkups 0 p.sections

/-! ## The opcodes of a node -/

/-- The opcodes of a markup. -/
def markupOpcodes (m : Markup) : List Opcode :=
  [.binary "openMarkup" (.str m.tagName) (.strings m.sortedAttributes)]

/-- The opcodes of a marker. -/
def markerOpcodes (m : Marker) : List Opcode :=
  .binary "openMarker" (.nat m.closedCount) (.str m.value) :: m.openedMarkups.flatMap markupOpcodes

/-- The opcodes of a list item. -/
def itemOpcodes (i : ListItem) : List Opcode :=
  .nullary "openListItem" :: i.markers.flatMap markerOpcodes

/-- The opcodes of a section. -/
def sectionOpcodes : Section → List Opcode
  | .markup s => .unary "openMarkupSection" (.str s.tagName) :: s.markers.flatMap markerOpcodes
  | .list s => .unary "openListSection" (.str s.tagName) :: s.items.flatMap itemOpcodes
  | .image s => [.unary "openImageSection" (.str s.src)]
  | .card c => [.binary "openCardSection" (.str c.name) c.payload]

/-- The opcodes of a node. -/
def nodeOpcodes : Node → List Opcode
  | .post p => .nullary "openPost" :: p.sections.flatMap sectionOpcodes
  | .markupSection s => sectionOpcodes (.markup s)
  | .listSection s => sectionOpcodes (.list s)
  | .listItem i => itemOpcodes i
  | .imageSection s => sectionOpcodes (.image s)
  | .card c => sectionOpcodes (.card c)
  | .marker m => markerOpcodes m
  | .markup m => markupOpcodes m

theorem opening_opcodes {α : Type} (emitted : α → List Opcode) (o : Opcode) (children : List α) :
    (opening o children).flatMap (Visit.stepOpcodes emitted) = o :: children.flatMap emitted := by
  simp [opening, Visit.stepOpcodes]

theorem emits_markup : Visit.Emits visitor.visitMarkup markupOpcodes := Visit.emits_emit _

theorem emits_marker : Visit.Emits visitor.visitMarker markerOpcodes := fun m ops => by
  rw [markerOpcodes, ← opening_opcodes]
  exact emits_markup.steps _ ops

theorem emits_item : Visit.Emits visitor.visitItem itemOpcodes := fun i ops => by
  rw [itemOpcodes, ← opening_opcodes]
  exact emits_marker.steps _ ops

theorem emits_section : Visit.Emits visitor.visitSection sectionOpcodes := fun s ops => by
  cases s with
  | markup s =>
    rw [sectionOpcodes, ← opening_opcodes]
    exact emits_marker.steps _ ops
  | list s =>
    rw [sectionOpcodes, ← opening_opcodes]
    exact emits_item.steps _ ops
  | image s => rfl
  | card c => rfl

/-- Visiting never fails, for any node. -/
theorem emits_node : Visit.Emits visitor.visit nodeOpcodes := fun n ops => by
  cases n with
  | post p =>
    rw [nodeOpcodes, ← opening_opcodes]
    exact emits_section.steps _ ops
  | markupSection s => exact emits_section (.markup s) ops
  | listSection s => exact emits_section (.list s) ops
  | listItem i => exact emits_item i ops
  | imageSection s => exact emits_section (.image s) ops
  | card c => exact emits_section (.card c) ops
  | marker m => exact emits_marker m ops
  | markup m => exact emits_markup m ops

end Mobiledoc

namespace Builder

/-! ## The table of markups -/

/-- The table and its index, after the entries `seen` were asked for. -/
structure Interned (b : Builder) (seen : List MarkupEntry) : Prop where
  markups : b.doc.markups = seen.eraseDups
  index : ∀ e, b.index.lookup e = if e ∈ seen then some (seen.eraseDups.idxOf e) else none

theorem interned_empty : Interned {} [] := ⟨rfl, fun _ => rfl⟩

@[simp] theorem sections_intern (b : Builder) (e : MarkupEntry) :
    (b.intern e).2.doc.sections = b.doc.sections := by
  unfold intern
  split <;> rfl

@[simp] theorem cards_intern (b : Builder) (e : MarkupEntry) :
    (b.intern e).2.doc.cards = b.doc.cards := by
  unfold intern
  split <;> rfl

section Intern

variable {b : Builder} {seen : List MarkupEntry} {e : MarkupEntry}

/-- An entry that was asked for before is in the table, which stays as it is. -/
theorem Interned.intern_of_mem (h : b.Interned seen) (he : e ∈ seen) :
    b.intern e = (seen.eraseDups.idxOf e, b) ∧ b.Interned (seen ++ [e]) := by
  have hd : (seen ++ [e]).eraseDups = seen.eraseDups := by rw [eraseDups_concat, if_pos he]
  have hl : b.index.lookup e = some (seen.eraseDups.idxOf e) := by rw [h.index, if_pos he]
  refine ⟨by rw [Builder.intern, hl], h.markups.trans hd.symm, fun d => ?_⟩
  have hmem : d ∈ seen ++ [e] ↔ d ∈ seen := by
    simp only [List.mem_append, List.mem_singleton, or_iff_left_iff_imp]
    rintro rfl
    exact he
  simp only [h.index, hd, hmem]

/-- A new entry goes to the end of the table. -/
theorem Interned.intern_of_not_mem (h : b.Interned seen) (he : e ∉ seen) :
    (b.intern e).1 = (seen ++ [e]).eraseDups.idxOf e ∧ (b.intern e).2.Interned (seen ++ [e]) := by
  have hd : (seen ++ [e]).eraseDups = seen.eraseDups ++ [e] := by rw [eraseDups_concat, if_neg he]
  have hl : b.index.lookup e = none := by rw [h.index, if_neg he]
  have hi : b.intern e = (b.doc.markups.length,
      ⟨{ b.doc with markups := b.doc.markups ++ [e] },
        (e, b.doc.markups.length) :: b.index⟩) := by
    rw [Builder.intern, hl]
  have he' : e ∉ seen.eraseDups := fun hm => he (List.mem_eraseDups.1 hm)
  have hpos : (seen ++ [e]).eraseDups.idxOf e = b.doc.markups.length := by
    rw [hd, List.idxOf_append, if_neg he', h.markups]
    simp
  rw [hi]
  refine ⟨hpos.symm, by rw [hd, h.markups], fun d => ?_⟩
  -- the new pair stands in front of the index and hides nothing, since `e` was not in it
  by_cases hde : d = e
  · subst hde
    simp [hpos]
  · have hne : (d == e) = false := by simpa using hde
    rw [List.lookup_cons, hne]
    simp only [h.index, List.mem_append, List.mem_singleton, hde, or_false]
    by_cases hds : d ∈ seen
    · rw [if_pos hds, if_pos hds, idxOf_eraseDups_of_prefix (List.prefix_append seen [e]) hds]
    · rw [if_neg hds, if_neg hds]

/-- Asking for an entry gives its position among the first uses, and the table takes it in. -/
theorem Interned.intern (h : b.Interned seen) (e : MarkupEntry) :
    (b.intern e).1 = (seen ++ [e]).eraseDups.idxOf e ∧ (b.intern e).2.Interned (seen ++ [e]) := by
  by_cases he : e ∈ seen
  · obtain ⟨hi, hint⟩ := h.intern_of_mem he
    rw [hi, eraseDups_concat, if_pos he]
    exact ⟨rfl, hint⟩
  · exact h.intern_of_not_mem he

end Intern

/-! ## Where markers go -/

/-- The place of the markers of a block, or of the last item of a list after the items `before`. -/
inductive Slot where
  | block (tagName : String)
  | item (tagName : String) (before : List (List MarkerEntry))

/-- The section in which the place holds the markers. -/
def Slot.fill : Slot → List MarkerEntry → SectionEntry
  | block tagName, markers => .markup tagName markers
  | item tagName before, markers => .list tagName (before ++ [markers])

/-- New markers go to the place in the last section. -/
theorem updateMarkers_fill (opcode : String) (slot : Slot) (front : List SectionEntry)
    {f : List MarkerEntry → Except Error (List MarkerEntry)} {ms ms' : List MarkerEntry}
    (h : f ms = .ok ms') :
    updateMarkers opcode f (front ++ [slot.fill ms]) = .ok (front ++ [slot.fill ms']) := by
  cases slot <;> simp [Slot.fill, updateMarkers, h]

/-! ## The simulation -/

/-- The target while a post is visited: the markups asked for so far, the cards and the sections. -/
structure Holds (b : Builder) (seen : List Markup) (cards : List Card)
    (sections : List SectionEntry) : Prop where
  interned : b.Interned (seen.map Markup.entry)
  cards : b.doc.cards = cards.map fun c => (c.name, c.payload)
  sections : b.doc.sections = sections

theorem holds_empty : Holds {} [] [] [] := ⟨interned_empty, rfl, rfl⟩

/-- Adding a section leaves the table and the cards as they are. -/
theorem Holds.addSection {b : Builder} {seen : List Markup} {cards : List Card}
    {sections : List SectionEntry} (h : b.Holds seen cards sections) (s : SectionEntry) :
    (b.addSection s).Holds seen cards (sections ++ [s]) :=
  ⟨⟨h.interned.markups, h.interned.index⟩, h.cards, congrArg (· ++ [s]) h.sections⟩

theorem Holds.withSections {b : Builder} {seen : List Markup} {cards : List Card}
    {old new : List SectionEntry} (h : b.Holds seen cards old) :
    (b.withSections (.ok new)).Reaches (Holds · seen cards new) :=
  ⟨_, rfl, ⟨h.interned.markups, h.interned.index⟩, h.cards, rfl⟩

/-! ## One lemma for each kind of node -/

section Nodes

open Mobiledoc

variable {b : Builder} {all seen : List Markup} {cards : List Card} {front : List SectionEntry}
variable {slot : Slot} {ms : List MarkerEntry}

/-- An opcode of a markup asks for its entry, and the last marker opens it. -/
theorem openMarkup_eq (b : Builder) (m : Markup) :
    openMarkup (.str m.tagName) (.strings m.sortedAttributes) b =
      (b.intern m.entry).2.withSections
        (updateMarkers "openMarkup" (openAt (b.intern m.entry).1) b.doc.sections) := by
  rw [openMarkup, Param.pairs_sortedAttributes, ← sections_intern b m.entry]
  rfl

theorem Holds.markup {e : MarkerEntry} (h : b.Holds seen cards (front ++ [slot.fill (ms ++ [e])]))
    {m : Markup} (hall : seen ++ [m] <+: all) (index : Nat) :
    (handlers.runFrom index (markupOpcodes m) b).Reaches (Holds · (seen ++ [m]) cards
      (front ++ [slot.fill (ms ++ [{ e with opened := e.opened ++ [position all m] }])])) := by
  obtain ⟨hpos, hint⟩ := h.interned.intern m.entry
  have hseen : seen.map Markup.entry ++ [m.entry] = (seen ++ [m]).map Markup.entry := by simp
  rw [hseen] at hpos hint
  have hposAll : (b.intern m.entry).1 = position all m := by
    rw [hpos, position, idxOf_eraseDups_of_prefix (hall.map Markup.entry) (by simp)]
  have hopen : openAt (b.intern m.entry).1 (ms ++ [e]) =
      .ok (ms ++ [{ e with opened := e.opened ++ [position all m] }]) := by
    simp [openAt, hposAll]
  rw [markupOpcodes, HandlerTable.runFrom_singleton]
  show (openMarkup (.str m.tagName) (.strings m.sortedAttributes) b).Reaches _
  rw [openMarkup_eq, h.sections, updateMarkers_fill "openMarkup" slot front hopen]
  exact Holds.withSections ⟨hint, (cards_intern b m.entry).trans h.cards, rfl⟩

theorem Holds.marker (h : b.Holds seen cards (front ++ [slot.fill ms])) {m : Marker}
    (hall : seen ++ m.openedMarkups <+: all) (index : Nat) :
    (handlers.runFrom index (markerOpcodes m) b).Reaches (Holds · (seen ++ m.openedMarkups) cards
      (front ++ [slot.fill (ms ++ [markerEntry all m])])) := by
  have hadd : (handlers.step index
      (.binary "openMarker" (.nat m.closedCount) (.str m.value)) b).Reaches (Holds · seen cards
        (front ++ [slot.fill (ms ++ [⟨[], m.closedCount, m.value⟩])])) := by
    show (b.withSections (updateMarkers "openMarker" _ b.doc.sections)).Reaches _
    have hupd : updateMarkers "openMarker" (fun old => .ok (old ++ [⟨[], m.closedCount, m.value⟩]))
        (front ++ [slot.fill ms]) =
          .ok (front ++ [slot.fill (ms ++ [⟨[], m.closedCount, m.value⟩])]) :=
      updateMarkers_fill "openMarker" slot front rfl
    rw [h.sections, hupd]
    exact h.withSections
  refine hadd.andThen fun b' hb' => ?_
  -- the new marker stands last, and each opcode of a markup adds one position to it
  have loop := handlers.runFrom_flatMap markupOpcodes
    (P := fun done s => s.Holds (seen ++ done) cards
      (front ++ [slot.fill (ms ++ [⟨done.map (position all), m.closedCount, m.value⟩])]))
    m.openedMarkups
    (fun done u rest hd i s hs => by
      have hu : (seen ++ done) ++ [u] <+: all := by
        refine List.IsPrefix.trans ⟨rest, ?_⟩ hall
        simp [hd]
      simpa using Holds.markup hs hu i)
    (index + 1) (by simpa using hb')
  exact loop

/-- The markers of a block or of an item. -/
theorem Holds.markers (h : b.Holds seen cards (front ++ [slot.fill []])) {markers : List Marker}
    (hall : seen ++ openedBy markers <+: all) (index : Nat) :
    (handlers.runFrom index (markers.flatMap markerOpcodes) b).Reaches
      (Holds · (seen ++ openedBy markers) cards
        (front ++ [slot.fill (markers.map (markerEntry all))])) :=
  handlers.runFrom_flatMap markerOpcodes
    (P := fun done s => s.Holds (seen ++ openedBy done) cards
      (front ++ [slot.fill (done.map (markerEntry all))]))
    markers
    (fun done m rest hd i s hs => by
      have hm : (seen ++ openedBy done) ++ m.openedMarkups <+: all := by
        refine List.IsPrefix.trans ⟨openedBy rest, ?_⟩ hall
        simp [hd, openedBy]
      simpa [openedBy] using Holds.marker hs hm i)
    index (by simpa [openedBy] using h)

/-- An item goes to the end of the list that stands last. -/
theorem Holds.item {tag : String} {items : List (List MarkerEntry)}
    (h : b.Holds seen cards (front ++ [.list tag items])) {i : ListItem}
    (hall : seen ++ openedBy i.markers <+: all) (index : Nat) :
    (handlers.runFrom index (itemOpcodes i) b).Reaches (Holds · (seen ++ openedBy i.markers) cards
      (front ++ [.list tag (items ++ [i.markers.map (markerEntry all)])])) := by
  have hadd : (handlers.step index (.nullary "openListItem") b).Reaches
      (Holds · seen cards (front ++ [(Slot.item tag items).fill []])) := by
    show (openListItem b).Reaches _
    rw [openListItem, h.sections]
    simpa [Slot.fill] using h.withSections
  exact hadd.andThen fun b' hb' => Holds.markers hb' hall (index + 1)

/-- A section goes to the end. -/
theorem Holds.section {sections : List SectionEntry} (h : b.Holds seen cards sections) {s : Section}
    (hall : seen ++ s.openedMarkups <+: all) (index : Nat) :
    (handlers.runFrom index (sectionOpcodes s) b).Reaches
      (Holds · (seen ++ s.openedMarkups) (cards ++ s.cards)
        (sections ++ [sectionEntry all cards.length s])) := by
  cases s with
  | markup s =>
    have hadd : (b.addSection (.markup s.tagName [])).Holds seen cards
        (sections ++ [(Slot.block s.tagName).fill []]) := h.addSection _
    rw [show cards ++ (Section.markup s).cards = cards from List.append_nil cards]
    exact Holds.markers hadd hall (index + 1)
  | list s =>
    rw [show cards ++ (Section.list s).cards = cards from List.append_nil cards]
    exact handlers.runFrom_flatMap itemOpcodes
      (P := fun done t => t.Holds (seen ++ done.flatMap fun i => openedBy i.markers) cards
        (sections ++ [.list s.tagName (done.map fun i => i.markers.map (markerEntry all))]))
      s.items
      (fun done i rest hd index t ht => by
        have hi : (seen ++ done.flatMap fun i => openedBy i.markers) ++ openedBy i.markers <+:
            all := by
          refine List.IsPrefix.trans ⟨rest.flatMap fun i => openedBy i.markers, ?_⟩ hall
          simp [Section.openedMarkups, hd]
        simpa using Holds.item ht hi index)
      (index + 1) (s := b.addSection (.list s.tagName [])) (by simpa using h.addSection _)
  | image s =>
    rw [show seen ++ (Section.image s).openedMarkups = seen from List.append_nil seen,
      show cards ++ (Section.image s).cards = cards from List.append_nil cards]
    exact ⟨b.addSection (.image s.src), rfl, h.addSection _⟩
  | card c =>
    rw [show seen ++ (Section.card c).openedMarkups = seen from List.append_nil seen]
    refine ⟨_, rfl, ⟨h.interned.markups, h.interned.index⟩, ?_, ?_⟩
    · simp [Builder.addSection, Section.cards, h.cards]
    · simp [Builder.addSection, sectionEntry, h.sections, h.cards]

end Nodes

end Builder

namespace Mobiledoc

theorem sectionEntries_concat (all : List Markup) (k : Nat) (sections : List Section)
    (s : Section) :
    sectionEntries all k (sections ++ [s]) =
      sectionEntries all k sections ++
        [sectionEntry all (k + (sections.flatMap Section.cards).length) s] := by
  induction sections generalizing k with
  | nil => simp [sectionEntries]
  | cons t sections ih => simp [sectionEntries, ih, Nat.add_assoc]

/-- Whatever the target held before, a post leaves its own document in it. -/
theorem run_post (p : Post) (b : Builder) :
    (Builder.handlers.run (nodeOpcodes (.post p)).toArray b).Reaches (·.doc = written p) := by
  have loop := Builder.handlers.runFrom_flatMap sectionOpcodes
    (P := fun done t => t.Holds (done.flatMap Section.openedMarkups) (done.flatMap Section.cards)
      (sectionEntries p.openedMarkups 0 done))
    p.sections
    (fun done s rest hd index t ht => by
      have hs : done.flatMap Section.openedMarkups ++ s.openedMarkups <+: p.openedMarkups :=
        ⟨rest.flatMap Section.openedMarkups, by simp [Post.openedMarkups, hd]⟩
      simpa [sectionEntries_concat] using Builder.Holds.section ht hs index)
    1 (s := {}) Builder.holds_empty
  obtain ⟨t, ht, h⟩ := loop
  refine ⟨t, ht, ?_⟩
  show Mobiledoc.mk t.doc.cards t.doc.markups t.doc.sections = written p
  rw [h.cards, h.interned.markups, h.sections]
  rfl

/-- **Every post becomes a Mobiledoc**, the one given by recursion on the post. -/
theorem ofPost_eq (p : Post) : ofPost p = .ok (written p) := by
  obtain ⟨b, hb, hdoc⟩ := run_post p {}
  have hops : visitor.opcodes (.post p) = .ok (nodeOpcodes (.post p)).toArray := by
    simp [Visitor.opcodes, emits_node (.post p) #[], Outcome.toExcept]
  simp [ofPost, ofNode, hops, hb, hdoc, Outcome.toExcept, bind, Except.bind, pure, Except.pure]

end Mobiledoc

end RichText
