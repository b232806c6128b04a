import Mathlib.Data.List.Nodup
import RichText.Proofs.Mobiledoc.Build

/-!
# The tables of the Mobiledoc target

The target runs any opcodes whatsoever: names without a handler, parameters of any shape, opcodes
out of place, documents that start again in the middle. This file says what its tables are like
after each of these runs.

**Theorem (`run_consistent`).** After a run that succeeds, the entries of the table of markups are
distinct, the index maps each entry to its position and nothing else, and the markers use the
entries in the order of the table, all of them. The card sections refer to the entries of the table
of cards one by one. After a run that fails the same holds, but the last entry may be one that no
marker uses.

The proof counts requests. `Tracks` says that the entries `asked` were asked for one after another
and that the indexes of all markers, in reading order, are the positions of the entries `opened`.
Between two opcodes these are the same list. An opcode that asks for an entry and then finds no
marker for it makes the first list one longer than the second, and ends the run.
-/

namespace RichText

/-! ## Indexes in reading order -/

/-- The indexes by which markers refer to the table of markups. -/
def indexesOf (ms : List MarkerEntry) : List Nat := ms.flatMap (·.opened)

/-- The indexes of a section in the table of markups, item by item and marker by marker. -/
def SectionEntry.openIndexes : SectionEntry → List Nat
  | .markup _ markers => indexesOf markers
  | .list _ items => items.flatMap indexesOf
  | .image _ => []
  | .card _ => []

/-- The index of a section in the table of cards, if it is a card. -/
def SectionEntry.cardIndexes : SectionEntry → List Nat
  | .card index => [index]
  | _ => []

/-- The indexes of a document in the table of markups. -/
def Mobiledoc.openIndexes (d : Mobiledoc) : List Nat :=
  d.sections.flatMap SectionEntry.openIndexes

/-- The indexes of a document in the table of cards. -/
def Mobiledoc.cardIndexes (d : Mobiledoc) : List Nat :=
  d.sections.flatMap SectionEntry.cardIndexes

/-! ## Positions of first uses -/

section Positions

variable {α : Type} [BEq α] [LawfulBEq α]

theorem nodup_eraseDups (seen : List α) : seen.eraseDups.Nodup := by
  induction seen using List.reverseRecOn with
  | nil => exact List.nodup_nil
  | append_singleton seen a ih =>
    rw [eraseDups_concat]
    split
    · exact ih
    · rename_i ha
      refine List.nodup_append.2 ⟨ih, List.nodup_singleton a, ?_⟩
      intro b hb c hc
      rw [List.mem_singleton.1 hc]
      rintro rfl
      exact ha (List.mem_eraseDups.1 hb)

/-- Where each of the elements stands among the first uses. -/
def positions (seen : List α) : List Nat := seen.map seen.eraseDups.idxOf

theorem positions_concat (seen : List α) (a : α) :
    positions (seen ++ [a]) = positions seen ++ [(seen ++ [a]).eraseDups.idxOf a] := by
  have hold : seen.map (seen ++ [a]).eraseDups.idxOf = positions seen := by
    refine List.map_congr_left fun b hb => ?_
    exact idxOf_eraseDups_of_prefix (List.prefix_append seen [a]) hb
  rw [positions, List.map_append, hold, List.map_singleton]

/-- **First uses are numbered in order**: zero, one, two, and so on. -/
theorem eraseDups_positions (seen : List α) :
    (positions seen).eraseDups = List.range seen.eraseDups.length := by
  induction seen using List.reverseRecOn with
  | nil => rfl
  | append_singleton seen a ih =>
    rw [positions_concat, eraseDups_concat, eraseDups_concat, ih]
    by_cases ha : a ∈ seen
    · -- the position of an element that occurred before occurred before, too
      have hmem : seen.eraseDups.idxOf a ∈ positions seen := List.mem_map_of_mem ha
      rw [if_pos ha, if_pos hmem]
    · have hlast : (seen.eraseDups ++ [a]).idxOf a = seen.eraseDups.length := by
        rw [List.idxOf_append, if_neg fun h => ha (List.mem_eraseDups.1 h)]
        simp
      have hnew : seen.eraseDups.length ∉ positions seen := by
        intro h
        obtain ⟨b, hb, hidx⟩ := List.mem_map.1 h
        have hlt := List.idxOf_lt_length_of_mem (List.mem_eraseDups.2 hb)
        omega
      rw [if_neg ha, hlast, if_neg hnew, List.length_append, List.length_singleton,
        List.range_succ]

end Positions

namespace Builder

/-! ## Consistent tables -/

/-- The tables fit each other and the markers, which use the first `used` entries of the table of
markups. -/
structure Consistent (b : Builder) (used : Nat) : Prop where
  distinct : b.doc.markups.Nodup
  index : ∀ e i, b.index.lookup e = some i ↔ b.doc.markups[i]? = some e
  inTable : ∀ i ∈ b.doc.openIndexes, i < b.doc.markups.length
  firstUses : b.doc.openIndexes.eraseDups = List.range used
  cards : b.doc.cardIndexes = List.range b.doc.cards.length

/-- The entries `asked` were asked for, in this order, and markers open the entries `opened`. -/
structure Tracks (b : Builder) (asked opened : List MarkupEntry) : Prop where
  interned : b.Interned asked
  opened_prefix : opened <+: asked
  indexes : b.doc.openIndexes = positions opened
  cards : b.doc.cardIndexes = List.range b.doc.cards.length

section Tracks

variable {b : Builder} {asked opened : List MarkupEntry}

theorem Interned.lookup_eq_some_iff (h : b.Interned asked) (e : MarkupEntry) (i : Nat) :
    b.index.lookup e = some i ↔ b.doc.markups[i]? = some e := by
  rw [h.index, h.markups]
  constructor
  · intro hi
    split at hi
    · rename_i he
      obtain rfl := Option.some.inj hi
      exact List.getElem?_idxOf (List.mem_eraseDups.2 he)
    · cases hi
  · intro hi
    obtain ⟨hlt, rfl⟩ := List.getElem?_eq_some_iff.1 hi
    have he : asked.eraseDups[i] ∈ asked := List.mem_eraseDups.1 (List.getElem_mem hlt)
    rw [if_pos he, (nodup_eraseDups asked).idxOf_getElem i hlt]

theorem Tracks.consistent (h : b.Tracks asked opened) :
    b.Consistent opened.eraseDups.length := by
  have hfirst : b.doc.openIndexes.eraseDups = List.range opened.eraseDups.length := by
    rw [h.indexes, eraseDups_positions]
  have hle : opened.eraseDups.length ≤ b.doc.markups.length := by
    obtain ⟨rest, hrest⟩ := h.opened_prefix
    rw [h.interned.markups, ← hrest, List.eraseDups_append, List.length_append]
    omega
  refine ⟨?_, h.interned.lookup_eq_some_iff, fun i hi => ?_, hfirst, h.cards⟩
  · rw [h.interned.markups]
    exact nodup_eraseDups asked
  · have hi' : i ∈ List.range opened.eraseDups.length := hfirst ▸ List.mem_eraseDups.2 hi
    exact Nat.lt_of_lt_of_le (List.mem_range.1 hi') hle

end Tracks

/-! ## Changing sections -/

/-- The indexes that stand before those of a place for markers, in the same section. -/
def Slot.indexesBefore : Slot → List Nat
  | block _ => []
  | item _ before => before.flatMap indexesOf

theorem openIndexes_fill (slot : Slot) (ms : List MarkerEntry) :
    (slot.fill ms).openIndexes = slot.indexesBefore ++ indexesOf ms := by
  cases slot <;> simp [Slot.fill, Slot.indexesBefore, SectionEntry.openIndexes]

theorem cardIndexes_fill (slot : Slot) (ms : List MarkerEntry) :
    (slot.fill ms).cardIndexes = [] := by
  cases slot <;> rfl

/-- Markers are only ever changed in the last place. -/
theorem exists_slot_of_updateMarkers {opcode : String}
    {f : List MarkerEntry → Except Error (List MarkerEntry)} {sections new : List SectionEntry}
    (h : updateMarkers opcode f sections = .ok new) :
    ∃ front slot ms ms', sections = front ++ [Slot.fill slot ms] ∧ f ms = .ok ms' ∧
      new = front ++ [slot.fill ms'] := by
  unfold updateMarkers at h
  split at h
  · rename_i tag ms hlast
    obtain ⟨front, rfl⟩ := List.getLast?_eq_some_iff.1 hlast
    obtain ⟨ms', hms, hnew⟩ := bind_eq_ok_iff.1 h
    cases hnew
    exact ⟨front, .block tag, ms, ms', rfl, hms, by simp [Slot.fill]⟩
  · rename_i tag items hlast
    obtain ⟨front, rfl⟩ := List.getLast?_eq_some_iff.1 hlast
    split at h
    · rename_i ms hitem
      obtain ⟨before, rfl⟩ := List.getLast?_eq_some_iff.1 hitem
      obtain ⟨ms', hms, hnew⟩ := bind_eq_ok_iff.1 h
      cases hnew
      exact ⟨front, .item tag before, ms, ms', rfl, hms, by simp [Slot.fill]⟩
    · cases h
  · cases h

/-- If the markers in the last place get more indexes, then these are the last of the document. -/
theorem indexes_of_updateMarkers {opcode : String} {added : List Nat}
    {f : List MarkerEntry → Except Error (List MarkerEntry)} {sections new : List SectionEntry}
    (hf : ∀ ms ms', f ms = .ok ms' → indexesOf ms' = indexesOf ms ++ added)
    (h : updateMarkers opcode f sections = .ok new) :
    new.flatMap SectionEntry.openIndexes =
        sections.flatMap SectionEntry.openIndexes ++ added ∧
      new.flatMap SectionEntry.cardIndexes = sections.flatMap SectionEntry.cardIndexes := by
  obtain ⟨front, slot, ms, ms', rfl, hms, rfl⟩ := exists_slot_of_updateMarkers h
  constructor
  · simp only [List.flatMap_append, List.flatMap_singleton, openIndexes_fill, hf ms ms' hms,
      List.append_assoc]
  · simp only [List.flatMap_append, List.flatMap_singleton, cardIndexes_fill]

/-! ## Single opcodes -/

/-- Between two opcodes, the entries asked for are those that markers open. -/
def Settled (b : Builder) : Prop := ∃ asked, b.Tracks asked asked

/-- After a failure, the entry asked for last may be one that no marker opens. -/
def Stopped (b : Builder) : Prop :=
  ∃ asked opened, b.Tracks asked opened ∧ asked.length ≤ opened.length + 1

section Steps

variable {b : Builder} {asked opened : List MarkupEntry}

theorem settled_empty : Settled {} := ⟨[], interned_empty, List.prefix_refl [], rfl, rfl⟩

theorem Settled.stopped (h : b.Settled) : b.Stopped := by
  obtain ⟨asked, ht⟩ := h
  exact ⟨asked, asked, ht, Nat.le_succ _⟩

theorem Tracks.setSections (h : b.Tracks asked opened) {opened' : List MarkupEntry}
    {new : List SectionEntry} (hopened : opened' <+: asked)
    (hindexes : new.flatMap SectionEntry.openIndexes = positions opened')
    (hcards : new.flatMap SectionEntry.cardIndexes = List.range b.doc.cards.length) :
    Tracks { b with doc := { b.doc with sections := new } } asked opened' :=
  ⟨⟨h.interned.markups, h.interned.index⟩, hopened, hindexes, hcards⟩

theorem settled_addSection (h : b.Settled) {s : SectionEntry} (hopen : s.openIndexes = [])
    (hcard : s.cardIndexes = []) : (b.addSection s).Settled := by
  obtain ⟨asked, ht⟩ := h
  refine ⟨asked, ht.setSections (List.prefix_refl asked) ?_ ?_⟩
  · rw [List.flatMap_append, List.flatMap_singleton, hopen, List.append_nil]
    exact ht.indexes
  · rw [List.flatMap_append, List.flatMap_singleton, hcard, List.append_nil]
    exact ht.cards

theorem ends_openListItem (h : b.Settled) : (openListItem b).Ends Settled Stopped := by
  refine Outcome.ends_given h.stopped fun new hnew => ?_
  obtain ⟨asked, ht⟩ := h
  split at hnew
  · rename_i tag items hlast
    obtain ⟨front, hfront⟩ := List.getLast?_eq_some_iff.1 hlast
    have hopen := ht.indexes
    have hcards := ht.cards
    simp only [Mobiledoc.openIndexes, Mobiledoc.cardIndexes, hfront] at hopen hcards
    cases hnew
    rw [hfront, List.dropLast_concat]
    refine ⟨asked, ht.setSections (List.prefix_refl asked) ?_ ?_⟩
    · rw [← hopen]
      simp [SectionEntry.openIndexes, indexesOf]
    · rw [← hcards]
      simp [SectionEntry.cardIndexes]
  · cases hnew

theorem ends_openCardSection (h : b.Settled) (name payload : Json) :
    (openCardSection name payload b).Ends Settled Stopped := by
  refine Outcome.ends_given h.stopped fun text _ => ?_
  obtain ⟨asked, ht⟩ := h
  refine ⟨asked, ⟨ht.interned.markups, ht.interned.index⟩, List.prefix_refl asked, ?_, ?_⟩
  · have hopen := ht.indexes
    simpa [addSection, Mobiledoc.openIndexes, SectionEntry.openIndexes] using hopen
  · have hcards := ht.cards
    simp only [Mobiledoc.cardIndexes] at hcards
    simp [addSection, Mobiledoc.cardIndexes, SectionEntry.cardIndexes, hcards, List.range_succ]

theorem ends_openMarker (h : b.Settled) (closed value : Json) :
    (openMarker closed value b).Ends Settled Stopped := by
  refine Outcome.ends_given h.stopped fun n _ => ?_
  refine Outcome.ends_given h.stopped fun text _ => ?_
  refine Outcome.ends_given h.stopped fun new hnew => ?_
  obtain ⟨asked, ht⟩ := h
  -- a new marker has no indexes yet
  have hadd : ∀ ms ms', (Except.ok (ms ++ [⟨[], n, text⟩]) : Except Error _) = .ok ms' →
      indexesOf ms' = indexesOf ms ++ [] := by
    intro ms ms' hms
    cases hms
    simp [indexesOf]
  obtain ⟨hopen, hcards⟩ := indexes_of_updateMarkers hadd hnew
  rw [List.append_nil] at hopen
  exact ⟨asked, ht.setSections (List.prefix_refl asked) (hopen.trans ht.indexes)
    (hcards.trans ht.cards)⟩

/-- The last marker gets one index more. -/
theorem indexesOf_openAt {i : Nat} {ms ms' : List MarkerEntry} (h : openAt i ms = .ok ms') :
    indexesOf ms' = indexesOf ms ++ [i] := by
  unfold openAt at h
  split at h
  · rename_i m hlast
    obtain ⟨front, rfl⟩ := List.getLast?_eq_some_iff.1 hlast
    cases h
    simp [indexesOf]
  · cases h

/-- An entry that is asked for is in the table, whether or not it finds its marker. -/
theorem ends_openMarkup (h : b.Settled) (tagName attributes : Json) :
    (openMarkup tagName attributes b).Ends Settled Stopped := by
  refine Outcome.ends_given h.stopped fun tag _ => ?_
  refine Outcome.ends_given h.stopped fun pairs _ => ?_
  obtain ⟨asked, ht⟩ := h
  obtain ⟨hpos, hint⟩ := ht.interned.intern ⟨tag, pairs.flatMap fun e => [e.1, e.2]⟩
  generalize (⟨tag, pairs.flatMap fun e => [e.1, e.2]⟩ : MarkupEntry) = e at hpos hint
  have hasked : (b.intern e).2.Tracks (asked ++ [e]) asked := by
    refine ⟨hint, List.prefix_append asked [e], ?_, ?_⟩
    · simpa only [Mobiledoc.openIndexes, sections_intern] using ht.indexes
    · simpa only [Mobiledoc.cardIndexes, sections_intern, cards_intern] using ht.cards
  have hstopped : (b.intern e).2.Stopped := ⟨asked ++ [e], asked, hasked, by simp⟩
  refine Outcome.ends_given hstopped fun new hnew => ?_
  obtain ⟨hopen, hcards⟩ := indexes_of_updateMarkers (fun ms ms' => indexesOf_openAt) hnew
  refine ⟨asked ++ [e], hasked.setSections (List.prefix_refl _) ?_ (hcards.trans hasked.cards)⟩
  rw [positions_concat, ← hpos, ← hasked.indexes]
  exact hopen

end Steps

/-! ## Runs -/

theorem entries_handlers : handlers.entries = [
    ("openMarkup", .binary openMarkup),
    ("openMarker", .binary openMarker),
    ("openCardSection", .binary openCardSection),
    ("openImageSection", .unary openImageSection),
    ("openListItem", .nullary openListItem),
    ("openListSection", .unary openListSection),
    ("openMarkupSection", .unary openMarkupSection),
    ("openPost", .nullary openPost)] := by
  rfl

/-- No opcode upsets the tables. -/
theorem ends_step {b : Builder} (index : Nat) (o : Opcode) (h : b.Settled) :
    (handlers.step index o b).Ends Settled Stopped := by
  have hdispatched := handlers.dispatched_step index o b
  generalize handlers.step index o b = outcome at hdispatched
  cases hdispatched with
  | refused e => exact h.stopped
  | nullary hmem _ =>
    simp [entries_handlers] at hmem
    rcases hmem with ⟨_, rfl⟩ | ⟨_, rfl⟩
    · exact ends_openListItem h
    · exact settled_empty
  | unary hmem _ =>
    simp [entries_handlers] at hmem
    rcases hmem with ⟨_, rfl⟩ | ⟨_, rfl⟩ | ⟨_, rfl⟩
    all_goals exact Outcome.ends_given h.stopped fun text _ => settled_addSection h rfl rfl
  | binary hmem _ =>
    simp [entries_handlers] at hmem
    rcases hmem with ⟨_, rfl⟩ | ⟨_, rfl⟩ | ⟨_, rfl⟩
    · exact ends_openMarkup h _ _
    · exact ends_openMarker h _ _
    · exact ends_openCardSection h _ _
  | variadic hmem => simp [entries_handlers] at hmem

theorem Stopped.consistent {b : Builder} (h : b.Stopped) :
    ∃ used, b.Consistent used ∧ b.doc.markups.length ≤ used + 1 := by
  obtain ⟨asked, opened, ht, hle⟩ := h
  refine ⟨opened.eraseDups.length, ht.consistent, ?_⟩
  obtain ⟨rest, rfl⟩ := ht.opened_prefix
  rw [ht.interned.markups]
  rcases rest with _ | ⟨e, rest⟩
  · simp
  · have hrest : rest = [] := by simpa using hle
    rw [hrest, eraseDups_concat]
    split <;> simp

/-- **The tables are consistent after every run.** Whatever the opcodes are, after a run that
succeeds every entry of the table of markups is used; after one that fails the last entry may be
unused. -/
theorem run_consistent (ops : Opcodes) :
    (handlers.run ops {}).Ends (fun b => b.Consistent b.doc.markups.length)
      (fun b => ∃ used, b.Consistent used ∧ b.doc.markups.length ≤ used + 1) := by
  have hrun := handlers.runFrom_ends (P := Settled) (Q := Stopped)
    (fun index o _ => ends_step index o) ops.toList 0 settled_empty
  show (handlers.runFrom 0 ops.toList {}).Ends _ _
  cases hout : handlers.runFrom 0 ops.toList {} with
  | ok b =>
    rw [hout] at hrun
    obtain ⟨asked, ht⟩ := hrun
    have hused := ht.consistent
    rw [← ht.interned.markups] at hused
    exact hused
  | failed e b =>
    rw [hout] at hrun
    exact Stopped.consistent hrun

end Builder

end RichText
