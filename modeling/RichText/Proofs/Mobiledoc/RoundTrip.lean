import Mathlib.Data.List.Basic
import RichText.Mobiledoc.Reader
import RichText.Proofs.Mobiledoc.Build

/-!
# Posts through Mobiledoc and back

A post is written as a Mobiledoc whose markups and cards stand in tables; the reader looks them up
again, lowers all tags and checks them against the lists of known names.

**Theorem (`roundTrip`).** Writing never fails. Reading gives the post back exactly if the post is
admissible. Otherwise it gives the post with its tags in lower case if that one is admissible, and
fails if not.

`Decides` describes a reader that either gives one value or fails, by the condition under which it
does the one or the other. It is carried from the entries of the tables to the whole document. Only
the table of markups and the tags of sections decide: all positions that the writer puts into
markers and card sections are found.
-/

namespace RichText

namespace MobiledocReader

/-! ## Readers that give one value or fail -/

section Decides

variable {α β : Type} {P Q : Prop} {a : α} {b : β}

/-- Reading gives `a` if `P` holds, and a fault otherwise. -/
def Decides (r : MobiledocResult α) (P : Prop) (a : α) : Prop :=
  (P → r = .ok a) ∧ (¬P → ∃ fault, r = .error fault)

theorem decides_ok (a : α) : Decides (.ok a) True a := ⟨fun _ => rfl, fun h => absurd trivial h⟩

theorem Decides.congr {r : MobiledocResult α} (h : Decides r P a) (hPQ : P ↔ Q) :
    Decides r Q a := by
  rwa [Decides, ← hPQ]

/-- Two readers in a row decide by both conditions. -/
theorem Decides.bind {r : MobiledocResult α} {k : α → MobiledocResult β} (h : Decides r P a)
    (hk : P → Decides (k a) Q b) : Decides (r >>= k) (P ∧ Q) b := by
  by_cases hP : P
  · rw [h.1 hP]
    exact (hk hP).congr (by simp [hP])
  · obtain ⟨fault, hr⟩ := h.2 hP
    exact ⟨fun hPQ => absurd hPQ.1 hP, fun _ => ⟨fault, by rw [hr]; rfl⟩⟩

theorem Decides.map {r : MobiledocResult α} (h : Decides r P a) (f : α → β) :
    Decides (r >>= fun a => pure (f a)) P (f a) :=
  (h.bind fun _ => decides_ok (f a)).congr (and_iff_left trivial)

/-- Items decide one by one. -/
theorem decides_eachFrom {γ : Type} {read : Nat → Json → MobiledocResult α} {toJson : γ → Json}
    {value : γ → α} {Ok : γ → Prop} (h : ∀ c i, Decides (read i (toJson c)) (Ok c) (value c))
    (cs : List γ) (i : Nat) :
    Decides (eachFrom read i (cs.map toJson)) (∀ c ∈ cs, Ok c) (cs.map value) := by
  induction cs generalizing i with
  | nil => exact (decides_ok []).congr (by simp)
  | cons c cs ih =>
    exact ((h c i).bind fun _ => (ih (i + 1)).map (value c :: ·)).congr (by simp)

end Decides

/-! ## The table of markups -/

theorem decides_attributes (place : MobiledocPlace) (done : Attributes)
    (pairs : List (String × String)) :
    Decides (attributes place done (pairs.flatMap fun e => [.str e.1, .str e.2]))
      (∀ e ∈ pairs, isAttributeName e.1 = true)
      (pairs.foldl (fun a p => a.insert p.1 p.2) done) := by
  induction pairs generalizing done with
  | nil => exact (decides_ok done).congr (by simp)
  | cons e pairs ih =>
    rw [List.flatMap_cons]
    show Decides (if isAttributeName e.1 then attributes place (done.insert e.1 e.2) _
      else .error (.attributeName place e.1)) _ _
    by_cases he : isAttributeName e.1 = true
    · rw [if_pos he]
      exact (ih (done.insert e.1 e.2)).congr (by simp [he])
    · rw [if_neg he]
      exact ⟨fun h => absurd (h e List.mem_cons_self) he, fun _ => ⟨_, rfl⟩⟩

theorem length_flat_even (pairs : List (String × String)) :
    (pairs.flatMap fun e => [Json.str e.1, Json.str e.2]).length % 2 = 0 := by
  induction pairs with
  | nil => rfl
  | cons e pairs ih =>
    rw [List.flatMap_cons, List.length_append]
    show (2 + _) % 2 = 0
    omega

/-- An entry without attributes holds nothing but its tag. -/
theorem toJson_entry_of_empty {m : Markup} (h : m.attributes.entries = []) :
    m.entry.toJson = .arr [.str m.tagName] := by
  simp [MarkupEntry.toJson, Markup.entry, Markup.sortedAttributes, Attributes.flatten, h]

theorem toJson_entry_of_ne_nil {m : Markup} (h : m.attributes.entries ≠ []) :
    m.entry.toJson = .arr [.str m.tagName,
      .arr (m.attributes.entries.flatMap fun e => [.str e.1, .str e.2])] := by
  have hflat : (m.attributes.entries.flatMap fun e => [e.1, e.2]).isEmpty = false := by
    obtain ⟨e, rest, hcons⟩ := List.exists_cons_of_ne_nil h
    rw [hcons]
    rfl
  simp only [MarkupEntry.toJson, Markup.entry, Markup.sortedAttributes, Attributes.flatten,
    hflat, strings_flatMap]
  rfl

/-- The entry of a markup is read as the markup in lower case. -/
theorem decides_markup (m : Markup) (i : Nat) :
    Decides (markup i m.entry.toJson) m.lowercased.Admissible m.lowercased := by
  by_cases htag : isMarkupTag (lowercase m.tagName) = true
  · by_cases hempty : m.attributes.entries = []
    · have hm : m.attributes = .empty := Attributes.ext hempty
      have hread : markup i m.entry.toJson = .ok m.lowercased := by
        rw [toJson_entry_of_empty hempty, Markup.lowercased, hm]
        exact if_pos htag
      rw [hread]
      exact (decides_ok _).congr (by simp [Markup.Admissible, Markup.lowercased, htag, hempty])
    · have hread : markup i m.entry.toJson = attributes (.markup i) .empty
          (m.attributes.entries.flatMap fun e => [.str e.1, .str e.2]) >>= fun as =>
            pure ⟨lowercase m.tagName, as⟩ := by
        rw [toJson_entry_of_ne_nil hempty]
        exact (if_pos htag).trans (if_pos (length_flat_even m.attributes.entries))
      have hattributes := decides_attributes (.markup i) .empty m.attributes.entries
      rw [show m.attributes.entries.foldl (fun a p => a.insert p.1 p.2) .empty = m.attributes from
        Attributes.ofPairs_entries m.attributes] at hattributes
      rw [hread]
      exact (hattributes.map (Markup.mk (lowercase m.tagName))).congr
        (by simp [Markup.Admissible, Markup.lowercased, htag])
  · refine ⟨fun h => absurd h.1 htag, fun _ => ?_⟩
    exact ⟨.unknownMarkupTag (.markup i) (lowercase m.tagName), if_neg htag⟩

/-! ## Sections -/

section Sections

variable {all : List Markup}

/-- The table of markups as it is read. -/
def markupsOf (all : List Markup) : List Markup := all.eraseDups.map Markup.lowercased

/-- Under the position of a markup stands that markup. -/
theorem getElem?_position {m : Markup} (hm : m ∈ all) :
    (markupsOf all)[Mobiledoc.position all m]? = some m.lowercased := by
  have hentry : m.entry ∈ (all.map Markup.entry).eraseDups :=
    List.mem_eraseDups.2 (List.mem_map_of_mem hm)
  have hget := List.getElem?_idxOf hentry
  have hmap := eraseDups_map Markup.entry_injective all
  rw [← Mobiledoc.position, hmap, List.getElem?_map, Option.map_eq_some_iff] at hget
  obtain ⟨n, hn, he⟩ := hget
  rw [markupsOf, List.getElem?_map, hn, Option.map_some, Markup.entry_injective he]

theorem markupAt_position (place : MobiledocPlace) {m : Markup} (hm : m ∈ all) :
    markupAt place (markupsOf all) (.nat (Mobiledoc.position all m)) = .ok m.lowercased := by
  have hget := getElem?_position hm
  simp [markupAt, index, hget, bind, Except.bind, pure, Except.pure]

theorem marker_markerEntry (place : MobiledocPlace) {m : Marker}
    (hm : ∀ u ∈ m.openedMarkups, u ∈ all) :
    marker place (markupsOf all) (Mobiledoc.markerEntry all m).toJson = .ok m.lowercased := by
  have hopened : ((m.openedMarkups.map (Mobiledoc.position all)).map Json.nat).mapM
      (markupAt place (markupsOf all)) = .ok (m.openedMarkups.map Markup.lowercased) := by
    rw [List.map_map]
    exact mapM_map_ok fun u hu => markupAt_position place (hm u hu)
  show textMarker place (markupsOf all) (.arr _) (.nat m.closedCount) (.str m.value) = _
  simp only [textMarker, array, Json.arr?_arr, bind, Except.bind, Mobiledoc.markerEntry, hopened]
  rfl

theorem markers_markersJson (place : MobiledocPlace) (ms : List Marker)
    (hms : ∀ u ∈ openedBy ms, u ∈ all) :
    markers place (markupsOf all) (markersJson (ms.map (Mobiledoc.markerEntry all))) =
      .ok (ms.map Marker.lowercased) := by
  show ((ms.map (Mobiledoc.markerEntry all)).map MarkerEntry.toJson).mapM _ = _
  rw [List.map_map]
  refine mapM_map_ok fun m hm => marker_markerEntry place fun u hu => hms u ?_
  exact List.mem_flatMap.2 ⟨m, hm, hu⟩

theorem decides_sectionTag (place : MobiledocPlace) (allowed : String → Bool) (kind : Json)
    (tag : String) (rest : List Json) :
    Decides (sectionTag place allowed (kind :: .str tag :: rest)) (allowed (lowercase tag) = true)
      (lowercase tag) := by
  refine ⟨fun h => ?_, fun h => ⟨.sectionTag place (lowercase tag), ?_⟩⟩
  · exact if_pos h
  · exact if_neg h

theorem items_itemsJson (place : MobiledocPlace) (items : List ListItem)
    (h : ∀ u ∈ items.flatMap fun i => openedBy i.markers, u ∈ all) :
    ((items.map fun i => i.markers.map (Mobiledoc.markerEntry all)).map markersJson).mapM
      (fun v => do return ⟨← markers place (markupsOf all) v⟩) =
        Except.ok (items.map ListItem.lowercased) := by
  rw [List.map_map]
  refine mapM_map_ok fun item hitem => ?_
  have hmarkers := markers_markersJson place item.markers
    fun u hu => h u (List.mem_flatMap.2 ⟨item, hitem, hu⟩)
  simp only [Function.comp_apply, hmarkers, bind, Except.bind]
  rfl

theorem sectionAt_card {cards : List Card} {k : Nat} {c : Card} (h : cards[k]? = some c)
    (i : Nat) :
    sectionAt ⟨markupsOf all, cards⟩ i (Mobiledoc.sectionEntry all k (.card c)).toJson =
      .ok (.card c) := by
  show sectionOfKind ⟨markupsOf all, cards⟩ (.sectionEntry i) [.nat 10, .nat k] 10 = _
  simp only [sectionOfKind, entry, index, bind, Except.bind, List.getElem?_cons_succ,
    List.getElem?_cons_zero, Json.nat?_nat, h]
  rfl

/-- A section is read as the section in lower case, if its tag is known then. -/
theorem decides_section {cards : List Card} {k : Nat} {s : Section}
    (hs : ∀ u ∈ s.openedMarkups, u ∈ all) (hcards : ∀ c ∈ s.cards, cards[k]? = some c) (i : Nat) :
    Decides (sectionAt ⟨markupsOf all, cards⟩ i (Mobiledoc.sectionEntry all k s).toJson)
      s.lowercased.HasKnownTag s.lowercased := by
  cases s with
  | markup s =>
    have hmarkers := markers_markersJson (.sectionEntry i) s.markers hs
    have htag := decides_sectionTag (.sectionEntry i) isMarkupSectionTag (.nat 1) s.tagName
      [markersJson (s.markers.map (Mobiledoc.markerEntry all))]
    refine (htag.bind fun _ => ?_).congr (and_iff_left trivial)
    show Decides (markers _ _ _ >>= fun ms => pure (Section.markup ⟨lowercase s.tagName, ms⟩)) _ _
    rw [hmarkers]
    exact decides_ok _
  | list s =>
    have hitems := items_itemsJson (.sectionEntry i) s.items hs
    have htag := decides_sectionTag (.sectionEntry i) isListSectionTag (.nat 3) s.tagName
      [.arr ((s.items.map fun i => i.markers.map (Mobiledoc.markerEntry all)).map markersJson)]
    refine (htag.bind fun _ => ?_).congr (and_iff_left trivial)
    show Decides (List.mapM _ _ >>= fun items =>
      pure (Section.list ⟨lowercase s.tagName, items⟩)) _ _
    rw [hitems]
    exact decides_ok _
  | image s => exact decides_ok _
  | card c =>
    rw [sectionAt_card (hcards c List.mem_cons_self)]
    exact decides_ok _

/-- Sections are read in order, if the table of cards goes on with theirs. -/
theorem decides_sections {cards before rest : List Card} {sections : List Section}
    (hs : ∀ s ∈ sections, ∀ u ∈ s.openedMarkups, u ∈ all)
    (hcards : cards = before ++ sections.flatMap Section.cards ++ rest) (i : Nat) :
    Decides (eachFrom (sectionAt ⟨markupsOf all, cards⟩) i
        ((Mobiledoc.sectionEntries all before.length sections).map SectionEntry.toJson))
      (∀ s ∈ sections, s.lowercased.HasKnownTag) (sections.map Section.lowercased) := by
  induction sections generalizing before i with
  | nil => exact (decides_ok []).congr (by simp)
  | cons s sections ih =>
    have hcard : ∀ c ∈ s.cards, cards[before.length]? = some c := by
      intro c hc
      cases s with
      | card d =>
        obtain rfl : c = d := by simpa [Section.cards] using hc
        simp [hcards, Section.cards]
      | _ => simp [Section.cards] at hc
    have hhead := decides_section (hs s List.mem_cons_self) hcard i
    -- a card section takes the next card, so the induction is over the cards before it, too
    have hrest : cards = (before ++ s.cards) ++ sections.flatMap Section.cards ++ rest := by
      simp [hcards]
    have htail := ih (fun t ht => hs t (List.mem_cons_of_mem _ ht)) hrest (i + 1)
    rw [List.length_append] at htail
    exact (hhead.bind fun _ => htail.map (s.lowercased :: ·)).congr (by simp)

end Sections

/-! ## Documents -/

theorem decides_tables (p : Post) :
    Decides (tables (Mobiledoc.written p).toJson) (∀ u ∈ p.openedMarkups, u.lowercased.Admissible)
      ⟨markupsOf p.openedMarkups, p.cards⟩ := by
  have hmarkups : Decides (table (Mobiledoc.written p).toJson "markups" .markups markup)
      (∀ u ∈ p.openedMarkups.eraseDups, u.lowercased.Admissible) (markupsOf p.openedMarkups) := by
    show Decides (eachFrom markup 0 (((p.openedMarkups.map Markup.entry).eraseDups).map _)) _ _
    rw [eraseDups_map Markup.entry_injective, List.map_map]
    exact decides_eachFrom decides_markup p.openedMarkups.eraseDups 0
  have hcards : Decides (table (Mobiledoc.written p).toJson "cards" .cards card)
      (∀ c ∈ p.cards, True) p.cards := by
    show Decides (eachFrom card 0 ((p.cards.map fun c => (c.name, c.payload)).map fun c =>
      .arr [.str c.1, c.2])) _ _
    rw [List.map_map]
    have hcard : ∀ (c : Card) i, Decides (card i (.arr [.str c.name, c.payload])) True (id c) :=
      fun c i => decides_ok c
    have h := decides_eachFrom hcard p.cards 0
    rwa [List.map_id] at h
  refine (hmarkups.bind fun _ => hcards.map (Tables.mk _)).congr ?_
  simp

/-- The document of a post is read as the post in lower case, if that is admissible. -/
theorem decides_document (p : Post) :
    Decides (document (Mobiledoc.written p).toJson) p.lowercased.Admissible p.lowercased := by
  have hopened : ∀ s ∈ p.sections, ∀ u ∈ s.openedMarkups, u ∈ p.openedMarkups :=
    fun s hs u hu => List.mem_flatMap.2 ⟨s, hs, hu⟩
  have hcards : p.cards = [] ++ p.sections.flatMap Section.cards ++ [] :=
    (List.append_nil _).symm
  have hsections := decides_sections hopened hcards 0
  show Decides (tables _ >>= fun t =>
    eachFrom (sectionAt t) 0 _ >>= fun ss => pure (Post.mk ss)) _ _
  refine ((decides_tables p).bind fun _ => hsections.map Post.mk).congr ?_
  rw [Post.admissible_iff, Post.openedMarkups_lowercased, Post.lowercased, List.forall_mem_map,
    List.forall_mem_map, and_comm]

end MobiledocReader

namespace Mobiledoc

theorem ofMobiledoc_written_of_admissible {p : Post} (h : p.lowercased.Admissible) :
    Post.ofMobiledoc (written p).toJson = .ok p.lowercased := by
  rw [Post.ofMobiledoc, (MobiledocReader.decides_document p).1 h]
  rfl

theorem ofMobiledoc_written_of_not_admissible {p : Post} (h : ¬p.lowercased.Admissible) :
    ∃ fault, Post.ofMobiledoc (written p).toJson = .error (.invalidMobiledoc fault) := by
  obtain ⟨fault, hfault⟩ := (MobiledocReader.decides_document p).2 h
  exact ⟨fault, by rw [Post.ofMobiledoc, hfault]; rfl⟩

/-- An admissible post comes back as it was. -/
theorem ofMobiledoc_written {p : Post} (h : p.Admissible) :
    Post.ofMobiledoc (written p).toJson = .ok p := by
  have hl := Post.lowercased_of_admissible h
  rw [ofMobiledoc_written_of_admissible (hl.symm ▸ h), hl]

/-- **The round trip.** Every post is written as a Mobiledoc. It is read back as it was exactly if
it is admissible; if it is not, then it is read in lower case where that is admissible, and is
refused as no Mobiledoc where it is not. -/
theorem roundTrip (p : Post) :
    ∃ d, ofPost p = .ok d ∧
      (Post.ofMobiledoc d.toJson = .ok p ↔ p.Admissible) ∧
      (¬p.Admissible → p.lowercased.Admissible → Post.ofMobiledoc d.toJson = .ok p.lowercased) ∧
      (¬p.Admissible → ¬p.lowercased.Admissible →
        ∃ fault, Post.ofMobiledoc d.toJson = .error (.invalidMobiledoc fault)) := by
  refine ⟨written p, ofPost_eq p, ⟨fun h => ?_, fun h => ?_⟩, ?_, ?_⟩
  · by_cases hl : p.lowercased.Admissible
    · rw [ofMobiledoc_written_of_admissible hl] at h
      rwa [Except.ok.inj h] at hl
    · obtain ⟨fault, hfault⟩ := ofMobiledoc_written_of_not_admissible hl
      rw [hfault] at h
      cases h
  · exact ofMobiledoc_written h
  · exact fun _ hl => ofMobiledoc_written_of_admissible hl
  · exact fun _ hl => ofMobiledoc_written_of_not_admissible hl

end Mobiledoc

end RichText
