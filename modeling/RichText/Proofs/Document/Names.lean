import RichText.Document.Admissible
import RichText.Opcode.Param

/-!
# Attributes and known names

Attributes travel between a document, an opcode and a file as one list of names and values in turn.

* `Attributes.ofPairs_entries`: setting the entries one after another gives the map back.
* `Attributes.insert_comm`: different attributes may be set in either order.
* `Param.pairsOf?_strings`: a handler reads the entries off the flat list.
* `Markup.eq_of_flat`: two markups with the same tag and the same flat list are equal.

Known tags are in lower case, so lowering the tags of an admissible document changes nothing
(`Post.lowercased_of_admissible`).
-/

namespace RichText

/-! ## The entries in order -/

/-- An entry whose name comes after all others goes to the end. -/
theorem insertEntry_eq_append {key value : String} {entries : List (String × String)}
    (h : ∀ e ∈ entries, e.1 < key) : insertEntry key value entries = entries ++ [(key, value)] := by
  induction entries with
  | nil => rfl
  | cons head rest ih =>
    obtain ⟨k, v⟩ := head
    have hk : k < key := h (k, v) List.mem_cons_self
    have hne : key ≠ k := fun he => String.lt_irrefl k (he ▸ hk)
    rw [insertEntry, if_neg (String.lt_asymm hk), if_neg hne,
      ih fun e he => h e (List.mem_cons_of_mem _ he)]
    rfl

/-- Different names may be put in their places in either order. -/
theorem insertEntry_comm {k l : String} (h : k ≠ l) (v w : String)
    (entries : List (String × String)) :
    insertEntry k v (insertEntry l w entries) = insertEntry l w (insertEntry k v entries) := by
  induction entries with
  | nil => grind [insertEntry]
  | cons e entries ih => grind [insertEntry]

namespace Attributes

theorem insert_comm {k l : String} (h : k ≠ l) (v w : String) (a : Attributes) :
    (a.insert k v).insert l w = (a.insert l w).insert k v :=
  ext (insertEntry_comm (Ne.symm h) w v a.entries)

theorem entries_foldl_insert (a : Attributes) (entries : List (String × String))
    (h : NamesIncrease (a.entries ++ entries)) :
    (entries.foldl (fun a p => a.insert p.1 p.2) a).entries = a.entries ++ entries := by
  induction entries generalizing a with
  | nil => simp
  | cons e entries ih =>
    have hlast : ∀ d ∈ a.entries, d.1 < e.1 := fun d hd =>
      (List.pairwise_append.1 h).2.2 d hd e List.mem_cons_self
    have hins : (a.insert e.1 e.2).entries = a.entries ++ [e] := insertEntry_eq_append hlast
    rw [List.foldl_cons, ih (a.insert e.1 e.2) (by rw [hins]; simpa using h), hins]
    simp

/-- **Setting the entries of a map one after another gives the map.** -/
theorem ofPairs_entries (a : Attributes) : ofPairs a.entries = a :=
  ext (entries_foldl_insert empty a.entries a.increasing)

/-- An entry of the map was set. -/
theorem mem_of_mem_ofPairs {pairs : List (String × String)} {e : String × String}
    (h : e ∈ (ofPairs pairs).entries) : e ∈ pairs := by
  suffices hset : ∀ (a : Attributes), e ∈ (pairs.foldl (fun a p => a.insert p.1 p.2) a).entries →
      e ∈ a.entries ∨ e ∈ pairs by
    exact (hset empty h).resolve_left (by simp)
  clear h
  induction pairs with
  | nil => exact fun a h => .inl h
  | cons p pairs ih =>
    intro a h
    rcases ih _ h with h | h
    · rcases mem_insertEntry h with rfl | h
      · exact .inr List.mem_cons_self
      · exact .inl h
    · exact .inr (List.mem_cons_of_mem p h)

end Attributes

/-! ## The flat form -/

/-- Names and values in turn, as values. -/
theorem strings_flatMap (pairs : List (String × String)) :
    Json.strings (pairs.flatMap fun e => [e.1, e.2]) =
      .arr (pairs.flatMap fun e => [.str e.1, .str e.2]) := by
  simp [Json.strings, List.map_flatMap]

namespace Param

theorem pairsOf?_strings (pairs : List (String × String)) :
    pairsOf? (pairs.flatMap fun e => [.str e.1, .str e.2]) = some pairs := by
  induction pairs with
  | nil => rfl
  | cons e rest ih => simp [pairsOf?, ih]

/-- A handler that asks for pairs reads the attributes of a markup. -/
theorem pairs_sortedAttributes (m : Markup) (index : Nat) :
    pairs (.strings m.sortedAttributes) index = .ok m.attributes.entries := by
  simp [pairs, Markup.sortedAttributes, Attributes.flatten, strings_flatMap, Json.arr?,
    pairsOf?_strings]

end Param

/-- The flat form determines the pairs. -/
theorem flatMap_pairs_injective {ps qs : List (String × String)}
    (h : (ps.flatMap fun e => [e.1, e.2]) = qs.flatMap fun e => [e.1, e.2]) : ps = qs := by
  have hs := congrArg (fun ss => Param.pairs (.strings ss) 0) h
  simpa [strings_flatMap, Param.pairs, Json.arr?, Param.pairsOf?_strings] using hs

theorem Markup.eq_of_flat {m n : Markup} (ht : m.tagName = n.tagName)
    (ha : m.sortedAttributes = n.sortedAttributes) : m = n := by
  cases m; cases n
  simp only [Markup.sortedAttributes, Attributes.flatten] at ht ha
  rw [ht, Attributes.ext (flatMap_pairs_injective ha)]

/-! ## Known tags are in lower case -/

theorem lowercase_of_known {tag : String}
    (h : tag ∈ markupSectionTags ++ listSectionTags ++ markupTags) : lowercase tag = tag := by
  have all : ∀ t ∈ markupSectionTags ++ listSectionTags ++ markupTags, lowercase t = t := by decide
  exact all tag h

theorem lowercase_of_isMarkupSectionTag {tag : String} (h : isMarkupSectionTag tag = true) :
    lowercase tag = tag := by
  have hm : tag ∈ markupSectionTags := by simpa [isMarkupSectionTag] using h
  exact lowercase_of_known (by simp [hm])

theorem lowercase_of_isListSectionTag {tag : String} (h : isListSectionTag tag = true) :
    lowercase tag = tag := by
  have hm : tag ∈ listSectionTags := by simpa [isListSectionTag] using h
  exact lowercase_of_known (by simp [hm])

theorem lowercase_of_isMarkupTag {tag : String} (h : isMarkupTag tag = true) :
    lowercase tag = tag := by
  have hm : tag ∈ markupTags := by simpa [isMarkupTag] using h
  exact lowercase_of_known (by simp [hm])

/-! ## Admissible documents are in lower case -/

theorem Markup.lowercased_of_admissible {m : Markup} (h : m.Admissible) : m.lowercased = m := by
  rw [lowercased, lowercase_of_isMarkupTag h.1]

theorem map_lowercased_of_admissible {ms : List Marker} (h : AdmissibleMarkers ms) :
    ms.map Marker.lowercased = ms := by
  have hm : ∀ m ∈ ms, m.lowercased = m := fun m hm => by
    have hus : ∀ u ∈ m.openedMarkups, u.lowercased = u := fun u hu =>
      Markup.lowercased_of_admissible (h m hm u hu)
    have hu : m.openedMarkups.map Markup.lowercased = m.openedMarkups :=
      (List.map_congr_left hus).trans (List.map_id _)
    rw [Marker.lowercased, hu]
  exact (List.map_congr_left hm).trans (List.map_id _)

theorem Section.lowercased_of_admissible {s : Section} (h : s.Admissible) : s.lowercased = s := by
  cases s with
  | markup s =>
    rw [lowercased, lowercase_of_isMarkupSectionTag h.1, map_lowercased_of_admissible h.2]
  | list s =>
    have hi : ∀ i ∈ s.items, i.lowercased = i := fun i hi => by
      rw [ListItem.lowercased, map_lowercased_of_admissible (h.2 i hi)]
    rw [lowercased, lowercase_of_isListSectionTag h.1,
      (List.map_congr_left hi).trans (List.map_id _)]
  | image s => rfl
  | card c => rfl

theorem Post.lowercased_of_admissible {p : Post} (h : p.Admissible) : p.lowercased = p := by
  have hs : ∀ s ∈ p.sections, s.lowercased = s := fun s hs =>
    Section.lowercased_of_admissible (h s hs)
  rw [lowercased, (List.map_congr_left hs).trans (List.map_id _)]

/-! ## What a post holds -/

/-- The markups that markers open, in order. -/
def openedBy (ms : List Marker) : List Markup := ms.flatMap (·.openedMarkups)

theorem openedBy_cons (m : Marker) (ms : List Marker) :
    openedBy (m :: ms) = m.openedMarkups ++ openedBy ms := List.flatMap_cons

/-- The markups that are opened in a section, in order. -/
def Section.openedMarkups : Section → List Markup
  | .markup s => openedBy s.markers
  | .list s => s.items.flatMap fun i => openedBy i.markers
  | .image _ => []
  | .card _ => []

/-- The card of a section, if it is one. -/
def Section.cards : Section → List Card
  | .card c => [c]
  | _ => []

/-- The markups that are opened in a post, in order. -/
def Post.openedMarkups (p : Post) : List Markup := p.sections.flatMap Section.openedMarkups

/-- The cards of a post, in order. -/
def Post.cards (p : Post) : List Card := p.sections.flatMap Section.cards

/-- The lists of markers in a section: its own or those of its items. -/
def Section.markerLists : Section → List (List Marker)
  | .markup s => [s.markers]
  | .list s => s.items.map (·.markers)
  | .image _ => []
  | .card _ => []

/-- The lists of markers in a post. -/
def Post.markerLists (p : Post) : List (List Marker) := p.sections.flatMap Section.markerLists

/-- The tag of a section suits its kind. -/
def Section.HasKnownTag : Section → Prop
  | .markup s => isMarkupSectionTag s.tagName = true
  | .list s => isListSectionTag s.tagName = true
  | .image _ => True
  | .card _ => True

theorem admissibleMarkers_iff (ms : List Marker) :
    AdmissibleMarkers ms ↔ ∀ u ∈ openedBy ms, u.Admissible := by
  simp only [AdmissibleMarkers, openedBy, List.mem_flatMap]
  constructor
  · rintro h u ⟨m, hm, hu⟩
    exact h m hm u hu
  · intro h m hm u hu
    exact h u ⟨m, hm, hu⟩

/-- A section is admissible if its tag is and all markups opened in it are. -/
theorem Section.admissible_iff (s : Section) :
    s.Admissible ↔ s.HasKnownTag ∧ ∀ u ∈ s.openedMarkups, u.Admissible := by
  cases s with
  | markup s => simp only [Admissible, HasKnownTag, openedMarkups, admissibleMarkers_iff]
  | list s =>
    simp only [Admissible, HasKnownTag, openedMarkups, admissibleMarkers_iff, List.mem_flatMap]
    refine and_congr_right fun _ => ⟨?_, ?_⟩
    · rintro h u ⟨i, hi, hu⟩
      exact h i hi u hu
    · intro h i hi u hu
      exact h u ⟨i, hi, hu⟩
  | image s => simp [Admissible, HasKnownTag, openedMarkups]
  | card c => simp [Admissible, HasKnownTag, openedMarkups]

theorem Post.admissible_iff (p : Post) :
    p.Admissible ↔ (∀ s ∈ p.sections, s.HasKnownTag) ∧ ∀ u ∈ p.openedMarkups, u.Admissible := by
  simp only [Admissible, Section.admissible_iff, openedMarkups, List.mem_flatMap]
  constructor
  · intro h
    refine ⟨fun s hs => (h s hs).1, ?_⟩
    rintro u ⟨s, hs, hu⟩
    exact (h s hs).2 u hu
  · rintro ⟨ht, hu⟩ s hs
    exact ⟨ht s hs, fun u hus => hu u ⟨s, hs, hus⟩⟩

theorem openedBy_lowercased (ms : List Marker) :
    openedBy (ms.map Marker.lowercased) = (openedBy ms).map Markup.lowercased := by
  simp [openedBy, List.flatMap_map, List.map_flatMap, Marker.lowercased]

theorem Section.openedMarkups_lowercased (s : Section) :
    s.lowercased.openedMarkups = s.openedMarkups.map Markup.lowercased := by
  cases s with
  | markup s => exact openedBy_lowercased s.markers
  | list s =>
    simp only [lowercased, openedMarkups, List.flatMap_map, List.map_flatMap, ListItem.lowercased,
      openedBy_lowercased]
  | image s => rfl
  | card c => rfl

theorem Post.openedMarkups_lowercased (p : Post) :
    p.lowercased.openedMarkups = p.openedMarkups.map Markup.lowercased := by
  simp only [lowercased, openedMarkups, List.flatMap_map, List.map_flatMap,
    Section.openedMarkups_lowercased]

end RichText
