import RichText.Mobiledoc.Grammar
import RichText.Proofs.Json.Words
import RichText.Proofs.Mobiledoc.RoundTrip

/-!
# The reader accepts the grammar

The reader of Mobiledoc is a nest of loops that stop at the first fault. The grammar says without
any order which JSON values are Mobiledocs, and of which post.

**Rules.** `Accepts read Rule` says that a reader gives a value exactly if the rule relates the JSON
value to it. Loops carry this from items to arrays and tables (`eachFrom_eq_ok_iff`,
`mapM_eq_ok_iff`, `table_eq_ok_iff`), and each rule of the grammar has one lemma.

**Theorem (`reader_accepts_grammar`).** A JSON value is read as a post exactly if the grammar says
that it denotes that post. Where all integers fit a machine word, so do the counts of closed
markups.

Whatever the grammar accepts has known tags and plain attribute names, so all posts that are read
are admissible (`admissible_of_denotes`).
-/

namespace RichText

namespace MobiledocReader

open MobiledocGrammar

/-! ## Readers and rules -/

section Accepts

variable {α β : Type}

/-- The reader gives a value exactly if the rule relates the JSON value to it. -/
def Accepts (read : Json → MobiledocResult α) (Rule : Json → α → Prop) : Prop :=
  ∀ v a, read v = .ok a ↔ Rule v a

theorem Decides.eq_ok_iff {r : MobiledocResult α} {P : Prop} {a b : α} (h : Decides r P a) :
    r = .ok b ↔ P ∧ a = b := by
  by_cases hP : P
  · simp [h.1 hP, hP]
  · obtain ⟨fault, hr⟩ := h.2 hP
    simp [hr, hP]

theorem nat?_eq_some_iff {v : Json} {n : Nat} : v.nat? = some n ↔ v = .nat n := by
  constructor
  · intro h
    cases v with
    | int i =>
      cases i with
      | ofNat m => exact congrArg Json.nat (Option.some.inj h)
      | negSucc m => cases h
    | _ => cases h
  · rintro rfl
    rfl

theorem array_eq_ok_iff {place : MobiledocPlace} {v : Json} {items : List Json} :
    array place v = .ok items ↔ v = .arr items := by
  cases v <;> simp [array, Json.arr?]

theorem text_eq_ok_iff {place : MobiledocPlace} {v : Json} {s : String} :
    text place v = .ok s ↔ v = .str s := by
  cases v <;> simp [text, Json.str?]

theorem index_eq_ok_iff {place : MobiledocPlace} {v : Json} {n : Nat} :
    index place v = .ok n ↔ v = .nat n := by
  rw [← nat?_eq_some_iff, index]
  cases v.nat? <;> simp

theorem array_bind_eq_ok_iff {place : MobiledocPlace} {v : Json}
    {k : List Json → MobiledocResult β} {b : β} :
    array place v >>= k = .ok b ↔ ∃ items, v = .arr items ∧ k items = .ok b := by
  simp only [bind_eq_ok_iff, array_eq_ok_iff]

theorem text_bind_eq_ok_iff {place : MobiledocPlace} {v : Json} {k : String → MobiledocResult β}
    {b : β} : text place v >>= k = .ok b ↔ ∃ s, v = .str s ∧ k s = .ok b := by
  simp only [bind_eq_ok_iff, text_eq_ok_iff]

theorem eachFrom_eq_ok_iff {read : Nat → Json → MobiledocResult α} {Rule : Json → α → Prop}
    (h : ∀ i, Accepts (read i) Rule) (i : Nat) {vs : List Json} {as : List α} :
    eachFrom read i vs = .ok as ↔ List.Forall₂ Rule vs as := by
  induction vs generalizing i as with
  | nil => simp [eachFrom, eq_comm]
  | cons v vs ih =>
    simp only [eachFrom, bind_eq_ok_iff, pure_eq_ok_iff, ih, h i v, List.forall₂_cons_left_iff]
    constructor
    · rintro ⟨a, ha, bs, hbs, rfl⟩
      exact ⟨a, bs, ha, hbs, rfl⟩
    · rintro ⟨a, bs, ha, hbs, rfl⟩
      exact ⟨a, ha, bs, hbs, rfl⟩

theorem mapM_eq_ok_iff {read : Json → MobiledocResult α} {Rule : Json → α → Prop}
    (h : Accepts read Rule) {vs : List Json} {as : List α} :
    vs.mapM read = .ok as ↔ List.Forall₂ Rule vs as := by
  have hrule : (fun v a => read v = .ok a) = Rule := by
    funext v a
    exact propext (h v a)
  rw [mapM_eq_ok_iff_forall₂, hrule]

theorem table_eq_ok_iff {read : Nat → Json → MobiledocResult α} {Rule : Json → α → Prop}
    (h : ∀ i, Accepts (read i) Rule) {doc : Json} {key : String} {place : MobiledocPlace}
    {as : List α} : table doc key place read = .ok as ↔ Table doc key Rule as := by
  unfold table Table
  cases doc.get? key with
  | none => simp [eq_comm]
  | some v =>
    cases v with
    | arr vs => exact eachFrom_eq_ok_iff h 0
    | _ => simp [array, Json.arr?, bind, Except.bind]

end Accepts

/-! ## Entries of the tables -/

/-- An array of even length from which attributes are read holds names and values in turn. -/
theorem exists_pairs_of_attributes {place : MobiledocPlace} {done as : Attributes} {vs : List Json}
    (heven : vs.length % 2 = 0) (h : attributes place done vs = .ok as) :
    ∃ pairs : List (String × String), vs = pairs.flatMap fun e => [.str e.1, .str e.2] := by
  induction vs using List.twoStepInduction generalizing done with
  | nil => exact ⟨[], rfl⟩
  | singleton v => cases heven
  | cons_cons k v vs ih _ =>
    obtain ⟨name, hname, h⟩ := bind_eq_ok_iff.1 h
    split at h
    · obtain ⟨value, hvalue, h⟩ := bind_eq_ok_iff.1 h
      have hlength : vs.length % 2 = 0 := by
        simp only [List.length_cons] at heven
        omega
      obtain ⟨pairs, rfl⟩ := ih hlength h
      rw [text_eq_ok_iff.1 hname, text_eq_ok_iff.1 hvalue]
      exact ⟨(name, value) :: pairs, rfl⟩
    · cases h

theorem accepts_markup (i : Nat) : Accepts (markup i) IsMarkup := by
  intro v m
  constructor
  · intro h
    rw [markup, array_bind_eq_ok_iff] at h
    obtain ⟨entries, rfl, h⟩ := h
    cases entries with
    | nil => cases h
    | cons t rest =>
      rw [text_bind_eq_ok_iff] at h
      obtain ⟨tag, rfl, h⟩ := h
      by_cases hknown : isMarkupTag (lowercase tag) = true
      · replace h := (if_pos hknown).symm.trans h
        cases rest with
        | nil =>
          cases h
          exact .bare hknown
        | cons w rest =>
          rw [array_bind_eq_ok_iff] at h
          obtain ⟨vs, rfl, h⟩ := h
          split at h
          · rename_i heven
            rw [bind_eq_ok_iff] at h
            obtain ⟨as, has, h⟩ := h
            obtain ⟨pairs, rfl⟩ := exists_pairs_of_attributes heven has
            obtain ⟨hnames, rfl⟩ := (decides_attributes _ _ pairs).eq_ok_iff.1 has
            cases h
            rw [← strings_flatMap]
            exact .withAttributes hknown hnames
          · cases h
      · cases (if_neg hknown).symm.trans h
  · intro h
    cases h with
    | bare hknown => exact if_pos hknown
    | @withAttributes tag pairs rest hknown hnames =>
      have hattributes := (decides_attributes (.markup i) .empty pairs).1 hnames
      have hread : markup i (.arr (.str tag :: pairsJson pairs :: rest)) =
          attributes (.markup i) .empty (pairs.flatMap fun e => [.str e.1, .str e.2]) >>= fun as =>
            pure ⟨lowercase tag, as⟩ := by
        rw [pairsJson, strings_flatMap]
        exact (if_pos hknown).trans (if_pos (length_flat_even pairs))
      rw [hread, hattributes]
      rfl

theorem accepts_card (i : Nat) : Accepts (card i) IsCard := by
  intro v c
  constructor
  · intro h
    rw [card, array_bind_eq_ok_iff] at h
    obtain ⟨entries, rfl, h⟩ := h
    cases entries with
    | nil => cases h
    | cons w rest =>
      rw [text_bind_eq_ok_iff] at h
      obtain ⟨name, rfl, h⟩ := h
      cases h
      cases rest with
      | nil => exact .bare
      | cons payload rest => exact .withPayload
  · intro h
    cases h <;> rfl

/-! ## Markers -/

section Markers

variable {markups : List Markup}

theorem markupAt_eq_ok_iff {place : MobiledocPlace} {v : Json} {m : Markup} :
    markupAt place markups v = .ok m ↔ ∃ i, v = .nat i ∧ markups[i]? = some m := by
  simp only [markupAt, bind_eq_ok_iff, index_eq_ok_iff]
  refine exists_congr fun i => and_congr_right fun _ => ?_
  cases markups[i]? <;> simp [pure_eq_ok_iff]

/-- Markups that are named by index are those that stand at the indexes. -/
theorem mapM_markupAt_eq_ok_iff {place : MobiledocPlace} {vs : List Json} {ms : List Markup} :
    vs.mapM (markupAt place markups) = .ok ms ↔
      ∃ is : List Nat, vs = is.map .nat ∧ List.Forall₂ (fun i m => markups[i]? = some m) is ms := by
  rw [mapM_eq_ok_iff fun _ _ => markupAt_eq_ok_iff]
  constructor
  · intro h
    induction h with
    | nil => exact ⟨[], rfl, .nil⟩
    | cons hv _ ih =>
      obtain ⟨i, rfl, hi⟩ := hv
      obtain ⟨is, rfl, his⟩ := ih
      exact ⟨i :: is, rfl, .cons hi his⟩
  · rintro ⟨is, rfl, h⟩
    rw [List.forall₂_map_left_iff]
    exact h.imp fun i _ hi => ⟨i, rfl, hi⟩

theorem textMarker_eq_ok_iff {place : MobiledocPlace} {opened closed value : Json} {m : Marker} :
    textMarker place markups opened closed value = .ok m ↔
      IsMarker markups (.arr [.nat 0, opened, closed, value]) m := by
  simp only [textMarker, bind_eq_ok_iff, array_eq_ok_iff, text_eq_ok_iff, index_eq_ok_iff,
    mapM_markupAt_eq_ok_iff, pure_eq_ok_iff]
  constructor
  · rintro ⟨_, rfl, ms, ⟨is, rfl, his⟩, s, rfl, n, rfl, rfl⟩
    exact .text his
  · rintro ⟨his⟩
    exact ⟨_, rfl, _, ⟨_, rfl, his⟩, _, rfl, _, rfl, rfl⟩

theorem accepts_marker (place : MobiledocPlace) :
    Accepts (marker place markups) (IsMarker markups) := by
  intro v m
  constructor
  · intro h
    rw [marker, array_bind_eq_ok_iff] at h
    obtain ⟨entries, rfl, h⟩ := h
    split at h
    · rename_i kind opened closed value
      split at h
      · rename_i hkind
        rw [nat?_eq_some_iff] at hkind
        rw [textMarker_eq_ok_iff] at h
        exact hkind ▸ h
      · cases h
      · cases h
    · cases h
  · intro h
    obtain ⟨his⟩ := h
    exact textMarker_eq_ok_iff.2 (.text his)

theorem accepts_markers (place : MobiledocPlace) :
    Accepts (markers place markups) (AreMarkers markups) := by
  intro v ms
  simp only [markers, bind_eq_ok_iff, array_eq_ok_iff, mapM_eq_ok_iff (accepts_marker place)]
  constructor
  · rintro ⟨vs, rfl, h⟩
    exact .arr h
  · rintro ⟨h⟩
    exact ⟨_, rfl, h⟩

end Markers

/-! ## Sections -/

section Sections

variable {markups : List Markup} {cards : List Card}

theorem entry_eq_ok_iff {place : MobiledocPlace} {entries : List Json} {i : Nat} {v : Json} :
    entry place entries i = .ok v ↔ entries[i]? = some v := by
  rw [entry]
  cases entries[i]? <;> simp

theorem exists_eq_cons_of_getElem? {u v : Json} {rest : List Json}
    (h : (u :: rest)[1]? = some v) : ∃ more, rest = v :: more := by
  cases rest with
  | nil => cases h
  | cons w more => exact ⟨more, congrArg (· :: more) (Option.some.inj h)⟩

theorem sectionTag_eq_ok_iff {place : MobiledocPlace} {allowed : String → Bool}
    {entries : List Json} {tag : String} :
    sectionTag place allowed entries = .ok tag ↔
      ∃ s, entries[1]? = some (.str s) ∧ allowed (lowercase s) = true ∧ lowercase s = tag := by
  simp only [sectionTag, bind_eq_ok_iff, entry_eq_ok_iff, text_eq_ok_iff]
  constructor
  · rintro ⟨_, hv, s, rfl, h⟩
    split at h
    · rename_i hallowed
      cases h
      exact ⟨s, hv, hallowed, rfl⟩
    · cases h
  · rintro ⟨s, hv, hallowed, rfl⟩
    exact ⟨_, hv, s, rfl, if_pos hallowed⟩

theorem accepts_item (place : MobiledocPlace) :
    Accepts (fun v => do return ⟨← markers place markups v⟩)
      fun v (i : ListItem) => AreMarkers markups v i.markers := by
  intro v i
  simp only [bind_eq_ok_iff, pure_eq_ok_iff, accepts_markers place v]
  constructor
  · rintro ⟨ms, hms, rfl⟩
    exact hms
  · intro h
    exact ⟨i.markers, h, rfl⟩

/-- A section is what the rule of its kind asks for after the number of that kind. -/
theorem sectionOfKind_eq_ok_iff {t : Tables} {place : MobiledocPlace} {kind : Nat}
    {rest : List Json} {s : Section} :
    sectionOfKind t place (.nat kind :: rest) kind = .ok s ↔
      IsSection t.markups t.cards (.arr (.nat kind :: rest)) s := by
  constructor
  · intro h
    unfold sectionOfKind at h
    split at h
    · simp only [bind_eq_ok_iff, sectionTag_eq_ok_iff, entry_eq_ok_iff, accepts_markers _ _ _,
        pure_eq_ok_iff] at h
      obtain ⟨_, ⟨tag, htag, hknown, rfl⟩, v, hv, ms, hms, rfl⟩ := h
      obtain ⟨rest, rfl⟩ := exists_eq_cons_of_getElem? htag
      obtain ⟨rest, rfl⟩ := exists_eq_cons_of_getElem? (u := .str tag) hv
      exact .markup hknown hms
    · simp only [bind_eq_ok_iff, entry_eq_ok_iff, text_eq_ok_iff, pure_eq_ok_iff] at h
      obtain ⟨_, hv, src, rfl, rfl⟩ := h
      obtain ⟨rest, rfl⟩ := exists_eq_cons_of_getElem? hv
      exact .image
    · simp only [bind_eq_ok_iff, sectionTag_eq_ok_iff, entry_eq_ok_iff, array_eq_ok_iff,
        mapM_eq_ok_iff (accepts_item place), pure_eq_ok_iff] at h
      obtain ⟨_, ⟨tag, htag, hknown, rfl⟩, _, hv, vs, rfl, items, hitems, rfl⟩ := h
      obtain ⟨rest, rfl⟩ := exists_eq_cons_of_getElem? htag
      obtain ⟨rest, rfl⟩ := exists_eq_cons_of_getElem? (u := .str tag) hv
      exact .list hknown hitems
    · simp only [bind_eq_ok_iff, entry_eq_ok_iff, index_eq_ok_iff] at h
      obtain ⟨_, hv, i, rfl, h⟩ := h
      obtain ⟨rest, rfl⟩ := exists_eq_cons_of_getElem? hv
      split at h
      · rename_i hc
        cases h
        exact .card hc
      · cases h
    · cases h
  · intro h
    cases h with
    | markup hknown hms =>
      simp only [sectionOfKind, bind_eq_ok_iff, sectionTag_eq_ok_iff, entry_eq_ok_iff,
        accepts_markers _ _ _, pure_eq_ok_iff]
      exact ⟨_, ⟨_, rfl, hknown, rfl⟩, _, rfl, _, hms, rfl⟩
    | image => rfl
    | list hknown hitems =>
      simp only [sectionOfKind, bind_eq_ok_iff, sectionTag_eq_ok_iff, entry_eq_ok_iff,
        array_eq_ok_iff, mapM_eq_ok_iff (accepts_item place), pure_eq_ok_iff]
      exact ⟨_, ⟨_, rfl, hknown, rfl⟩, _, rfl, _, rfl, _, hitems, rfl⟩
    | card hc =>
      simp only [sectionOfKind, bind_eq_ok_iff, entry_eq_ok_iff, index_eq_ok_iff]
      refine ⟨_, rfl, _, rfl, ?_⟩
      rw [hc]
      rfl

theorem accepts_section (t : Tables) (i : Nat) :
    Accepts (sectionAt t i) (IsSection t.markups t.cards) := by
  intro v s
  constructor
  · intro h
    rw [sectionAt, array_bind_eq_ok_iff] at h
    obtain ⟨entries, rfl, h⟩ := h
    split at h
    · rename_i kind hkind
      obtain ⟨w, hw, hnat⟩ := Option.bind_eq_some_iff.1 hkind
      rw [nat?_eq_some_iff] at hnat
      subst hnat
      obtain ⟨rest, rfl⟩ := List.head?_eq_some_iff.1 hw
      exact sectionOfKind_eq_ok_iff.1 h
    · cases h
  · intro h
    have hread : ∀ {kind : Nat} {rest : List Json},
        IsSection t.markups t.cards (.arr (.nat kind :: rest)) s →
          sectionAt t i (.arr (.nat kind :: rest)) = .ok s := fun h =>
      sectionOfKind_eq_ok_iff.2 h
    cases h with
    | markup hknown hms => exact hread (.markup hknown hms)
    | image => exact hread .image
    | list hknown hitems => exact hread (.list hknown hitems)
    | card hc => exact hread (.card hc)

end Sections

/-! ## Documents -/

theorem str?_eq_some_iff {v : Json} {s : String} : v.str? = some s ↔ v = .str s := by
  cases v <;> simp [Json.str?]

theorem checkVersion_eq_ok_iff {doc : Json} {u : Unit} :
    checkVersion doc = .ok u ↔ HasVersion doc := by
  have hversion : HasVersion doc ↔ ∃ v, (doc.get? "version").bind Json.str? = some v ∧
      ['0', '.', '3'].isPrefixOf v.toList = true := by
    simp only [HasVersion, Option.bind_eq_some_iff, str?_eq_some_iff, List.isPrefixOf_iff_prefix]
    constructor
    · rintro ⟨v, hv, hprefix⟩
      exact ⟨v, ⟨_, hv, rfl⟩, hprefix⟩
    · rintro ⟨v, ⟨_, hv, rfl⟩, hprefix⟩
      exact ⟨v, hv, hprefix⟩
  rw [hversion, checkVersion]
  cases (doc.get? "version").bind Json.str? with
  | none => simp
  | some v => simp

theorem tables_eq_ok_iff {doc : Json} {t : Tables} :
    tables doc = .ok t ↔
      Table doc "markups" IsMarkup t.markups ∧ Table doc "cards" IsCard t.cards := by
  simp only [tables, bind_eq_ok_iff, table_eq_ok_iff accepts_markup, table_eq_ok_iff accepts_card,
    pure_eq_ok_iff]
  constructor
  · rintro ⟨markups, hmarkups, cards, hcards, rfl⟩
    exact ⟨hmarkups, hcards⟩
  · rintro ⟨hmarkups, hcards⟩
    exact ⟨_, hmarkups, _, hcards, rfl⟩

theorem document_eq_ok_iff {doc : Json} {p : Post} : document doc = .ok p ↔ Denotes doc p := by
  simp only [document, bind_eq_ok_iff, checkVersion_eq_ok_iff, tables_eq_ok_iff,
    table_eq_ok_iff (accepts_section _), pure_eq_ok_iff]
  constructor
  · rintro ⟨_, hversion, t, ⟨hmarkups, hcards⟩, sections, hsections, rfl⟩
    exact ⟨hversion, t.markups, t.cards, hmarkups, hcards, hsections⟩
  · rintro ⟨hversion, markups, cards, hmarkups, hcards, hsections⟩
    exact ⟨(), hversion, ⟨markups, cards⟩, ⟨hmarkups, hcards⟩, _, hsections, rfl⟩

end MobiledocReader

/-! ## What is read -/

namespace MobiledocGrammar

variable {markups : List Markup} {cards : List Card}

theorem exists_of_forall₂_mem {α β : Type} {R : α → β → Prop} {as : List α} {bs : List β} {b : β}
    (h : List.Forall₂ R as bs) (hb : b ∈ bs) : ∃ a ∈ as, R a b := by
  induction h with
  | nil => cases hb
  | cons hr _ ih =>
    rcases List.mem_cons.1 hb with rfl | hb
    · exact ⟨_, List.mem_cons_self, hr⟩
    · obtain ⟨a, ha, hab⟩ := ih hb
      exact ⟨a, List.mem_cons_of_mem _ ha, hab⟩

/-- An entry of a table stands in an array of the document. -/
theorem Table.exists_of_mem {α : Type} {doc : Json} {key : String} {Entry : Json → α → Prop}
    {as : List α} {a : α} (h : Table doc key Entry as) (ha : a ∈ as) :
    ∃ vs, doc.get? key = some (.arr vs) ∧ ∃ v ∈ vs, Entry v a := by
  unfold Table at h
  split at h
  · rename_i vs hvs
    exact ⟨vs, hvs, exists_of_forall₂_mem h ha⟩
  · exact h.elim
  · subst h
    cases ha

/-! ### Known names -/

theorem admissible_of_isMarkup {v : Json} {m : Markup} (h : IsMarkup v m) : m.Admissible := by
  cases h with
  | bare hknown => exact ⟨hknown, by simp⟩
  | @withAttributes tag pairs _ hknown hnames =>
    exact ⟨hknown, fun e he => hnames e (Attributes.mem_of_mem_ofPairs he)⟩

theorem admissible_of_areMarkers (hmarkups : ∀ m ∈ markups, m.Admissible) {v : Json}
    {ms : List Marker} (h : AreMarkers markups v ms) : AdmissibleMarkers ms := by
  obtain ⟨h⟩ := h
  intro m hm u hu
  obtain ⟨_, -, his⟩ := exists_of_forall₂_mem h hm
  obtain ⟨his⟩ := his
  obtain ⟨i, -, hi⟩ := exists_of_forall₂_mem his hu
  exact hmarkups u (List.mem_of_getElem? hi)

theorem admissible_of_isSection (hmarkups : ∀ m ∈ markups, m.Admissible) {v : Json} {s : Section}
    (h : IsSection markups cards v s) : s.Admissible := by
  cases h with
  | markup hknown hms => exact ⟨hknown, admissible_of_areMarkers hmarkups hms⟩
  | image => trivial
  | list hknown hitems =>
    refine ⟨hknown, fun i hi => ?_⟩
    obtain ⟨w, -, hw⟩ := exists_of_forall₂_mem hitems hi
    exact admissible_of_areMarkers hmarkups hw
  | card => trivial

/-- **Whatever the grammar accepts is admissible.** -/
theorem admissible_of_denotes {doc : Json} {p : Post} (h : Denotes doc p) : p.Admissible := by
  obtain ⟨-, markups, cards, hmarkups, -, hsections⟩ := h
  have hknown : ∀ m ∈ markups, m.Admissible := fun m hm => by
    obtain ⟨_, -, _, -, hv⟩ := hmarkups.exists_of_mem hm
    exact admissible_of_isMarkup hv
  intro s hs
  obtain ⟨_, -, _, -, hv⟩ := hsections.exists_of_mem hs
  exact admissible_of_isSection hknown hv

/-! ### Machine words -/

theorem closedCount_lt_of_areMarkers {v : Json} {ms : List Marker} (h : AreMarkers markups v ms)
    (hv : v.HoldsWords) : ∀ m ∈ ms, m.closedCount < 2 ^ 64 := by
  obtain ⟨h⟩ := h
  intro m hm
  obtain ⟨w, hw, hmarker⟩ := exists_of_forall₂_mem h hm
  have hwords : w.HoldsWords := Json.holdsWords_arr.1 hv w hw
  obtain ⟨-⟩ := hmarker
  exact Json.holdsWords_nat.1 (Json.holdsWords_arr.1 hwords _ (by simp))

theorem closedCount_lt_of_isSection {v : Json} {s : Section} (h : IsSection markups cards v s)
    (hv : v.HoldsWords) : ∀ ms ∈ s.markerLists, ∀ m ∈ ms, m.closedCount < 2 ^ 64 := by
  cases h with
  | markup _ hms =>
    intro ms hmem
    obtain rfl := List.mem_singleton.1 hmem
    exact closedCount_lt_of_areMarkers hms (Json.holdsWords_arr.1 hv _ (by simp))
  | image => simp [Section.markerLists]
  | @list _ vs _ _ _ hitems =>
    intro ms hmem
    obtain ⟨i, hi, rfl⟩ := List.mem_map.1 hmem
    obtain ⟨w, hw, hms⟩ := exists_of_forall₂_mem hitems hi
    have hvs := Json.holdsWords_arr.1 hv (.arr vs) (by simp)
    exact closedCount_lt_of_areMarkers hms (Json.holdsWords_arr.1 hvs w hw)
  | card => simp [Section.markerLists]

/-- In a document whose integers fit a machine word, the counts of closed markups do. -/
theorem closedCount_lt_of_denotes {doc : Json} {p : Post} (h : Denotes doc p)
    (hdoc : doc.HoldsWords) : ∀ ms ∈ p.markerLists, ∀ m ∈ ms, m.closedCount < 2 ^ 64 := by
  obtain ⟨-, markups, cards, -, -, hsections⟩ := h
  intro ms hms
  obtain ⟨s, hs, hms⟩ := List.mem_flatMap.1 hms
  obtain ⟨vs, hvs, v, hv, hsection⟩ := hsections.exists_of_mem hs
  exact closedCount_lt_of_isSection hsection (Json.holdsWords_arr.1 (hdoc.get? hvs) v hv) ms hms

end MobiledocGrammar

namespace Mobiledoc

open MobiledocGrammar

theorem ofMobiledoc_ok_iff {doc : Json} {p : Post} :
    Post.ofMobiledoc doc = .ok p ↔ Denotes doc p := by
  rw [← MobiledocReader.document_eq_ok_iff, Post.ofMobiledoc]
  cases MobiledocReader.document doc <;> simp [Except.mapError]

theorem admissible_of_ofMobiledoc {doc : Json} {p : Post} (h : Post.ofMobiledoc doc = .ok p) :
    p.Admissible := admissible_of_denotes (ofMobiledoc_ok_iff.1 h)

/-- **The reader accepts exactly the grammar.** A JSON value is read as a post if and only if it is
a Mobiledoc that denotes this post, and any other value is refused as no Mobiledoc. In a value whose
integers fit a machine word, as in all that are read from a text, each marker closes a number of
markups that fits one, too. -/
theorem reader_accepts_grammar (doc : Json) :
    (∀ p, Post.ofMobiledoc doc = .ok p ↔ Denotes doc p) ∧
      ((∀ p, ¬Denotes doc p) → ∃ fault, Post.ofMobiledoc doc = .error (.invalidMobiledoc fault)) ∧
      (doc.HoldsWords → ∀ p, Denotes doc p →
        ∀ ms ∈ p.markerLists, ∀ m ∈ ms, m.closedCount < 2 ^ 64) := by
  refine ⟨fun p => ofMobiledoc_ok_iff, fun hnone => ?_, fun hdoc p h => ?_⟩
  · cases hread : MobiledocReader.document doc with
    | ok p => exact absurd (MobiledocReader.document_eq_ok_iff.1 hread) (hnone p)
    | error fault => exact ⟨fault, by rw [Post.ofMobiledoc, hread]; rfl⟩
  · exact closedCount_lt_of_denotes h hdoc

end Mobiledoc

end RichText
