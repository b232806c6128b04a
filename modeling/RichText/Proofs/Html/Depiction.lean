import Mathlib.Data.List.Forall2
import RichText.Proofs.Html.Faults
import RichText.Proofs.Html.Nesting

/-!
# The HTML of a document means what the document means

The target checks the nesting of markups only, and never that of elements. Still its output is well
nested, and the elements that it consists of depict the document.

**Depiction.** `Depicts` relates a node and elements. A post is depicted by one element for each
section, in order; a list has one `li` for each item, in order; an image is an `img`, and a card an
empty `div`. `DepictsMarkers` is the relation for inline content: the same characters, each under
the start tags of the markups that apply to it.

**The proof.** Markers that balance are well-nested tokens (`styledFrom?_markers`), so they are the
tokens of elements. `Reads` says which elements a block comes back as, whatever follows it.

Main result: `render_depicts`.
-/

namespace RichText.Html

/-! ## Depiction -/

/-- The start tags of tokens, in order. -/
def startTags (ts : List Token) : List OpenTag :=
  ts.filterMap fun
    | .start tag attributes => some (tag, attributes)
    | _ => none

/-- A character with the start tags of the markups that apply to it. -/
def underTags (c : StyledChar) : Char × List OpenTag := (c.1, c.2.map openTag)

/-- The elements say what the markers say. -/
structure DepictsMarkers (ms : List Marker) (es : List Element) : Prop where
  /-- The text is that of the markers in order. -/
  text : (Element.styled es).map Prod.fst = ms.flatMap (·.value.toList)
  /-- Each character stands under the tags of the markups that are open there. -/
  styled : Element.styled es = (decode ms).map underTags
  /-- There are no tags but those of the markups, in the order in which they are opened. -/
  tags : startTags (Element.tokensList es) = (openedBy ms).map openTag

/-- The element of an item. -/
def DepictsItem (i : ListItem) (e : Element) : Prop :=
  ∃ es, e = .element "li" [] es ∧ DepictsMarkers i.markers es

/-- The element of a section. -/
def DepictsSection : Section → Element → Prop
  | .markup s, e => ∃ es, e = .element s.tagName [] es ∧ DepictsMarkers s.markers es
  | .list s, e => ∃ es, e = .element s.tagName [] es ∧ List.Forall₂ DepictsItem s.items es
  | .image s, e => e = .void "img" [("src", s.src)]
  | .card c, e => e = .element "div" [("data-card", c.name)] []

/-- The elements of a post, a section or an item. -/
def Depicts : Node → List Element → Prop
  | .post p, es => List.Forall₂ DepictsSection p.sections es
  | .markupSection s, es => ∃ e, es = [e] ∧ DepictsSection (.markup s) e
  | .listSection s, es => ∃ e, es = [e] ∧ DepictsSection (.list s) e
  | .imageSection s, es => ∃ e, es = [e] ∧ DepictsSection (.image s) e
  | .card c, es => ∃ e, es = [e] ∧ DepictsSection (.card c) e
  | .listItem i, es => ∃ e, es = [e] ∧ DepictsItem i e
  | .marker _, _ => False
  | .markup _, _ => False

/-- The node is a post, a section or an item. A marker may leave markups open, and a markup does. -/
def IsBlock : Node → Prop
  | .marker _ => False
  | .markup _ => False
  | _ => True

/-! ## Known names -/

theorem isName_of_isElementTag {tag : String} (h : isElementTag tag = true) : IsName tag := by
  have hall : ∀ t ∈ "li" :: markupSectionTags ++ listSectionTags, IsName t := by decide
  refine hall tag ?_
  simpa [isElementTag, isMarkupSectionTag, isListSectionTag, or_assoc] using h

theorem isName_of_isMarkupTag {tag : String} (h : isMarkupTag tag = true) : IsName tag := by
  have hall : ∀ t ∈ markupTags, IsName t := by decide
  exact hall tag (by simpa [isMarkupTag] using h)

theorem isName_of_isAttributeName {name : String} (h : isAttributeName name = true) :
    IsName name := by
  rw [isAttributeName] at h
  rw [IsName]
  cases hname : name.toList with
  | nil => rfl
  | cons c rest =>
    rw [hname, isPlainName, Bool.and_eq_true] at h
    have hc : isNameChar c = true := by simp [isNameChar, Char.isAlphanum, h.1]
    rw [List.all_cons, hc, h.2]
    rfl

theorem ne_img_of_isElementTag {tag : String} (h : isElementTag tag = true) : tag ≠ "img" := by
  rintro rfl
  exact absurd h (by decide)

theorem ne_img_of_admissible {u : Markup} (h : u.Admissible) : u.tagName ≠ "img" := by
  intro himg
  have htag := h.1
  rw [himg] at htag
  exact absurd htag (by decide)

/-! ## Names in the tokens of a document -/

theorem plain_openings {us : List Markup} (h : ∀ u ∈ us, u.Admissible) :
    ∀ t ∈ us.map (fun u => Token.start u.tagName u.attributes.entries), t.Plain := by
  intro t ht
  obtain ⟨u, hu, rfl⟩ := List.mem_map.1 ht
  exact ⟨isName_of_isMarkupTag (h u hu).1, fun e he => isName_of_isAttributeName ((h u hu).2 e he)⟩

theorem plain_closings {us : List Markup} (h : ∀ u ∈ us, u.Admissible) :
    ∀ t ∈ us.map (fun u => Token.finish u.tagName), t.Plain := by
  intro t ht
  obtain ⟨u, hu, rfl⟩ := List.mem_map.1 ht
  exact isName_of_isMarkupTag (h u hu).1

theorem plain_markers (ms : List Marker) (before : List Markup)
    (hbefore : ∀ u ∈ before, u.Admissible) (hms : ∀ u ∈ openedBy ms, u.Admissible) :
    ∀ t ∈ markersTokens before ms, t.Plain := by
  induction ms generalizing before with
  | nil =>
    intro t ht
    cases ht
  | cons m ms ih =>
    rw [openedBy_cons, List.forall_mem_append] at hms
    have hinside : ∀ u ∈ m.inside before, u.Admissible :=
      List.forall_mem_append.2 ⟨hbefore, hms.1⟩
    have hafter : ∀ u ∈ m.after before, u.Admissible := fun u hu =>
      hinside u (List.mem_of_mem_take hu)
    have hclosed : ∀ u ∈ (closedBy m before).reverse, u.Admissible := fun u hu =>
      hinside u (List.mem_of_mem_drop (List.mem_reverse.1 hu))
    rw [markersTokens, markerTokens]
    refine List.forall_mem_append.2 ⟨List.forall_mem_append.2 ⟨plain_openings hms.1, ?_⟩,
      ih _ hafter hms.2⟩
    exact List.forall_mem_cons.2 ⟨trivial, plain_closings hclosed⟩

theorem plain_element {tag : String} {inner : List Token} (htag : isElementTag tag = true)
    (h : ∀ t ∈ inner, t.Plain) : ∀ t ∈ elementTokens tag inner, t.Plain := by
  have hname := isName_of_isElementTag htag
  refine List.forall_mem_cons.2 ⟨⟨hname, fun e he => by cases he⟩, ?_⟩
  refine List.forall_mem_append.2 ⟨h, fun t ht => ?_⟩
  rw [List.mem_singleton.1 ht]
  exact hname

theorem plain_item {i : ListItem} (h : markersFaults 0 i.markers = []) :
    ∀ t ∈ itemTokens i, t.Plain := by
  obtain ⟨hms, _⟩ := (markersFaults_eq_nil 0 i.markers).1 h
  exact plain_element rfl (plain_markers i.markers [] (fun u hu => by cases hu) hms)

theorem plain_section {s : Section} (h : sectionFaults s = []) :
    ∀ t ∈ sectionTokens s, t.Plain := by
  cases s with
  | markup s =>
    obtain ⟨htag, hms⟩ := List.append_eq_nil_iff.1 h
    refine plain_element (check_eq_nil.1 htag) (plain_markers s.markers [] ?_ ?_)
    · exact fun u hu => by cases hu
    · exact ((markersFaults_eq_nil 0 s.markers).1 hms).1
  | list s =>
    obtain ⟨htag, hitems⟩ := List.append_eq_nil_iff.1 h
    refine plain_element (check_eq_nil.1 htag) fun t ht => ?_
    obtain ⟨i, hi, ht⟩ := List.mem_flatMap.1 ht
    exact plain_item (List.flatMap_eq_nil_iff.1 hitems i hi) t ht
  | image s =>
    have hsrc : IsName "src" := by decide
    have himg : IsName "img" := by decide
    simp [sectionTokens, Token.Plain, hsrc, himg]
  | card c =>
    have hcard : IsName "data-card" := by decide
    have hdiv : IsName "div" := by decide
    simp [sectionTokens, Token.Plain, hcard, hdiv]

/-! ## Markers are well nested -/

/-- The tags of open markups as the reader stacks them, innermost first. -/
def stackOf (us : List Markup) : List OpenTag := (us.map openTag).reverse

theorem reverse_stackOf (us : List Markup) : (stackOf us).reverse = us.map openTag :=
  List.reverse_reverse _

theorem stackOf_append (us vs : List Markup) : stackOf (us ++ vs) = stackOf vs ++ stackOf us := by
  rw [stackOf, List.map_append, List.reverse_append]
  rfl

theorem styledFrom?_openings (us before : List Markup) (h : ∀ u ∈ us, u.Admissible)
    (rest : List Token) :
    styledFrom? (stackOf before)
        (us.map (fun u => .start u.tagName u.attributes.entries) ++ rest) =
      styledFrom? (stackOf (before ++ us)) rest := by
  induction us generalizing before with
  | nil => rw [List.map_nil, List.nil_append, List.append_nil]
  | cons u us ih =>
    obtain ⟨hu, hus⟩ := List.forall_mem_cons.1 h
    have hpush : (u.tagName, u.attributes.entries) :: stackOf before = stackOf (before ++ [u]) := by
      rw [stackOf_append]
      rfl
    have hne := ne_img_of_admissible hu
    rw [List.map_cons, List.cons_append, styledFrom?, pushTag_of_ne hne, hpush, ih _ hus,
      List.append_assoc, List.singleton_append]

theorem styledFrom?_closings (us : List Markup) (stack : List OpenTag) (rest : List Token) :
    styledFrom? (us.map openTag ++ stack) (us.map (fun u => .finish u.tagName) ++ rest) =
      styledFrom? stack rest := by
  induction us with
  | nil => rfl
  | cons u us ih =>
    rw [List.map_cons, List.map_cons, List.cons_append, List.cons_append, styledFrom?]
    exact (if_pos rfl).trans ih

/-- A marker opens, says and closes what the document says it does. -/
theorem styledFrom?_marker (m : Marker) (before : List Markup)
    (h : ∀ u ∈ m.openedMarkups, u.Admissible) (rest : List Token) :
    styledFrom? (stackOf before) (markerTokens before m ++ rest) =
      (styledFrom? (stackOf (m.after before)) rest).map
        ((styled (m.inside before) m.value).map underTags ++ ·) := by
  -- inside the marker stands what stays open after it and, above that, what it closes
  have hinside : m.after before ++ closedBy m before = m.inside before := List.take_append_drop _ _
  have hstack : stackOf (m.inside before) =
      (closedBy m before).reverse.map openTag ++ stackOf (m.after before) := by
    rw [← hinside, stackOf_append, stackOf, List.map_reverse]
  have hsaid : m.value.toList.map (·, (stackOf (m.inside before)).reverse) =
      (styled (m.inside before) m.value).map underTags := by
    rw [reverse_stackOf, styled, List.map_map]
    rfl
  rw [markerTokens, List.append_assoc, List.cons_append, styledFrom?_openings _ _ h]
  show styledFrom? (stackOf (m.inside before)) _ = _
  rw [styledFrom?, hsaid, hstack, styledFrom?_closings]

/-- **Balanced markers are well nested**, and each character stands under the tags of the markups
that are open there. -/
theorem styledFrom?_markers (ms : List Marker) (before : List Markup)
    (hms : ∀ u ∈ openedBy ms, u.Admissible) (hbalanced : BalancedFrom before.length ms) :
    styledFrom? (stackOf before) (markersTokens before ms) =
      some ((decodeFrom before ms).map underTags) := by
  induction ms generalizing before with
  | nil =>
    have hnil : before = [] := List.length_eq_zero_iff.1 hbalanced
    rw [hnil]
    rfl
  | cons m ms ih =>
    rw [openedBy_cons, List.forall_mem_append] at hms
    have hrest : BalancedFrom (m.after before).length ms := by
      rw [Marker.length_after]
      exact hbalanced.2
    rw [markersTokens, styledFrom?_marker m before hms.1, ih _ hms.2 hrest, decodeFrom,
      List.map_append, Option.map_some]

/-! ## Text and tags of markers -/

theorem map_fst_decodeFrom (ms : List Marker) (before : List Markup) :
    (decodeFrom before ms).map Prod.fst = ms.flatMap (·.value.toList) := by
  induction ms generalizing before with
  | nil => rfl
  | cons m ms ih =>
    have hvalue : (styled (m.inside before) m.value).map Prod.fst = m.value.toList := by
      rw [styled, List.map_map]
      exact List.map_id _
    rw [decodeFrom, List.map_append, ih, hvalue, List.flatMap_cons]

theorem startTags_append (ts us : List Token) :
    startTags (ts ++ us) = startTags ts ++ startTags us := List.filterMap_append

theorem startTags_textOf (s : String) : startTags (textOf s) = [] := by
  rw [textOf]
  split <;> rfl

theorem startTags_joinFrom (ts : List Token) (pending : String) :
    startTags (joinFrom pending ts) = startTags ts := by
  induction ts generalizing pending with
  | nil => exact startTags_textOf pending
  | cons t ts ih =>
    cases t with
    | text s => exact ih (pending ++ s)
    | start tag attributes =>
      rw [joinFrom, startTags_append, startTags_textOf]
      exact congrArg ((tag, attributes) :: ·) (ih "")
    | finish tag =>
      rw [joinFrom, startTags_append, startTags_textOf]
      exact ih ""

theorem startTags_openings (us : List Markup) :
    startTags (us.map fun u => .start u.tagName u.attributes.entries) = us.map openTag := by
  induction us with
  | nil => rfl
  | cons u us ih => exact congrArg (openTag u :: ·) ih

theorem startTags_closings (us : List Markup) :
    startTags (us.map fun u => .finish u.tagName) = [] := by
  induction us with
  | nil => rfl
  | cons u us ih => exact ih

theorem startTags_markers (ms : List Marker) (before : List Markup) :
    startTags (markersTokens before ms) = (openedBy ms).map openTag := by
  induction ms generalizing before with
  | nil => rfl
  | cons m ms ih =>
    have htext : startTags (.text m.value :: (closedBy m before).reverse.map fun u =>
        .finish u.tagName) = [] := startTags_closings _
    rw [markersTokens, markerTokens, startTags_append, startTags_append, startTags_openings, htext,
      ih, List.append_nil, openedBy_cons, List.map_append]

/-- Balanced markers come back as elements that say the same. -/
theorem exists_depictsMarkers {ms : List Marker} (h : markersFaults 0 ms = []) :
    ∃ es, Element.ProperList es ∧ Element.tokensList es = joinTexts (markersTokens [] ms) ∧
      DepictsMarkers ms es := by
  obtain ⟨hms, hbalanced⟩ := (markersFaults_eq_nil 0 ms).1 h
  have hread := styledFrom?_markers ms [] hms hbalanced
  have hjoined : styledFrom? [] (joinTexts (markersTokens [] ms)) =
      some ((decode ms).map underTags) := by
    rw [styledFrom?_joinTexts]
    exact hread
  obtain ⟨es, hproper, htokens, hstyled⟩ := exists_tokensList hjoined
  refine ⟨es, hproper, htokens, ?_, hstyled, ?_⟩
  · rw [hstyled, List.map_map]
    exact map_fst_decodeFrom ms []
  · rw [htokens, joinTexts, startTags_joinFrom, startTags_markers]

/-! ## Blocks -/

/-- The tokens come back as the elements, whatever follows them. -/
def Reads (ts : List Token) (es : List Element) : Prop :=
  Element.ProperList es ∧ ∀ rest, joinTexts (ts ++ rest) = Element.tokensList es ++ joinTexts rest

theorem properList_append {es fs : List Element} (hes : Element.ProperList es)
    (hfs : Element.ProperList fs) : Element.ProperList (es ++ fs) := by
  induction es with
  | nil => exact hfs
  | cons e es ih => exact ⟨hes.1, ih hes.2⟩

theorem tokensList_append (es fs : List Element) :
    Element.tokensList (es ++ fs) = Element.tokensList es ++ Element.tokensList fs := by
  induction es with
  | nil => rfl
  | cons e es ih =>
    rw [List.cons_append, Element.tokensList, Element.tokensList, ih, List.append_assoc]

theorem Reads.append {ts us : List Token} {es fs : List Element} (h : Reads ts es)
    (h' : Reads us fs) : Reads (ts ++ us) (es ++ fs) := by
  refine ⟨properList_append h.1 h'.1, fun rest => ?_⟩
  rw [List.append_assoc, h.2, h'.2, tokensList_append, List.append_assoc]

theorem Reads.joinTexts_eq {ts : List Token} {es : List Element} (h : Reads ts es) :
    joinTexts ts = Element.tokensList es := by
  have hts := h.2 []
  rw [List.append_nil] at hts
  exact hts.trans (List.append_nil _)

/-- An end tag ends the text before it. -/
theorem joinFrom_finish (ts rest : List Token) (tag pending : String) :
    joinFrom pending (ts ++ .finish tag :: rest) =
      joinFrom pending ts ++ .finish tag :: joinTexts rest := by
  induction ts generalizing pending with
  | nil => rfl
  | cons t ts ih =>
    cases t with
    | text s => exact ih (pending ++ s)
    | start tag' attributes =>
      rw [List.cons_append, joinFrom, joinFrom, ih, List.append_assoc, List.cons_append]
    | finish tag' =>
      rw [List.cons_append, joinFrom, joinFrom, ih, List.append_assoc, List.cons_append]

theorem reads_element {tag : String} {inner : List Token} {es : List Element}
    (htag : isElementTag tag = true) (hes : Element.ProperList es)
    (hinner : Element.tokensList es = joinTexts inner) :
    Reads (elementTokens tag inner) [.element tag [] es] := by
  refine ⟨⟨⟨ne_img_of_isElementTag htag, hes⟩, trivial⟩, fun rest => ?_⟩
  have hjoin := joinFrom_finish inner rest tag ""
  rw [elementTokens, List.append_assoc, List.singleton_append, List.cons_append, joinTexts,
    joinFrom, hjoin, Element.tokensList, Element.tokens, Element.tokensList, hinner]
  simp [textOf, joinTexts]

/-- Blocks in a row come back as elements in a row. -/
theorem exists_reads_flatMap {α : Type} {tokens : α → List Token} {Shows : α → Element → Prop}
    (as : List α) (h : ∀ a ∈ as, ∃ e, Reads (tokens a) [e] ∧ Shows a e) :
    ∃ es, Reads (as.flatMap tokens) es ∧ List.Forall₂ Shows as es := by
  induction as with
  | nil => exact ⟨[], ⟨trivial, fun rest => rfl⟩, .nil⟩
  | cons a as ih =>
    obtain ⟨⟨e, he, hshow⟩, has⟩ := List.forall_mem_cons.1 h
    obtain ⟨es, hes, hshows⟩ := ih has
    exact ⟨e :: es, he.append hes, .cons hshow hshows⟩

theorem exists_reads_item {i : ListItem} (h : markersFaults 0 i.markers = []) :
    ∃ e, Reads (itemTokens i) [e] ∧ DepictsItem i e := by
  obtain ⟨es, hproper, htokens, hdepicts⟩ := exists_depictsMarkers h
  exact ⟨_, reads_element rfl hproper htokens, es, rfl, hdepicts⟩

theorem exists_reads_section {s : Section} (h : sectionFaults s = []) :
    ∃ e, Reads (sectionTokens s) [e] ∧ DepictsSection s e := by
  cases s with
  | markup s =>
    obtain ⟨htag, hms⟩ := List.append_eq_nil_iff.1 h
    obtain ⟨es, hproper, htokens, hdepicts⟩ := exists_depictsMarkers hms
    exact ⟨_, reads_element (check_eq_nil.1 htag) hproper htokens, es, rfl, hdepicts⟩
  | list s =>
    obtain ⟨htag, hitems⟩ := List.append_eq_nil_iff.1 h
    obtain ⟨es, hreads, hshows⟩ := exists_reads_flatMap s.items fun i hi =>
      exists_reads_item (List.flatMap_eq_nil_iff.1 hitems i hi)
    have hinner := hreads.joinTexts_eq.symm
    exact ⟨_, reads_element (check_eq_nil.1 htag) hreads.1 hinner, es, rfl, hshows⟩
  | image s =>
    exact ⟨.void "img" [("src", s.src)], ⟨⟨rfl, trivial⟩, fun rest => rfl⟩, rfl⟩
  | card c =>
    have hproper : Element.Proper (.element "div" [("data-card", c.name)] []) :=
      ⟨by decide, trivial⟩
    exact ⟨.element "div" [("data-card", c.name)] [], ⟨⟨hproper, trivial⟩, fun rest => rfl⟩, rfl⟩

/-! ## Nodes -/

theorem plain_node {n : Node} (hn : IsBlock n) (h : nodeFaults n = []) :
    ∀ t ∈ nodeTokens n, t.Plain := by
  cases n with
  | post p =>
    intro t ht
    obtain ⟨s, hs, ht⟩ := List.mem_flatMap.1 ht
    exact plain_section (List.flatMap_eq_nil_iff.1 h s hs) t ht
  | markupSection s => exact plain_section (s := .markup s) h
  | listSection s => exact plain_section (s := .list s) h
  | listItem i => exact plain_item h
  | imageSection s => exact plain_section (s := .image s) h
  | card c => exact plain_section (s := .card c) h
  | marker m => exact hn.elim
  | markup m => exact hn.elim

theorem exists_reads_node {n : Node} (hn : IsBlock n) (h : nodeFaults n = []) :
    ∃ es, Reads (nodeTokens n) es ∧ Depicts n es := by
  have hblock : ∀ {s : Section}, sectionFaults s = [] →
      ∃ es, Reads (sectionTokens s) es ∧ ∃ e, es = [e] ∧ DepictsSection s e := by
    intro s hs
    obtain ⟨e, hreads, hdepicts⟩ := exists_reads_section hs
    exact ⟨[e], hreads, e, rfl, hdepicts⟩
  cases n with
  | post p =>
    exact exists_reads_flatMap p.sections fun s hs =>
      exists_reads_section (List.flatMap_eq_nil_iff.1 h s hs)
  | markupSection s => exact hblock (s := .markup s) h
  | listSection s => exact hblock (s := .list s) h
  | listItem i =>
    obtain ⟨e, hreads, hdepicts⟩ := exists_reads_item h
    exact ⟨[e], hreads, e, rfl, hdepicts⟩
  | imageSection s => exact hblock (s := .image s) h
  | card c => exact hblock (s := .card c) h
  | marker m => exact hn.elim
  | markup m => exact hn.elim

/-- **The HTML of a post, a section or an item is well nested and depicts it.** Read back, it is the
flat form of elements; every end tag closes the start tag opened last and nothing stays open; and
the elements are those of the document, with its text under its markups. -/
theorem render_depicts {n : Node} {s : String} (hn : IsBlock n) (h : render n = .ok s) :
    ∃ es, tokens? s = some (Element.tokensList es) ∧ Element.ProperList es ∧
      WellNested (Element.tokensList es) ∧ Depicts n es := by
  obtain ⟨hfaults, rfl⟩ := (render_ok_iff n s).1 h
  obtain ⟨es, hreads, hdepicts⟩ := exists_reads_node hn hfaults
  refine ⟨es, ?_, hreads.1, ?_, hdepicts⟩
  · rw [tokens_htmlOf (plain_node hn hfaults), hreads.joinTexts_eq]
  · rw [WellNested, styledFrom?_tokensList hreads.1]
    rfl

/-- A post with a markup over two markers, another one inside it, a list, an image and a card. -/
def nestedPost : Post where
  sections := [
    .markup ⟨"p", [⟨"1 < ", [], 0⟩, ⟨"2", [⟨"strong", .empty⟩], 0⟩,
      ⟨" & 3", [(Markup.mk "a" .empty).attribute "href" "#"], 2⟩]⟩,
    .list ⟨"ul", [⟨[⟨"", [], 0⟩]⟩, ⟨[⟨"x", [⟨"em", .empty⟩], 1⟩]⟩]⟩,
    .image ⟨"i.png"⟩,
    .card ⟨"hr", .obj []⟩]

/-- Its HTML. -/
def nestedHtml : String :=
  "<p>1 &lt; <strong>2<a href=\"#\"> &amp; 3</a></strong></p>" ++
    "<ul><li></li><li><em>x</em></li></ul><img src=\"i.png\"><div data-card=\"hr\"></div>"

theorem render_depicts_nestedPost :
    IsBlock (.post nestedPost) ∧ render (.post nestedPost) = .ok nestedHtml ∧
      ∃ es, tokens? nestedHtml = some (Element.tokensList es) ∧ Element.ProperList es ∧
        WellNested (Element.tokensList es) ∧ Depicts (.post nestedPost) es := by
  have hblock : IsBlock (.post nestedPost) := trivial
  have hrender : render (.post nestedPost) = .ok nestedHtml := by decide +kernel
  exact ⟨hblock, hrender, render_depicts hblock hrender⟩

end RichText.Html
