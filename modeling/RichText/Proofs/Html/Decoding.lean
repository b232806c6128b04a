import RichText.Proofs.Html.Depiction

/-!
# The HTML of any opcodes decodes to what they contribute

Opcodes need not come from a document. Whatever they are, those that the target accepts contribute
tags and texts, and the HTML written so far is read back as exactly these: no text, attribute value,
source or card name can put a tag of its own into the output, or take one out.

* `Contributes` says what an accepted opcode contributes. It speaks of opcodes and tokens only and
  keeps account of the markups whose start tag has no end tag yet.
* `unclosedMarkups?` finds these markups in the tokens, by their tags alone.
* `Token.Known` allows the tags and attribute names that a writer may use.

**Theorem (`run_decodes`).** After any run, complete or stopped at an error, the HTML is read back
as the contributions of the accepted opcodes, all of its names are known, and its unclosed markups
are the stack of the target.
-/

namespace RichText.Html

/-! ## Contributions -/

/-- An opcode that is accepted while the markups `us` are unclosed, innermost first, contributes
tokens and leaves other markups unclosed. -/
inductive Contributes : List String → Opcode → List Token → List String → Prop
  | openElement {tag : String} (us : List String) : isElementTag tag = true →
    Contributes us (.unary "openElement" (.str tag)) [.start tag []] us
  /-- No markup reaches beyond the end of an element. -/
  | closeElement {tag : String} : isElementTag tag = true →
    Contributes [] (.unary "closeElement" (.str tag)) [.finish tag] []
  | openMarkup {tag : String} {es : List (String × String)} (us : List String) :
    isMarkupTag tag = true → (∀ e ∈ es, isAttributeName e.1 = true) →
    Contributes us (.binary "openMarkup" (.str tag) (.strings (es.flatMap fun e => [e.1, e.2])))
      [.start tag es] (tag :: us)
  | text (us : List String) (s : String) :
    Contributes us (.unary "text" (.str s)) [.text s] us
  | closeMarkups (closed us : List String) :
    Contributes (closed ++ us) (.unary "closeMarkups" (.nat closed.length))
      (closed.map .finish) us
  | image (us : List String) (src : String) :
    Contributes us (.unary "image" (.str src)) [.start "img" [("src", src)]] us
  | card (us : List String) (name : String) (payload : Json) :
    Contributes us (.binary "card" (.str name) payload)
      [.start "div" [("data-card", name)], .finish "div"] us

/-- What accepted opcodes contribute one after another. -/
inductive ContributesAll : List String → List Opcode → List Token → List String → Prop
  | nil (us : List String) : ContributesAll us [] [] us
  | cons {us vs ws : List String} {o : Opcode} {os : List Opcode} {ts ts' : List Token} :
    Contributes us o ts vs → ContributesAll vs os ts' ws →
    ContributesAll us (o :: os) (ts ++ ts') ws

/-- The tags that the target may write. -/
def IsKnownTag (tag : String) : Prop :=
  isElementTag tag = true ∨ isMarkupTag tag = true ∨ tag = "img" ∨ tag = "div"

/-- The tag is known, and the attribute names are plain. -/
def Token.Known : Token → Prop
  | .start tag attributes => IsKnownTag tag ∧ ∀ e ∈ attributes, isAttributeName e.1 = true
  | .finish tag => IsKnownTag tag
  | .text _ => True

/-- The markups that are unclosed after the tokens, innermost first, where `us` are unclosed before
them. There are none if an end tag of a markup is not that of the innermost one. -/
def unclosedMarkups? (us : List String) : List Token → Option (List String)
  | [] => some us
  | .text _ :: rest => unclosedMarkups? us rest
  | .start tag _ :: rest => unclosedMarkups? (if isMarkupTag tag then tag :: us else us) rest
  | .finish tag :: rest =>
    if isMarkupTag tag then
      if us.head? = some tag then unclosedMarkups? us.tail rest else none
    else unclosedMarkups? us rest

/-! ## Parameters -/

theorem eq_str_of_text {p : Json} {index : Nat} {s : String} (h : Param.text p index = .ok s) :
    p = .str s := by
  cases p <;> simp [Param.text, Json.str?] at h
  rw [h]

theorem eq_nat_of_count {p : Json} {index n : Nat} (h : Param.count p index = .ok n) :
    p = .nat n := by
  unfold Param.count at h
  split at h
  · rename_i m hm
    unfold Json.nat? at hm
    split at hm
    · cases hm
      cases h
      rfl
    · cases hm
  · cases h

theorem eq_of_pairsOf? {items : List Json} {es : List (String × String)}
    (h : Param.pairsOf? items = some es) :
    items = es.flatMap fun e => [.str e.1, .str e.2] := by
  induction items using Param.pairsOf?.induct generalizing es with
  | case1 =>
    cases h
    rfl
  | case2 k v rest ih =>
    obtain ⟨es', hes, rfl⟩ := Option.map_eq_some_iff.1 h
    rw [ih hes]
    rfl
  | case3 items hnil hcons =>
    rw [Param.pairsOf?] at h
    · cases h
    · exact hnil
    · exact hcons

theorem eq_strings_of_pairs {p : Json} {index : Nat} {es : List (String × String)}
    (h : Param.pairs p index = .ok es) : p = .strings (es.flatMap fun e => [e.1, e.2]) := by
  unfold Param.pairs at h
  split at h
  · rename_i es' hes
    cases h
    cases p <;> simp [Json.arr?] at hes
    rw [strings_flatMap, eq_of_pairsOf? hes]
  · cases h

/-- What a check lets through is as the check demands. -/
theorem eq_ok_of_require {α : Type} {holds : Bool} {index : Nat} {expected : ParamShape}
    {found : String} {a b : α}
    (h : (require holds index expected found >>= fun _ => pure a) = .ok b) :
    holds = true ∧ a = b := by
  cases holds with
  | true => exact ⟨rfl, Except.ok.inj h⟩
  | false => cases h

theorem exists_of_text_bind {α : Type} {p : Json} {k : String → Except Error α} {a : α}
    (h : (Param.text p 0 >>= k) = .ok a) : ∃ s, p = .str s ∧ k s = .ok a := by
  obtain ⟨s, hs, hk⟩ := bind_eq_ok_iff.1 h
  exact ⟨s, eq_str_of_text hs, hk⟩

theorem elementTag_eq_ok {p : Json} {tag : String} (h : elementTag p = .ok tag) :
    p = .str tag ∧ isElementTag tag = true := by
  obtain ⟨s, rfl, hs⟩ := exists_of_text_bind h
  obtain ⟨hknown, rfl⟩ := eq_ok_of_require hs
  exact ⟨rfl, hknown⟩

theorem markupTag_eq_ok {p : Json} {tag : String} (h : markupTag p = .ok tag) :
    p = .str tag ∧ isMarkupTag tag = true := by
  obtain ⟨s, rfl, hs⟩ := exists_of_text_bind h
  obtain ⟨hknown, rfl⟩ := eq_ok_of_require hs
  exact ⟨rfl, hknown⟩

theorem markupAttributes_eq_ok {p : Json} {es : List (String × String)}
    (h : markupAttributes p = .ok es) :
    p = .strings (es.flatMap fun e => [e.1, e.2]) ∧ ∀ e ∈ es, isAttributeName e.1 = true := by
  obtain ⟨pairs, hpairs, h⟩ := bind_eq_ok_iff.1 h
  cases hfind : pairs.find? fun e => !isAttributeName e.1 with
  | some e =>
    rw [hfind] at h
    cases h
  | none =>
    rw [hfind] at h
    cases h
    refine ⟨eq_strings_of_pairs hpairs, fun e he => ?_⟩
    simpa using List.find?_eq_none.1 hfind e he

/-! ## Single opcodes -/

namespace Writer

/-- The target went on from `w` to `w'` by writing what the opcode contributes. -/
def Follows (w : Writer) (o : Opcode) (w' : Writer) : Prop :=
  ∃ ts, Contributes w.openMarkups o ts w'.openMarkups ∧ w'.html = w.html ++ htmlOf ts

theorem follows_write {w : Writer} {o : Opcode} {t : Token}
    (h : Contributes w.openMarkups o [t] w.openMarkups) : w.Follows o (w.write t.html) :=
  ⟨[t], h, by rw [htmlOf_singleton, write]⟩

theorem entries_handlers : handlers.entries = [
    ("card", .binary card),
    ("image", .unary image),
    ("closeMarkups", .unary closeMarkups),
    ("text", .unary text),
    ("openMarkup", .binary openMarkup),
    ("closeElement", .unary closeElement),
    ("openElement", .unary openElement)] := by
  rfl

section Handlers

variable (w : Writer)

theorem ends_openElement (p : Json) :
    (openElement p w).Ends (w.Follows (.unary "openElement" p)) (· = w) := by
  refine Outcome.ends_given rfl fun tag htag => ?_
  obtain ⟨rfl, hknown⟩ := elementTag_eq_ok htag
  exact follows_write (.openElement w.openMarkups hknown)

theorem ends_closeElement (p : Json) :
    (closeElement p w).Ends (w.Follows (.unary "closeElement" p)) (· = w) := by
  refine Outcome.ends_given rfl fun tag htag => ?_
  obtain ⟨rfl, hknown⟩ := elementTag_eq_ok htag
  obtain ⟨html, us⟩ := w
  cases us with
  | nil => exact follows_write (w := ⟨html, []⟩) (.closeElement hknown)
  | cons u us => exact rfl

theorem ends_openMarkup (p q : Json) :
    (openMarkup p q w).Ends (w.Follows (.binary "openMarkup" p q)) (· = w) := by
  refine Outcome.ends_given rfl fun tag htag => ?_
  refine Outcome.ends_given rfl fun es hes => ?_
  obtain ⟨rfl, hknown⟩ := markupTag_eq_ok htag
  obtain ⟨rfl, hnames⟩ := markupAttributes_eq_ok hes
  exact ⟨[.start tag es], .openMarkup w.openMarkups hknown hnames, by rw [htmlOf_singleton]; rfl⟩

theorem ends_text (p : Json) : (text p w).Ends (w.Follows (.unary "text" p)) (· = w) := by
  refine Outcome.ends_given rfl fun s hs => ?_
  obtain rfl := eq_str_of_text hs
  have hhtml : (Token.text s).html = escape s := rfl
  show w.Follows _ (w.write (escape s))
  rw [← hhtml]
  exact follows_write (.text w.openMarkups s)

theorem ends_closeMarkups (p : Json) :
    (closeMarkups p w).Ends (w.Follows (.unary "closeMarkups" p)) (· = w) := by
  refine Outcome.ends_given rfl fun n hn => ?_
  obtain rfl := eq_nat_of_count hn
  by_cases hle : n ≤ w.openMarkups.length
  · rw [if_pos hle]
    -- the stack is what is closed and, below it, what stays open
    have hcontributes := Contributes.closeMarkups (w.openMarkups.take n) (w.openMarkups.drop n)
    rw [List.take_append_drop, List.length_take, Nat.min_eq_left hle] at hcontributes
    refine ⟨_, hcontributes, ?_⟩
    rw [htmlOf, List.map_map]
    rfl
  · rw [if_neg hle]
    exact rfl

theorem ends_image (p : Json) : (image p w).Ends (w.Follows (.unary "image" p)) (· = w) := by
  refine Outcome.ends_given rfl fun src hsrc => ?_
  obtain rfl := eq_str_of_text hsrc
  exact follows_write (.image w.openMarkups src)

theorem ends_card (p q : Json) :
    (card p q w).Ends (w.Follows (.binary "card" p q)) (· = w) := by
  refine Outcome.ends_given rfl fun name hname => ?_
  obtain rfl := eq_str_of_text hname
  have hhtml := htmlOf_append [.start "div" [("data-card", name)]] [.finish "div"]
  rw [htmlOf_singleton, htmlOf_singleton] at hhtml
  exact ⟨_, .card w.openMarkups name q, congrArg (w.html ++ ·) hhtml.symm⟩

/-- An opcode that is accepted writes what it contributes, and one that fails writes nothing. -/
theorem ends_step (index : Nat) (o : Opcode) :
    (handlers.step index o w).Ends (w.Follows o) (· = w) := by
  have hdispatched := handlers.dispatched_step index o w
  generalize handlers.step index o w = outcome at hdispatched
  obtain ⟨name, params⟩ := o
  cases hdispatched with
  | refused e => exact rfl
  | nullary hmem _ => simp [entries_handlers] at hmem
  | unary hmem hparams =>
    simp only [entries_handlers] at hmem hparams
    subst hparams
    simp at hmem
    rcases hmem with ⟨rfl, rfl⟩ | ⟨rfl, rfl⟩ | ⟨rfl, rfl⟩ | ⟨rfl, rfl⟩ | ⟨rfl, rfl⟩
    · exact w.ends_image _
    · exact w.ends_closeMarkups _
    · exact w.ends_text _
    · exact w.ends_closeElement _
    · exact w.ends_openElement _
  | binary hmem hparams =>
    simp only [entries_handlers] at hmem hparams
    subst hparams
    simp at hmem
    rcases hmem with ⟨rfl, rfl⟩ | ⟨rfl, rfl⟩
    · exact w.ends_card _ _
    · exact w.ends_openMarkup _ _
  | variadic hmem => simp [entries_handlers] at hmem

end Handlers

/-! ## Runs -/

/-- A run writes what its accepted opcodes contribute. -/
theorem runFrom_contributes (ops : List Opcode) (index : Nat) (w : Writer) :
    ∃ ts, ContributesAll w.openMarkups (handlers.accepted index ops w) ts
        (handlers.runFrom index ops w).state.openMarkups ∧
      (handlers.runFrom index ops w).state.html = w.html ++ htmlOf ts := by
  induction ops generalizing index w with
  | nil => exact ⟨[], .nil w.openMarkups, by simp [htmlOf, HandlerTable.runFrom, Outcome.state]⟩
  | cons o ops ih =>
    have hstep := w.ends_step index o
    rw [HandlerTable.accepted, HandlerTable.runFrom]
    cases hout : handlers.step index o w with
    | ok w' =>
      rw [hout] at hstep
      obtain ⟨ts, hts, hhtml⟩ := hstep
      obtain ⟨ts', hts', hhtml'⟩ := ih (index + 1) w'
      refine ⟨ts ++ ts', .cons hts hts', ?_⟩
      rw [htmlOf_append, ← String.append_assoc, ← hhtml]
      exact hhtml'
    | failed e w' =>
      rw [hout] at hstep
      have hw : w' = w := hstep
      refine ⟨[], hw ▸ .nil w.openMarkups, ?_⟩
      simp [Outcome.state, hw, htmlOf]

end Writer

/-! ## Names and unclosed markups -/

section Tokens

variable {us vs : List String} {o : Opcode} {os : List Opcode} {ts : List Token}

theorem not_isMarkupTag_of_isElementTag {tag : String} (h : isElementTag tag = true) :
    isMarkupTag tag = false := by
  have hall : ∀ t ∈ "li" :: markupSectionTags ++ listSectionTags, isMarkupTag t = false := by
    decide
  refine hall tag ?_
  simpa [isElementTag, isMarkupSectionTag, isListSectionTag, or_assoc] using h

theorem unclosedMarkups?_closings (closed us : List String) (rest : List Token)
    (h : ∀ u ∈ closed, isMarkupTag u = true) :
    unclosedMarkups? (closed ++ us) (closed.map .finish ++ rest) = unclosedMarkups? us rest := by
  induction closed with
  | nil => rfl
  | cons u closed ih =>
    obtain ⟨hu, hclosed⟩ := List.forall_mem_cons.1 h
    simpa [unclosedMarkups?, hu] using ih hclosed

/-- The tokens of an opcode have known names and leave the markups unclosed that the opcode
leaves unclosed. -/
theorem Contributes.tokens (h : Contributes us o ts vs) (hus : ∀ u ∈ us, isMarkupTag u = true) :
    (∀ v ∈ vs, isMarkupTag v = true) ∧ (∀ t ∈ ts, t.Known) ∧
      ∀ rest, unclosedMarkups? us (ts ++ rest) = unclosedMarkups? vs rest := by
  cases h with
  | openElement _ htag =>
    have hno := not_isMarkupTag_of_isElementTag htag
    refine ⟨hus, ?_, fun rest => by simp [unclosedMarkups?, hno]⟩
    simp [Token.Known, IsKnownTag, htag]
  | closeElement htag =>
    have hno := not_isMarkupTag_of_isElementTag htag
    refine ⟨hus, ?_, fun rest => by simp [unclosedMarkups?, hno]⟩
    simp [Token.Known, IsKnownTag, htag]
  | openMarkup _ htag hnames =>
    refine ⟨List.forall_mem_cons.2 ⟨htag, hus⟩, ?_, fun rest => by simp [unclosedMarkups?, htag]⟩
    simpa [Token.Known, IsKnownTag, htag] using hnames
  | text _ s => exact ⟨hus, by simp [Token.Known], fun rest => by simp [unclosedMarkups?]⟩
  | closeMarkups closed _ =>
    obtain ⟨hclosed, hvs⟩ := List.forall_mem_append.1 hus
    refine ⟨hvs, fun t ht => ?_, fun rest => unclosedMarkups?_closings closed vs rest hclosed⟩
    obtain ⟨u, hu, rfl⟩ := List.mem_map.1 ht
    exact .inr (.inl (hclosed u hu))
  | image _ src =>
    have himg : isMarkupTag "img" = false := by decide
    have hname : isAttributeName "src" = true := by decide
    refine ⟨hus, by simp [Token.Known, IsKnownTag, hname], fun rest => ?_⟩
    simp [unclosedMarkups?, himg]
  | card _ name payload =>
    have hdiv : isMarkupTag "div" = false := by decide
    have hname : isAttributeName "data-card" = true := by decide
    refine ⟨hus, by simp [Token.Known, IsKnownTag, hname], fun rest => ?_⟩
    simp [unclosedMarkups?, hdiv]

theorem ContributesAll.tokens (h : ContributesAll us os ts vs)
    (hus : ∀ u ∈ us, isMarkupTag u = true) :
    (∀ t ∈ ts, t.Known) ∧ unclosedMarkups? us ts = some vs := by
  induction h with
  | nil us => exact ⟨nofun, rfl⟩
  | cons hone _ ih =>
    obtain ⟨hvs, hknown, hunclosed⟩ := hone.tokens hus
    obtain ⟨hknown', hunclosed'⟩ := ih hvs
    exact ⟨List.forall_mem_append.2 ⟨hknown, hknown'⟩, (hunclosed _).trans hunclosed'⟩

theorem isName_of_isKnownTag {tag : String} (h : IsKnownTag tag) : IsName tag := by
  rcases h with h | h | rfl | rfl
  · exact isName_of_isElementTag h
  · exact isName_of_isMarkupTag h
  · decide
  · decide

theorem Token.Known.plain {t : Token} (h : t.Known) : t.Plain := by
  cases t with
  | start tag attributes =>
    exact ⟨isName_of_isKnownTag h.1, fun e he => isName_of_isAttributeName (h.2 e he)⟩
  | finish tag => exact isName_of_isKnownTag h
  | text s => trivial

/-- Joining texts adds no names. -/
theorem known_joinFrom (h : ∀ t ∈ ts, t.Known) (pending : String) :
    ∀ t ∈ joinFrom pending ts, t.Known := by
  have htext : ∀ s, ∀ t ∈ textOf s, t.Known := by
    intro s t ht
    rw [textOf] at ht
    split at ht
    · cases ht
    · rw [List.mem_singleton.1 ht]
      trivial
  induction ts generalizing pending with
  | nil => exact htext pending
  | cons t ts ih =>
    obtain ⟨ht, hts⟩ := List.forall_mem_cons.1 h
    cases t with
    | text s => exact ih hts _
    | start tag attributes =>
      exact List.forall_mem_append.2 ⟨htext pending, List.forall_mem_cons.2 ⟨ht, ih hts ""⟩⟩
    | finish tag =>
      exact List.forall_mem_append.2 ⟨htext pending, List.forall_mem_cons.2 ⟨ht, ih hts ""⟩⟩

theorem unclosedMarkups?_textOf (us : List String) (s : String) (rest : List Token) :
    unclosedMarkups? us (textOf s ++ rest) = unclosedMarkups? us rest := by
  rw [textOf]
  split <;> rfl

theorem unclosedMarkups?_joinFrom (us : List String) (pending : String) (ts : List Token) :
    unclosedMarkups? us (joinFrom pending ts) = unclosedMarkups? us ts := by
  induction ts generalizing us pending with
  | nil => simpa [joinFrom] using unclosedMarkups?_textOf us pending []
  | cons t ts ih =>
    cases t with
    | text s => exact ih us (pending ++ s)
    | start tag attributes =>
      rw [joinFrom, unclosedMarkups?_textOf, unclosedMarkups?, unclosedMarkups?, ih]
    | finish tag =>
      rw [joinFrom, unclosedMarkups?_textOf, unclosedMarkups?, unclosedMarkups?, ih, ih]

end Tokens

/-- **HTML decodes to what was contributed.** After any run, complete or stopped, the HTML is read
back as the contributions of the accepted opcodes, in order, up to the division of texts. All tags
and attribute names in it are known, and the markups without an end tag are the stack of the
target. -/
theorem run_decodes (ops : Opcodes) :
    ∃ ts, ContributesAll [] (Writer.handlers.accepted 0 ops.toList {}) ts
        (Writer.handlers.run ops {}).state.openMarkups ∧
      tokens? (Writer.handlers.run ops {}).state.html = some (joinTexts ts) ∧
      (∀ t ∈ joinTexts ts, t.Known) ∧
      unclosedMarkups? [] (joinTexts ts) =
        some (Writer.handlers.run ops {}).state.openMarkups := by
  obtain ⟨ts, hall, hhtml⟩ := Writer.runFrom_contributes ops.toList 0 {}
  obtain ⟨hknown, hunclosed⟩ := hall.tokens fun u hu => by cases hu
  have hhtml : (Writer.handlers.run ops {}).state.html = htmlOf ts :=
    hhtml.trans String.empty_append
  refine ⟨ts, hall, ?_, known_joinFrom hknown "", ?_⟩
  · rw [hhtml, tokens_htmlOf fun t ht => (hknown t ht).plain]
  · rw [joinTexts, unclosedMarkups?_joinFrom]
    exact hunclosed

end RichText.Html
