import RichText.Proofs.Html.Escaping
import RichText.Proofs.Html.Run

/-!
# Reading back what was written

`tokens?` knows nothing of the HTML target. Here it is shown to read back the tokens from which a
text was written, as far as the text can tell: two texts in a row come back as one, and an empty
text does not come back at all (`joinTexts`).

- **Text and values.** An escaped text holds no angle bracket and no quote (`Escaped`), so the
  reader splits outside of it.
- **Tags.** A tag with plain names is taken apart at its blank and its quotes (`tag?_start`).
- **Tokens.** `tokens_htmlOf` reads a whole text.
-/

namespace RichText.Html

/-! ## What the reader splits at -/

/-- There is no angle bracket among the characters. -/
def NoBracket (cs : List Char) : Prop := ∀ c ∈ cs, c ≠ '<' ∧ c ≠ '>'

theorem NoBracket.append {cs ds : List Char} (hcs : NoBracket cs) (hds : NoBracket ds) :
    NoBracket (cs ++ ds) := List.forall_mem_append.2 ⟨hcs, hds⟩

theorem NoBracket.cons {c : Char} {cs : List Char} (hc : c ≠ '<' ∧ c ≠ '>') (hcs : NoBracket cs) :
    NoBracket (c :: cs) := List.forall_mem_cons.2 ⟨hc, hcs⟩

theorem Escaped.noBracket {cs : List Char} (h : Escaped cs) : NoBracket cs := by
  intro c hc
  constructor
  · rintro rfl
    exact h.delimiter '<' (by decide) hc
  · rintro rfl
    exact h.delimiter '>' (by decide) hc

/-- All characters may stand in the name of a tag or an attribute. -/
def IsName (s : String) : Prop := s.toList.all isNameChar = true

instance (s : String) : Decidable (IsName s) :=
  inferInstanceAs (Decidable (s.toList.all isNameChar = true))

/-- The names in a token are plain. -/
def Token.Plain : Token → Prop
  | .start tag attributes => IsName tag ∧ ∀ e ∈ attributes, IsName e.1
  | .finish tag => IsName tag
  | .text _ => True

/-- A name has none of the characters at which the reader splits. -/
theorem IsName.raw {s : String} (h : IsName s) {c : Char} (hc : c ∈ s.toList) :
    c ≠ '<' ∧ c ≠ '>' ∧ c ≠ '"' ∧ c ≠ ' ' ∧ c ≠ '/' := by
  have hchar : isNameChar c = true := List.all_eq_true.1 h c hc
  refine ⟨?_, ?_, ?_, ?_, ?_⟩ <;> (rintro rfl; exact absurd hchar (by decide))

theorem IsName.noBracket {s : String} (h : IsName s) : NoBracket s.toList := fun _ hc =>
  ⟨(h.raw hc).1, (h.raw hc).2.1⟩

/-! ## Tags -/

/-- An attribute as it is written. -/
def attributeChars (e : String × String) : List Char :=
  ' ' :: e.1.toList ++ '=' :: '"' :: escapeChars e.2.toList ++ ['"']

/-- The inside of a start tag. -/
def startChars (tag : String) (attributes : List (String × String)) : List Char :=
  tag.toList ++ attributes.flatMap attributeChars

theorem toList_attributeText (e : String × String) :
    (attributeText e).toList = attributeChars e := by
  simp [attributeText, attributeChars, toList_escape]

theorem toList_startTag (tag : String) (attributes : List (String × String)) :
    (startTag tag attributes).toList = '<' :: startChars tag attributes ++ ['>'] := by
  simp [startTag, startChars, toList_attributeText, List.flatMap_def, Function.comp_def]

theorem attributes?_chars (attributes : List (String × String))
    (h : ∀ e ∈ attributes, IsName e.1) :
    attributes? ((attributes.flatMap attributeChars).splitOn '"') = some attributes := by
  induction attributes with
  | nil => rfl
  | cons e attributes ih =>
    have hname : '"' ∉ ' ' :: e.1.toList ++ ['='] := by
      intro hq
      simp only [List.cons_append, List.mem_cons, List.mem_append, List.not_mem_nil] at hq
      rcases hq with hq | hq | hq | hq
      · exact absurd hq (by decide)
      · exact ((h e List.mem_cons_self).raw hq).2.2.1 rfl
      · exact absurd hq (by decide)
      · exact hq
    have hvalue : '"' ∉ escapeChars e.2.toList :=
      (escaped_escapeChars _).delimiter '"' (by decide)
    have hchars : (e :: attributes).flatMap attributeChars =
        (' ' :: e.1.toList ++ ['=']) ++ '"' :: (escapeChars e.2.toList ++
          '"' :: attributes.flatMap attributeChars) := by
      simp [attributeChars]
    have hlast : (e.1.toList ++ ['=']).getLast? = some '=' := List.getLast?_concat
    rw [hchars, List.splitOn_append_cons_self_of_not_mem hname,
      List.splitOn_append_cons_self_of_not_mem hvalue, List.cons_append, attributes?, if_pos hlast,
      ih fun d hd => h d (List.mem_cons_of_mem _ hd), List.dropLast_concat,
      unescapeChars_escapeChars, String.ofList_toList, String.ofList_toList]
    rfl

/-- A name ends at the first blank, and the attributes begin there. -/
theorem span_startChars {tag : String} (h : IsName tag) (attributes : List (String × String)) :
    (startChars tag attributes).takeWhile (· != ' ') = tag.toList ∧
      (startChars tag attributes).dropWhile (· != ' ') = attributes.flatMap attributeChars := by
  have hblank : ∀ c ∈ tag.toList, (c != ' ') = true := fun c hc =>
    bne_iff_ne.2 (h.raw hc).2.2.2.1
  rw [startChars, List.takeWhile_append_of_pos hblank, List.dropWhile_append_of_pos hblank]
  cases attributes with
  | nil => simp
  | cons e attributes => simp [attributeChars]

/-- The inside of a start tag is taken apart into its name and its attributes. -/
theorem tag?_start {tag : String} {attributes : List (String × String)}
    (h : (Token.start tag attributes).Plain) :
    tag? (startChars tag attributes) = some (.start tag attributes) := by
  obtain ⟨htag, hattributes⟩ := h
  obtain ⟨htake, hdrop⟩ := span_startChars htag attributes
  -- it is not mistaken for the inside of an end tag
  have hslash : ∀ name, startChars tag attributes ≠ '/' :: name := by
    intro name hs
    rw [hs] at htake
    have hmem : '/' ∈ tag.toList := by
      rw [← htake]
      exact List.mem_cons_self
    exact (htag.raw hmem).2.2.2.2 rfl
  rw [tag?]
  · rw [htake, hdrop, attributes?_chars attributes hattributes, String.ofList_toList]
    rfl
  · exact hslash

theorem tag?_finish (tag : String) : tag? ('/' :: tag.toList) = some (.finish tag) := by
  rw [tag?, String.ofList_toList]

/-! ## Tokens -/

section Reading

variable {pending rest inside : List Char}

/-- Characters between angle brackets are set aside, inside of a tag or outside. -/
theorem tokensFrom_chars (inTag : Bool) (cs : List Char) (h : NoBracket cs) :
    tokensFrom inTag pending (cs ++ rest) = tokensFrom inTag (cs.reverse ++ pending) rest := by
  induction cs generalizing pending with
  | nil => rfl
  | cons c cs ih =>
    obtain ⟨hlt, hgt⟩ := h c List.mem_cons_self
    rw [List.cons_append, tokensFrom, ih fun d hd => h d (List.mem_cons_of_mem _ hd),
      List.reverse_cons, List.append_assoc]
    · rfl
    -- the four tests of the reader for an angle bracket fail
    all_goals simp_all

/-- A tag ends the text before it and starts a new one. -/
theorem tokensFrom_tag {t : Token} (h : NoBracket inside) (ht : tag? inside = some t) :
    tokensFrom false pending ('<' :: inside ++ '>' :: rest) =
      (tokensFrom false [] rest).map fun ts => textToken pending.reverse ++ t :: ts := by
  rw [List.cons_append, tokensFrom, tokensFrom_chars true inside h, tokensFrom, List.append_nil,
    List.reverse_reverse, ht]
  cases tokensFrom false [] rest <;> rfl

end Reading

/-- The token of a text, unless it is empty. -/
def textOf (s : String) : List Token := if s = "" then [] else [.text s]

/-- What can be read back of tokens that follow the text `pending`. -/
def joinFrom (pending : String) : List Token → List Token
  | [] => textOf pending
  | .text s :: rest => joinFrom (pending ++ s) rest
  | .start tag attributes :: rest => textOf pending ++ .start tag attributes :: joinFrom "" rest
  | .finish tag :: rest => textOf pending ++ .finish tag :: joinFrom "" rest

/-- What can be read back of tokens: texts in a row are one, and there is no empty text. -/
def joinTexts (ts : List Token) : List Token := joinFrom "" ts

theorem textToken_escapeChars (s : String) : textToken (escapeChars s.toList) = textOf s := by
  rw [textToken, textOf, unescapeChars_escapeChars, String.ofList_toList]
  by_cases h : s = ""
  · rw [if_pos h, h]
    rfl
  · have hne : escapeChars s.toList ≠ [] := fun hnil =>
      h (String.toList_eq_nil_iff.1 (escapeChars_eq_nil hnil))
    rw [if_neg h, if_neg (by simpa using hne)]

theorem noBracket_attributeChars {e : String × String} (h : IsName e.1) :
    NoBracket (attributeChars e) := by
  refine NoBracket.append (NoBracket.append ?_ ?_) ?_
  · exact .cons (by decide) h.noBracket
  · exact .cons (by decide) (.cons (by decide) (escaped_escapeChars _).noBracket)
  · exact .cons (by decide) (fun c hc => by cases hc)

theorem noBracket_startChars {tag : String} {attributes : List (String × String)}
    (h : (Token.start tag attributes).Plain) : NoBracket (startChars tag attributes) := by
  refine h.1.noBracket.append fun c hc => ?_
  obtain ⟨e, he, hc⟩ := List.mem_flatMap.1 hc
  exact noBracket_attributeChars (h.2 e he) c hc

theorem htmlOf_cons (t : Token) (ts : List Token) :
    (htmlOf (t :: ts)).toList = t.html.toList ++ (htmlOf ts).toList := by
  rw [← List.singleton_append, htmlOf_append, htmlOf_singleton, String.toList_append]

/-- The text set aside so far is what was written of `pending`. -/
theorem tokensFrom_htmlOf (ts : List Token) (h : ∀ t ∈ ts, t.Plain) (pending : String) :
    tokensFrom false (escapeChars pending.toList).reverse (htmlOf ts).toList =
      some (joinFrom pending ts) := by
  induction ts generalizing pending with
  | nil =>
    rw [joinFrom, ← textToken_escapeChars]
    simp [htmlOf, tokensFrom]
  | cons t ts ih =>
    obtain ⟨ht, hts⟩ := List.forall_mem_cons.1 h
    -- after a tag, nothing is set aside
    have hempty : tokensFrom false [] (htmlOf ts).toList = some (joinFrom "" ts) := ih hts ""
    rw [htmlOf_cons]
    cases t with
    | text s =>
      have hraw : NoBracket (escapeChars s.toList) := (escaped_escapeChars _).noBracket
      rw [Token.html, toList_escape, tokensFrom_chars false _ hraw,
        ← List.reverse_append, ← escapeChars_append, ← String.toList_append, ih hts]
      rfl
    | start tag attributes =>
      rw [Token.html, toList_startTag, List.append_assoc, List.singleton_append,
        tokensFrom_tag (noBracket_startChars ht) (tag?_start ht), hempty, List.reverse_reverse,
        textToken_escapeChars]
      rfl
    | finish tag =>
      have hname : IsName tag := ht
      have hraw : NoBracket ('/' :: tag.toList) := .cons (by decide) hname.noBracket
      have hchars : (Token.finish tag).html.toList = '<' :: ('/' :: tag.toList) ++ ['>'] := by
        simp [Token.html, endTag]
      rw [hchars, List.append_assoc, List.singleton_append, tokensFrom_tag hraw (tag?_finish tag),
        hempty, List.reverse_reverse, textToken_escapeChars]
      rfl

/-- **Tokens are read back as they were written**, up to how texts are divided. -/
theorem tokens_htmlOf {ts : List Token} (h : ∀ t ∈ ts, t.Plain) :
    tokens? (htmlOf ts) = some (joinTexts ts) := tokensFrom_htmlOf ts h ""

end RichText.Html
