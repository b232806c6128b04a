import RichText.Html.Token

/-!
# Escaping is reversible

An escaped text is closed to whatever stands around it: it has no character at which element content
or a quoted attribute value could end, and each of its ampersands begins an entity (`Escaped`).

- **One character.** The entities are what is written for the five special characters, and after an
  ampersand a character is read just if its entity stands there (`entity?_eq_some_iff`).
- **Seams.** The reader goes from left to right. After an escaped text it is in step, whatever
  follows (`unescapeChars_escapeChars_append`); after another text it need not be, since an entity
  may begin in one text and end in the next.
- **Canonical form.** No other text is escaped than those that are written (`escaped_iff`).

Main result: `escape_reversible`.
-/

namespace RichText.Html

variable {cs rest : List Char}

/-- The characters at which element content, a tag or a quoted attribute value ends. -/
def delimiters : List Char := ['<', '>', '"', '\'']

/-- The characters that do not stand for themselves. -/
def special : List Char := '&' :: delimiters

/-- The entities. -/
def entities : List String := ["&amp;", "&lt;", "&gt;", "&quot;", "&#39;"]

/-- There is no delimiter among the characters, and each ampersand begins an entity. -/
structure Escaped (cs : List Char) : Prop where
  delimiter : ∀ d ∈ delimiters, d ∉ cs
  ampersand : ∀ rest, '&' :: rest <:+ cs → ∃ e ∈ entities, e.toList <+: '&' :: rest

/-! ## One character -/

theorem escapeChar_of_not_special {c : Char} (h : c ∉ special) : escapeChar c = [c] := by
  unfold escapeChar
  split
  case h_6 => rfl
  all_goals exact absurd (by decide) h

theorem mem_special_iff {c : Char} :
    c ∈ special ↔ c = '&' ∨ c = '<' ∨ c = '>' ∨ c = '"' ∨ c = '\'' := by
  simp [special, delimiters]

/-- A special character is written as an ampersand and characters that are not special. -/
theorem exists_body_of_special {c : Char} (h : c ∈ special) :
    ∃ body, escapeChar c = '&' :: body ∧ ∀ b ∈ body, b ∉ special := by
  rcases mem_special_iff.1 h with rfl | rfl | rfl | rfl | rfl
  all_goals exact ⟨_, rfl, by simp [special, delimiters]⟩

theorem map_toList_entities : entities.map String.toList = special.map escapeChar := by
  decide

/-- The entities are what is written for the special characters. -/
theorem exists_entity_iff : (∃ e ∈ entities, e.toList = cs) ↔ ∃ c ∈ special, escapeChar c = cs := by
  rw [← List.mem_map, map_toList_entities, List.mem_map]

/-- After an ampersand, a character is read just if its entity stands there. -/
theorem entity?_eq_some_iff {s : List Char} {c : Char} :
    entity? s = some (c, rest) ↔ '&' :: s = escapeChar c ++ rest := by
  constructor
  · intro h
    unfold entity? at h
    split at h <;> cases h <;> rfl
  · intro h
    by_cases hc : c ∈ special
    · rcases mem_special_iff.1 hc with rfl | rfl | rfl | rfl | rfl
      all_goals
        cases h
        rfl
    -- a character that is written as itself is no ampersand
    · rw [escapeChar_of_not_special hc] at h
      obtain ⟨rfl, -⟩ := List.cons.inj h
      exact absurd List.mem_cons_self hc

/-! ## Escaped texts -/

theorem Escaped.of_suffix (h : Escaped cs) (hrest : rest <:+ cs) : Escaped rest where
  delimiter d hd hmem := h.delimiter d hd (hrest.subset hmem)
  ampersand after hafter := h.ampersand after (hafter.trans hrest)

theorem escaped_nil : Escaped [] := ⟨fun _ _ => List.not_mem_nil, by simp⟩

theorem escaped_cons_iff {c : Char} :
    Escaped (c :: cs) ↔
      c ∉ delimiters ∧ (c = '&' → ∃ e ∈ entities, e.toList <+: c :: cs) ∧ Escaped cs := by
  constructor
  · intro h
    refine ⟨fun hc => h.delimiter c hc List.mem_cons_self, ?_, h.of_suffix (List.suffix_cons c cs)⟩
    rintro rfl
    exact h.ampersand cs List.suffix_rfl
  · rintro ⟨hc, hentity, hcs⟩
    constructor
    · intro d hd hmem
      rcases List.mem_cons.1 hmem with rfl | hmem
      · exact hc hd
      · exact hcs.delimiter d hd hmem
    · intro after hafter
      rcases List.suffix_cons_iff.1 hafter with heq | hafter
      · obtain ⟨rfl, rfl⟩ := List.cons.inj heq
        exact hentity rfl
      · exact hcs.ampersand after hafter

theorem Escaped.plain_append {body : List Char} (hbody : ∀ b ∈ body, b ∉ special)
    (h : Escaped rest) : Escaped (body ++ rest) := by
  induction body with
  | nil => exact h
  | cons b body ih =>
    obtain ⟨hb, hbody⟩ := List.forall_mem_cons.1 hbody
    refine escaped_cons_iff.2 ⟨fun hd => hb (List.mem_cons_of_mem _ hd), ?_, ih hbody⟩
    rintro rfl
    exact absurd List.mem_cons_self hb

theorem Escaped.escapeChar_append (c : Char) (h : Escaped rest) :
    Escaped (escapeChar c ++ rest) := by
  by_cases hc : c ∈ special
  · obtain ⟨body, hchar, hbody⟩ := exists_body_of_special hc
    have hentity : ∃ e ∈ entities, e.toList = escapeChar c := exists_entity_iff.2 ⟨c, hc, rfl⟩
    obtain ⟨e, he, heq⟩ := hentity
    have hbegins : e.toList <+: escapeChar c ++ rest := heq ▸ List.prefix_append _ _
    rw [hchar, List.cons_append] at hbegins ⊢
    exact escaped_cons_iff.2 ⟨by decide, fun _ => ⟨e, he, hbegins⟩, h.plain_append hbody⟩
  · rw [escapeChar_of_not_special hc]
    refine h.plain_append fun b hb => ?_
    rwa [List.mem_singleton.1 hb]

theorem escaped_escapeChars (cs : List Char) : Escaped (escapeChars cs) := by
  induction cs with
  | nil => exact escaped_nil
  | cons c cs ih =>
    rw [escapeChars, List.flatMap_cons]
    exact ih.escapeChar_append c

/-! ## Reading -/

theorem unescapeChars_nil : unescapeChars [] = [] := by rw [unescapeChars]

theorem unescapeChars_entity {s : List Char} {c : Char} (h : entity? s = some (c, rest)) :
    unescapeChars ('&' :: s) = c :: unescapeChars rest := by
  rw [unescapeChars, if_pos rfl]
  split
  · rename_i d after h'
    rw [h] at h'
    cases h'
    rfl
  · rename_i h'
    rw [h] at h'
    cases h'

theorem unescapeChars_cons {c : Char} (h : c ≠ '&') (rest : List Char) :
    unescapeChars (c :: rest) = c :: unescapeChars rest := by
  rw [unescapeChars, if_neg h]

/-- What is written for a character is read as this character, whatever follows. -/
theorem unescapeChars_escapeChar (c : Char) (rest : List Char) :
    unescapeChars (escapeChar c ++ rest) = c :: unescapeChars rest := by
  by_cases hc : c ∈ special
  · obtain ⟨body, hchar, -⟩ := exists_body_of_special hc
    have hread : entity? (body ++ rest) = some (c, rest) := by
      rw [entity?_eq_some_iff, ← List.cons_append, ← hchar]
    rw [hchar, List.cons_append]
    exact unescapeChars_entity hread
  · have hne : c ≠ '&' := by
      rintro rfl
      exact hc List.mem_cons_self
    rw [escapeChar_of_not_special hc]
    exact unescapeChars_cons hne rest

/-- After an escaped text the reader is in step, whatever follows. -/
theorem unescapeChars_escapeChars_append (cs rest : List Char) :
    unescapeChars (escapeChars cs ++ rest) = cs ++ unescapeChars rest := by
  induction cs with
  | nil => rfl
  | cons c cs ih =>
    rw [escapeChars, List.flatMap_cons, List.append_assoc, unescapeChars_escapeChar]
    exact congrArg (c :: ·) ih

theorem unescapeChars_escapeChars (cs : List Char) : unescapeChars (escapeChars cs) = cs := by
  have h := unescapeChars_escapeChars_append cs []
  rwa [List.append_nil, unescapeChars_nil, List.append_nil] at h

theorem escapeChars_append (cs ds : List Char) :
    escapeChars (cs ++ ds) = escapeChars cs ++ escapeChars ds := List.flatMap_append

theorem escapeChars_eq_nil (h : escapeChars cs = []) : cs = [] := by
  have hcs := unescapeChars_escapeChars cs
  rw [h, unescapeChars_nil] at hcs
  exact hcs.symm

/-- At an ampersand of an escaped text, an entity is read. -/
theorem Escaped.exists_entity {s : List Char} (h : Escaped ('&' :: s)) :
    ∃ c rest, entity? s = some (c, rest) := by
  obtain ⟨e, he, rest, heq⟩ := h.ampersand s List.suffix_rfl
  have hchar : ∃ c ∈ special, escapeChar c = e.toList := exists_entity_iff.1 ⟨e, he, rfl⟩
  obtain ⟨c, -, hc⟩ := hchar
  exact ⟨c, rest, entity?_eq_some_iff.2 (by rw [hc, heq])⟩

/-- **Escaped texts are just those that are written**: what is read of one is written as it. -/
theorem escaped_iff : Escaped cs ↔ escapeChars (unescapeChars cs) = cs := by
  constructor
  · intro h
    fun_induction unescapeChars cs with
    | case1 => rfl
    | case2 s c after hread _ ih =>
      have hs : '&' :: s = escapeChar c ++ after := entity?_eq_some_iff.1 hread
      rw [hs] at h ⊢
      rw [escapeChars, List.flatMap_cons]
      exact congrArg (escapeChar c ++ ·) (ih (h.of_suffix (List.suffix_append _ _)))
    | case3 s hread =>
      obtain ⟨c, rest, hc⟩ := h.exists_entity
      rw [hread] at hc
      cases hc
    | case4 c s hne ih =>
      obtain ⟨hc, -, hs⟩ := escaped_cons_iff.1 h
      have hplain : c ∉ special := fun hmem => (List.mem_cons.1 hmem).elim hne hc
      rw [escapeChars, List.flatMap_cons, escapeChar_of_not_special hplain]
      exact congrArg (c :: ·) (ih hs)
  · intro h
    rw [← h]
    exact escaped_escapeChars _

/-! ## Texts -/

theorem toList_escape (s : String) : (escape s).toList = escapeChars s.toList :=
  String.toList_ofList

theorem escape_append (s t : String) : escape (s ++ t) = escape s ++ escape t := by
  rw [escape, String.toList_append, escapeChars_append, String.ofList_append]
  rfl

theorem unescape_escape_append (s t : String) : unescape (escape s ++ t) = s ++ unescape t := by
  rw [unescape, String.toList_append, toList_escape, unescapeChars_escapeChars_append,
    String.ofList_append, String.ofList_toList]
  rfl

/-- The text on the left has to be escaped. -/
example : unescape ("&am" ++ "p;") = "&" ∧ unescape "&am" ++ unescape "p;" = "&amp;" := by
  cbv

theorem unescape_escape (s : String) : unescape (escape s) = s := by
  rw [unescape, toList_escape, unescapeChars_escapeChars, String.ofList_toList]

theorem escape_unescape_eq_iff (t : String) : escape (unescape t) = t ↔ Escaped t.toList := by
  rw [escaped_iff, ← String.toList_inj, toList_escape, unescape, String.toList_ofList]

/-- **Escaping is reversible and closes every context.** What is written is an escaped text and is
read back from left to right, so no two texts are written alike. Texts may be put together before
they are written or after, and what follows an escaped text is read as if it stood alone. Of all
texts, only the escaped ones are written again as they were read. -/
theorem escape_reversible (s t : String) :
    Escaped (escape s).toList ∧ unescape (escape s) = s ∧ (escape s = escape t ↔ s = t) ∧
      escape (s ++ t) = escape s ++ escape t ∧ unescape (escape s ++ t) = s ++ unescape t ∧
      (escape (unescape t) = t ↔ Escaped t.toList) := by
  refine ⟨?_, unescape_escape s, ⟨fun h => ?_, congrArg escape⟩, escape_append s t,
    unescape_escape_append s t, escape_unescape_eq_iff t⟩
  · rw [toList_escape]
    exact escaped_escapeChars _
  · rw [← unescape_escape s, h, unescape_escape]

end RichText.Html
