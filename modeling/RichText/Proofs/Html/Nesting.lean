import RichText.Html.Element
import RichText.Proofs.Html.Lexing

/-!
# Well-nested tokens are elements

Tokens are read with a stack of open tags (`styledFrom?`): an end tag must close the start tag
opened last, nothing may stay open at the end, and each character on the way stands under the whole
stack. An image opens nothing.

- **From elements to tokens.** The tokens of elements are well nested, and the reader finds the
  characters of the elements under their tags (`styledFrom?_tokensList`).
- **From tokens to elements.** Well-nested tokens are the tokens of elements
  (`exists_tokensList`). A list of tokens that closes a whole stack falls into elements with one end
  tag of the stack between any two (`Pieces`), which is the form an induction on tokens needs.
- **Division of texts.** What the reader finds does not depend on how texts are divided
  (`styledFrom?_joinFrom`).
-/

namespace RichText.Html

/-! ## Reading with a stack -/

/-- The open tags after a start tag, innermost first. -/
def pushTag (stack : List OpenTag) (tag : String) (attributes : List (String × String)) :
    List OpenTag :=
  if tag = "img" then stack else (tag, attributes) :: stack

/-- The characters of tokens, each with the tags that are open around it, outermost first; the tags
of `stack` are open before the tokens, innermost first. Tokens that are not well nested have
none. -/
def styledFrom? : List OpenTag → List Token → Option (List (Char × List OpenTag))
  | [], [] => some []
  | _ :: _, [] => none
  | stack, .text s :: rest => (styledFrom? stack rest).map (s.toList.map (·, stack.reverse) ++ ·)
  | stack, .start tag attributes :: rest => styledFrom? (pushTag stack tag attributes) rest
  | [], .finish _ :: _ => none
  | t :: stack, .finish tag :: rest => if t.1 = tag then styledFrom? stack rest else none

/-- Every end tag closes the start tag opened last, and nothing stays open. -/
def WellNested (ts : List Token) : Prop := (styledFrom? [] ts).isSome

theorem pushTag_img (stack : List OpenTag) (attributes : List (String × String)) :
    pushTag stack "img" attributes = stack := if_pos rfl

theorem pushTag_of_ne {tag : String} (h : tag ≠ "img") (stack : List OpenTag)
    (attributes : List (String × String)) :
    pushTag stack tag attributes = (tag, attributes) :: stack := if_neg h

/-! ## From elements to tokens -/

mutual

/-- An image, and only an image, has no content and no end tag. -/
def Element.Proper : Element → Prop
  | .element tag _ children => tag ≠ "img" ∧ Element.ProperList children
  | .void tag _ => tag = "img"
  | .text _ => True

/-- An image, and only an image, has no content and no end tag. -/
def Element.ProperList : List Element → Prop
  | [] => True
  | e :: rest => e.Proper ∧ Element.ProperList rest

end

mutual

theorem styledFrom?_tokens : (e : Element) → e.Proper → (stack : List OpenTag) →
    (rest : List Token) → styledFrom? stack (e.tokens ++ rest) =
      (styledFrom? stack rest).map (e.styledFrom stack.reverse ++ ·)
  | .element tag attributes children, h, stack, rest => by
    have hinner := styledFrom?_tokensList_append children h.2 ((tag, attributes) :: stack)
      (.finish tag :: rest)
    rw [Element.tokens, List.cons_append, List.cons_append, styledFrom?, pushTag_of_ne h.1,
      List.append_assoc, List.singleton_append, hinner, styledFrom?, if_pos rfl, Element.styledFrom,
      List.reverse_cons]
  | .void tag attributes, h, stack, rest => by
    have htag : tag = "img" := h
    rw [Element.tokens, List.singleton_append, styledFrom?, htag, pushTag_img, Element.styledFrom]
    simp
  | .text s, _, stack, rest => by
    rw [Element.tokens, List.singleton_append, styledFrom?, Element.styledFrom]

/-- The tokens of elements are well nested, and say what the elements say. -/
theorem styledFrom?_tokensList_append : (es : List Element) → Element.ProperList es →
    (stack : List OpenTag) → (rest : List Token) →
      styledFrom? stack (Element.tokensList es ++ rest) =
        (styledFrom? stack rest).map (Element.styledListFrom stack.reverse es ++ ·)
  | [], _, stack, rest => by
    rw [Element.tokensList, Element.styledListFrom, List.nil_append]
    simp
  | e :: es, h, stack, rest => by
    rw [Element.tokensList, List.append_assoc, styledFrom?_tokens e h.1,
      styledFrom?_tokensList_append es h.2, Option.map_map, Element.styledListFrom]
    congr 1
    funext cs
    exact (List.append_assoc ..).symm

end

theorem styledFrom?_tokensList {es : List Element} (h : Element.ProperList es) :
    styledFrom? [] (Element.tokensList es) = some (Element.styled es) := by
  have hflat := styledFrom?_tokensList_append es h [] []
  rw [List.append_nil, styledFrom?, Option.map_some, List.append_nil] at hflat
  exact hflat

/-! ## From tokens to elements -/

/-- Tokens that close the tags of a stack one by one, with elements before, between and after the
end tags. -/
inductive Pieces : List OpenTag → List Token → Prop
  | done (es : List Element) : Element.ProperList es → Pieces [] (Element.tokensList es)
  | inside (es : List Element) {stack : List OpenTag} {t : OpenTag} {rest : List Token} :
    Element.ProperList es → Pieces stack rest →
      Pieces (t :: stack) (Element.tokensList es ++ .finish t.1 :: rest)

/-- An element may come first. -/
theorem Pieces.cons {stack : List OpenTag} {ts : List Token} {e : Element} (he : e.Proper)
    (h : Pieces stack ts) : Pieces stack (e.tokens ++ ts) := by
  cases h with
  | done es hes => exact .done (e :: es) ⟨he, hes⟩
  | inside es hes hrest =>
    rw [← List.append_assoc]
    exact .inside (e :: es) ⟨he, hes⟩ hrest

theorem pieces_of_styledFrom? (stack : List OpenTag) (ts : List Token)
    (h : (styledFrom? stack ts).isSome) : Pieces stack ts := by
  induction ts generalizing stack with
  | nil =>
    cases stack with
    | nil => exact .done [] trivial
    | cons t stack => cases h
  | cons token rest ih =>
    cases token with
    | text s =>
      rw [styledFrom?, Option.isSome_map] at h
      exact (ih stack h).cons (e := .text s) trivial
    | start tag attributes =>
      rw [styledFrom?] at h
      by_cases htag : tag = "img"
      · rw [htag, pushTag_img] at h
        exact htag ▸ (ih stack h).cons (e := .void "img" attributes) rfl
      · rw [pushTag_of_ne htag] at h
        -- the elements up to the end tag are the children of a new element
        cases ih _ h with
        | inside es hes hrest =>
          have hnew := hrest.cons (e := .element tag attributes es) ⟨htag, hes⟩
          simpa [Element.tokens] using hnew
    | finish tag =>
      cases stack with
      | nil => cases h
      | cons t stack =>
        rw [styledFrom?] at h
        by_cases htag : t.1 = tag
        · rw [if_pos htag] at h
          exact htag ▸ .inside [] trivial (ih stack h)
        · rw [if_neg htag] at h
          cases h

/-- **Well-nested tokens are the tokens of elements**, and the elements say what the tokens say. -/
theorem exists_tokensList {ts : List Token} {cs : List (Char × List OpenTag)}
    (h : styledFrom? [] ts = some cs) :
    ∃ es, Element.ProperList es ∧ Element.tokensList es = ts ∧ Element.styled es = cs := by
  have hsome : (styledFrom? [] ts).isSome := by
    rw [h]
    rfl
  cases pieces_of_styledFrom? [] ts hsome with
  | done es hes =>
    rw [styledFrom?_tokensList hes] at h
    exact ⟨es, hes, rfl, Option.some.inj h⟩

/-! ## Division of texts -/

theorem styledFrom?_textOf (s : String) (stack : List OpenTag) (rest : List Token) :
    styledFrom? stack (textOf s ++ rest) =
      (styledFrom? stack rest).map (s.toList.map (·, stack.reverse) ++ ·) := by
  rw [textOf]
  by_cases h : s = ""
  · rw [if_pos h, h]
    simp
  · rw [if_neg h, List.singleton_append, styledFrom?]

/-- The text before the tokens comes first; how the texts are divided makes no difference. -/
theorem styledFrom?_joinFrom (ts : List Token) (pending : String) (stack : List OpenTag) :
    styledFrom? stack (joinFrom pending ts) =
      (styledFrom? stack ts).map (pending.toList.map (·, stack.reverse) ++ ·) := by
  have hempty : ∀ stack : List OpenTag, (fun cs : List (Char × List OpenTag) =>
      "".toList.map (·, stack.reverse) ++ cs) = id := fun _ => rfl
  induction ts generalizing pending stack with
  | nil =>
    have h := styledFrom?_textOf pending stack []
    rw [List.append_nil] at h
    rw [joinFrom, h]
  | cons token rest ih =>
    cases token with
    | text s =>
      rw [joinFrom, ih, styledFrom?, Option.map_map]
      congr 1
      funext cs
      simp
    | start tag attributes =>
      rw [joinFrom, styledFrom?_textOf, styledFrom?, styledFrom?, ih, hempty, Option.map_id, id]
    | finish tag =>
      rw [joinFrom, styledFrom?_textOf]
      cases stack with
      | nil => rfl
      | cons t stack => rw [styledFrom?, styledFrom?, ih, hempty, Option.map_id, id]

theorem styledFrom?_joinTexts (ts : List Token) :
    styledFrom? [] (joinTexts ts) = styledFrom? [] ts := by
  rw [joinTexts, styledFrom?_joinFrom]
  simp

end RichText.Html
