import Mathlib.Data.List.Forall2
import RichText.Document.Basic
import RichText.Document.Tags
import RichText.Text.Case

/-!
# The grammar of Mobiledoc

Which JSON values are Mobiledocs, and which post each of them denotes, as rules. Tags stand in any
case and denote their lower case. Entries after those that a rule names are allowed in the tables
and in sections, and ignored; a marker has exactly four entries.

**Main definition.** `MobiledocGrammar.Denotes doc p` holds if `doc` is a Mobiledoc of the post `p`.
-/

namespace RichText.MobiledocGrammar

/-- Names and values in turn. -/
def pairsJson (pairs : List (String × String)) : Json :=
  .strings (pairs.flatMap fun e => [e.1, e.2])

/-- `v` is an entry of the table of markups. -/
inductive IsMarkup : Json → Markup → Prop where
  | bare {tag : String} :
      isMarkupTag (lowercase tag) = true →
      IsMarkup (.arr [.str tag]) ⟨lowercase tag, .empty⟩
  | withAttributes {tag : String} {pairs : List (String × String)} {rest : List Json} :
      isMarkupTag (lowercase tag) = true →
      (∀ e ∈ pairs, isAttributeName e.1 = true) →
      IsMarkup (.arr (.str tag :: pairsJson pairs :: rest)) ⟨lowercase tag, .ofPairs pairs⟩

/-- `v` is an entry of the table of cards. -/
inductive IsCard : Json → Card → Prop where
  | bare {name : String} : IsCard (.arr [.str name]) ⟨name, .obj []⟩
  | withPayload {name : String} {payload : Json} {rest : List Json} :
      IsCard (.arr (.str name :: payload :: rest)) ⟨name, payload⟩

/-- `v` is a marker: zero, the markups it opens by index, how many it closes, and its text. -/
inductive IsMarker (markups : List Markup) : Json → Marker → Prop where
  | text {opened : List Nat} {openedMarkups : List Markup} {closed : Nat} {value : String} :
      List.Forall₂ (fun i m => markups[i]? = some m) opened openedMarkups →
      IsMarker markups (.arr [.nat 0, .arr (opened.map .nat), .nat closed, .str value])
        ⟨value, openedMarkups, closed⟩

/-- `v` is a list of markers. -/
inductive AreMarkers (markups : List Markup) : Json → List Marker → Prop where
  | arr {vs : List Json} {ms : List Marker} :
      List.Forall₂ (IsMarker markups) vs ms → AreMarkers markups (.arr vs) ms

/-- `v` is a section: a number for its kind, and what that kind asks for. -/
inductive IsSection (markups : List Markup) (cards : List Card) : Json → Section → Prop where
  | markup {tag : String} {v : Json} {ms : List Marker} {rest : List Json} :
      isMarkupSectionTag (lowercase tag) = true →
      AreMarkers markups v ms →
      IsSection markups cards (.arr (.nat 1 :: .str tag :: v :: rest))
        (.markup ⟨lowercase tag, ms⟩)
  | image {src : String} {rest : List Json} :
      IsSection markups cards (.arr (.nat 2 :: .str src :: rest)) (.image ⟨src⟩)
  | list {tag : String} {vs : List Json} {items : List ListItem} {rest : List Json} :
      isListSectionTag (lowercase tag) = true →
      List.Forall₂ (fun v i => AreMarkers markups v i.markers) vs items →
      IsSection markups cards (.arr (.nat 3 :: .str tag :: .arr vs :: rest))
        (.list ⟨lowercase tag, items⟩)
  | card {i : Nat} {c : Card} {rest : List Json} :
      cards[i]? = some c →
      IsSection markups cards (.arr (.nat 10 :: .nat i :: rest)) (.card c)

/-- The member `key` of `doc` is a table whose entries are related by `Entry` to `as`; if there is
no such member, `as` is empty. -/
def Table {α : Type} (doc : Json) (key : String) (Entry : Json → α → Prop) (as : List α) : Prop :=
  match doc.get? key with
  | some (.arr vs) => List.Forall₂ Entry vs as
  | some _ => False
  | none => as = []

/-- The version of a Mobiledoc starts with `0.3`. -/
def HasVersion (doc : Json) : Prop :=
  ∃ v, doc.get? "version" = some (.str v) ∧ "0.3".toList <+: v.toList

/-- `doc` is a Mobiledoc of the post `p`. -/
def Denotes (doc : Json) (p : Post) : Prop :=
  HasVersion doc ∧ ∃ markups cards,
    Table doc "markups" IsMarkup markups ∧ Table doc "cards" IsCard cards ∧
      Table doc "sections" (IsSection markups cards) p.sections

end RichText.MobiledocGrammar
