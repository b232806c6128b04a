import RichText.Proofs.Document.CanonicalAttributes
import RichText.Proofs.Document.CanonicalMarkers
import RichText.Proofs.Html.Depiction
import RichText.Proofs.Mobiledoc.Representation

/-!
# When two markups are the same

Runs are merged, and entries of a Mobiledoc are shared, where markups are equal. Attributes are in
canonical form, so it plays no part in which order they were set, or what was set before.

**Theorem (`markups_identified`).** Two markups on which attributes were set are equal just if they
have the same tag and were left the same last values, and just if their tags and flat lists are
equal. Neighbouring runs under them merge, a Mobiledoc has the same index for them and their HTML is
the same in just this case.

* `markersFromRuns_merge_iff` — runs merge just if their markups are equal.
* `Html.eq_of_render_markup` — the HTML of a markup determines it.
-/

namespace RichText

/-! ## Runs -/

theorem styled_injective {s : String} (hs : s ≠ "") {ms ns : List Markup}
    (h : styled ms s = styled ns s) : ms = ns := by
  cases hchars : s.toList with
  | nil => exact absurd (by simpa using hchars) hs
  | cons c cs =>
    simp only [styled, hchars, List.map_cons, List.cons.injEq, Prod.mk.injEq] at h
    exact h.1.2

/-- The second of two neighbouring runs may be joined to the first one just if it is under the same
markups. -/
theorem markersFromRuns_merge_iff (before after : List Run) (s : String) {t : String} (ht : t ≠ "")
    (ms ns : List Markup) :
    markersFromRuns (before ++ ⟨s, ms⟩ :: ⟨t, ns⟩ :: after) =
        markersFromRuns (before ++ ⟨s ++ t, ms⟩ :: after) ↔ ms = ns := by
  have hapart : decodeRuns (before ++ ⟨s, ms⟩ :: ⟨t, ns⟩ :: after) =
      decodeRuns before ++ (styled ms s ++ (styled ns t ++ decodeRuns after)) := by
    rw [decodeRuns_append, decodeRuns_cons, decodeRuns_cons]
  have hjoined : decodeRuns (before ++ ⟨s ++ t, ms⟩ :: after) =
      decodeRuns before ++ (styled ms s ++ (styled ms t ++ decodeRuns after)) := by
    rw [decodeRuns_append, decodeRuns_cons, styled_append, List.append_assoc]
  constructor
  · intro h
    have hdecode := congrArg decode h
    rw [decode_markersFromRuns, decode_markersFromRuns, hapart, hjoined] at hdecode
    have htext : styled ns t = styled ms t := by simpa using hdecode
    exact styled_injective ht htext.symm
  · rintro rfl
    exact markersFromRuns_eq_of_decodeRuns_eq (hapart.trans hjoined.symm)

/-! ## HTML -/

namespace Html

/-- The HTML of a markup is read as its start tag. -/
theorem tokens_of_render_markup {m : Markup} {html : String} (h : render (.markup m) = .ok html) :
    tokens? html = some [.start m.tagName m.attributes.entries] := by
  obtain ⟨hfaults, rfl⟩ := (render_ok_iff _ _).1 h
  have hm : ∀ u ∈ [m], u.Admissible := by simpa using (markupFaults_eq_nil m).1 hfaults
  have hplain : ∀ t ∈ nodeTokens (.markup m), t.Plain := plain_openings hm
  rw [tokens_htmlOf hplain]
  rfl

/-- Markups that are written as the same HTML are equal. -/
theorem eq_of_render_markup {m n : Markup} {html : String} (hm : render (.markup m) = .ok html)
    (hn : render (.markup n) = .ok html) : m = n := by
  have htokens := (tokens_of_render_markup hm).symm.trans (tokens_of_render_markup hn)
  simp only [Option.some.injEq, List.cons.injEq, Token.start.injEq, and_true] at htokens
  cases m
  cases n
  rw [Markup.mk.injEq]
  exact ⟨htokens.1, Attributes.ext htokens.2⟩

end Html

/-! ## Mobiledoc -/

namespace Mobiledoc

/-- The Mobiledoc of a post has one entry for each markup in it, and the same index for two of them
just if they are equal. -/
theorem ofPost_shares (p : Post) :
    ∃ d : Mobiledoc, ofPost p = .ok d ∧
      (∀ u ∈ p.openedMarkups, d.markups.count u.entry = 1) ∧
      ∀ u i v j, (u, i) ∈ p.openedMarkups.zip d.openIndexes →
        (v, j) ∈ p.openedMarkups.zip d.openIndexes → (i = j ↔ u = v) := by
  refine ⟨written p, ofPost_eq p, ?_, (represents_written p).shared⟩
  intro u hu
  have hmem : u.entry ∈ (written p).markups := List.mem_eraseDups.2 (List.mem_map_of_mem hu)
  exact List.count_eq_one_of_mem (nodup_eraseDups _) hmem

end Mobiledoc

/-! ## Identity -/

/-- **Markups are in canonical form.** A markup on which attributes were set is determined by its
tag and the last value of each name; it lists each name once, in order of code points, with this
value; and its tag and this list determine it. Two markups with the same tag were left the same
values just if neighbouring runs under them merge, inside and around any other markups, and just if
a Mobiledoc has the same index for them. Their HTML is then the same, and markups that were left
different values are never written as the same HTML. -/
theorem markups_identified :
    (∀ tag other calls others,
      Markup.build tag calls = Markup.build other others ↔
        tag = other ∧ SameValues calls others) ∧
    (∀ tag calls, ListsLastValues calls (Markup.build tag calls).sortedAttributes) ∧
    (∀ m n : Markup, m = n ↔ m.tagName = n.tagName ∧ m.sortedAttributes = n.sortedAttributes) ∧
    ∀ tag calls others,
      (∀ (before after : List Run) (outer inner : List Markup) (s t : String), t ≠ "" →
        (markersFromRuns (before ++ ⟨s, outer ++ Markup.build tag calls :: inner⟩ ::
              ⟨t, outer ++ Markup.build tag others :: inner⟩ :: after) =
            markersFromRuns
              (before ++ ⟨s ++ t, outer ++ Markup.build tag calls :: inner⟩ :: after) ↔
          SameValues calls others)) ∧
      (∀ p : Post, ∃ d : Mobiledoc, Mobiledoc.ofPost p = .ok d ∧
        (∀ u ∈ p.openedMarkups, d.markups.count u.entry = 1) ∧
        ∀ i j, (Markup.build tag calls, i) ∈ p.openedMarkups.zip d.openIndexes →
          (Markup.build tag others, j) ∈ p.openedMarkups.zip d.openIndexes →
            (i = j ↔ SameValues calls others)) ∧
      (SameValues calls others → Html.render (.markup (Markup.build tag calls)) =
        Html.render (.markup (Markup.build tag others))) ∧
      ∀ html, Html.render (.markup (Markup.build tag calls)) = .ok html →
        Html.render (.markup (Markup.build tag others)) = .ok html → SameValues calls others := by
  have hsame : ∀ tag calls others,
      Markup.build tag calls = Markup.build tag others ↔ SameValues calls others := by
    intro tag calls others
    rw [Markup.build_eq_build_iff, and_iff_right rfl]
  refine ⟨Markup.build_eq_build_iff, Markup.listsLastValues_build, Markup.eq_iff_flat, ?_⟩
  intro tag calls others
  refine ⟨?_, ?_, ?_, ?_⟩
  · intro before after outer inner s t ht
    rw [markersFromRuns_merge_iff before after s ht, List.append_cancel_left_eq, List.cons.injEq,
      and_iff_left rfl, hsame]
  · intro p
    obtain ⟨d, hd, honce, hshared⟩ := Mobiledoc.ofPost_shares p
    refine ⟨d, hd, honce, ?_⟩
    intro i j hi hj
    rw [hshared _ _ _ _ hi hj, hsame]
  · intro h
    rw [(hsame tag calls others).2 h]
  · intro html hcalls hothers
    exact (hsame tag calls others).1 (Html.eq_of_render_markup hcalls hothers)

/-- The attributes of a link. -/
def linkCalls : List (String × String) := [("rel", "nofollow"), ("href", "#")]

/-- The same attributes in another order, one of them set twice. -/
def relinkCalls : List (String × String) := [("href", "top"), ("rel", "nofollow"), ("href", "#")]

/-- The attributes of the link before the last call. -/
def topCalls : List (String × String) := relinkCalls.dropLast

/-- A paragraph with all three links. -/
def linkedPost : Post where
  sections := [.markup ⟨"p", [⟨"x", [.build "a" linkCalls], 1⟩, ⟨"y", [.build "a" relinkCalls], 1⟩,
    ⟨"z", [.build "a" topCalls], 1⟩]⟩]

theorem markups_identified_link :
    SameValues linkCalls relinkCalls ∧ ¬SameValues linkCalls topCalls ∧
      ListsLastValues relinkCalls ["href", "#", "rel", "nofollow"] ∧
      markersFromRuns [⟨"x", [.build "a" linkCalls]⟩, ⟨"y", [.build "a" relinkCalls]⟩] =
        markersFromRuns [⟨"xy", [.build "a" linkCalls]⟩] ∧
      (Mobiledoc.written linkedPost).openIndexes = [0, 0, 1] ∧
      Html.render (.markup (.build "a" relinkCalls)) = .ok "<a href=\"#\" rel=\"nofollow\">" := by
  obtain ⟨hbuild, hlists, -, hlinks⟩ := markups_identified
  obtain ⟨hmerge, -, hrender, hread⟩ := hlinks "a" linkCalls relinkCalls
  have hequal : Markup.build "a" linkCalls = Markup.build "a" relinkCalls := by decide +kernel
  have hlink : Html.render (.markup (.build "a" linkCalls)) =
      .ok "<a href=\"#\" rel=\"nofollow\">" := by decide +kernel
  have hrelink := (hrender ((hbuild _ _ _ _).1 hequal).2).symm.trans hlink
  have hsame : SameValues linkCalls relinkCalls := hread _ hlink hrelink
  have hindexes : (Mobiledoc.written linkedPost).openIndexes = [0, 0, 1] := by decide +kernel
  refine ⟨hsame, ?_, hlists "a" relinkCalls, ?_, hindexes, hrelink⟩
  · -- the two links have different indexes in the document
    intro htop
    obtain ⟨d, hd, -, hindex⟩ := (hlinks "a" linkCalls topCalls).2.1 linkedPost
    obtain rfl : Mobiledoc.written linkedPost = d :=
      Except.ok.inj ((Mobiledoc.ofPost_eq linkedPost).symm.trans hd)
    rw [hindexes] at hindex
    exact absurd ((hindex 0 1 (by decide +kernel) (by decide +kernel)).2 htop) (by decide)
  · exact (hmerge [] [] [] [] "x" "y" (by decide)).2 hsame

end RichText
