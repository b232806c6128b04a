import RichText.Proofs.Html.Decoding
import RichText.Proofs.Mobiledoc.Tables

/-!
# What a failing opcode leaves behind

An opcode that fails must not spoil the target: what was written before it stays, and nothing is
added. This file says so for both targets, in every state that runs can lead to, also runs that
failed themselves (`HandlerTable.Reached`).

**HTML.** Every handler checks all of its parameters before it writes, so the target is as it was.

**Mobiledoc.** There is one exception. A markup is put into the table before its marker is looked
for, and if there is no marker the entry stays (`Opcode.AsksFor`, `Builder.HasMarker`). Whether the
entry is new is decided by the index of the target and not by the table. The two agree in every
state that is reached (`Builder.Fits`), which is where the history of the target comes in.

Main result: `failed_opcode_effects`.
-/

namespace RichText

/-! ## States that runs lead to -/

namespace HandlerTable

variable {σ : Type} {t : HandlerTable σ} {start s : σ}

/-- The states to which runs lead from `start`, one after another, whether they succeed or fail. -/
inductive Reached (t : HandlerTable σ) (start : σ) : σ → Prop
  | start : Reached t start start
  | run {s : σ} (ops : Opcodes) : Reached t start s → Reached t start (t.run ops s).state

/-- What every opcode keeps, failing or not, holds in every state that is reached. -/
theorem Reached.keeps {P : σ → Prop} (hs : t.Reached start s) (hstart : P start)
    (hstep : ∀ index o s, P s → (t.step index o s).Ends P P) : P s := by
  induction hs with
  | start => exact hstart
  | @run s ops _ ih =>
    have hrun : (t.run ops s).Ends P P := t.runFrom_ends hstep ops.toList 0 ih
    cases hout : t.run ops s with
    | ok s' => rw [hout] at hrun; exact hrun
    | failed e s' => rw [hout] at hrun; exact hrun

end HandlerTable

/-! ## Markups that are asked for -/

/-- The opcode opens a markup, with parameters of the right shape, and so asks for its entry in the
table of markups. -/
def Opcode.AsksFor (o : Opcode) (e : MarkupEntry) : Prop :=
  (∃ es : List (String × String), e.attributes = es.flatMap fun e => [e.1, e.2]) ∧
    o = .binary "openMarkup" (.str e.tagName) (.strings e.attributes)

theorem Opcode.AsksFor.unique {o : Opcode} {e e' : MarkupEntry} (h : o.AsksFor e)
    (h' : o.AsksFor e') : e = e' := by
  obtain ⟨-, rfl⟩ := h
  obtain ⟨-, heq⟩ := h'
  have hstr : Function.Injective Json.str := fun _ _ => Json.str.inj
  simp only [Opcode.binary, Json.strings, Opcode.mk.injEq, Params.two.injEq, Json.str.injEq,
    Json.arr.injEq, List.map_inj_right hstr] at heq
  cases e; cases e'
  simp_all

namespace Builder

/-- There is a marker for a markup to go to: in the last section, or in the last item of it if it is
a list. -/
def HasMarker (b : Builder) : Prop :=
  ∃ front slot ms m, b.doc.sections = front ++ [Slot.fill slot (ms ++ [m])]

/-- The index knows what is in the table of markups. -/
def Fits (b : Builder) : Prop := ∃ asked, b.Interned asked

section Fits

variable {b b' : Builder} {o : Opcode} {entry : MarkupEntry}

theorem fits_empty : Fits {} := ⟨[], interned_empty⟩

/-- Sections and cards do not matter. -/
theorem Fits.of_eq (h : b.Fits) (hmarkups : b'.doc.markups = b.doc.markups)
    (hindex : b'.index = b.index) : b'.Fits := by
  obtain ⟨asked, hint⟩ := h
  refine ⟨asked, hmarkups.trans hint.markups, fun e => ?_⟩
  rw [hindex]
  exact hint.index e

theorem Fits.intern (h : b.Fits) (entry : MarkupEntry) : (b.intern entry).2.Fits := by
  obtain ⟨asked, hint⟩ := h
  exact ⟨asked ++ [entry], (hint.intern entry).2⟩

/-- An entry that is asked for is added to the table just if it is not there. -/
theorem Fits.markups_intern (h : b.Fits) (entry : MarkupEntry) :
    (b.intern entry).2.doc.markups =
      if entry ∈ b.doc.markups then b.doc.markups else b.doc.markups ++ [entry] := by
  obtain ⟨asked, hint⟩ := h
  rw [(hint.intern entry).2.markups, eraseDups_concat, hint.markups]
  simp only [List.mem_eraseDups]

/-! ## Opening a markup -/

theorem step_of_asksFor (index : Nat) (b : Builder) (h : o.AsksFor entry) :
    handlers.step index o b = (b.intern entry).2.withSections
      (updateMarkers "openMarkup" (openAt (b.intern entry).1) b.doc.sections) := by
  obtain ⟨tag, attributes⟩ := entry
  obtain ⟨⟨es, rfl⟩, rfl⟩ := h
  have hpairs : Param.pairs (.strings (es.flatMap fun e => [e.1, e.2])) 1 = .ok es := by
    simp [Param.pairs, strings_flatMap, Param.pairsOf?_strings]
  show Outcome.given b (Param.pairs _ 1) _ = _
  rw [hpairs, ← sections_intern b]
  rfl

/-- A markup finds its place just if there is a marker. -/
theorem updateMarkers_openAt_iff (i : Nat) :
    (∃ new, updateMarkers "openMarkup" (openAt i) b.doc.sections = .ok new) ↔ b.HasMarker := by
  constructor
  · rintro ⟨new, hnew⟩
    obtain ⟨front, slot, ms, ms', hsections, hms, -⟩ := exists_slot_of_updateMarkers hnew
    unfold openAt at hms
    split at hms
    · rename_i m hlast
      obtain ⟨before, rfl⟩ := List.getLast?_eq_some_iff.1 hlast
      exact ⟨front, slot, before, m, hsections⟩
    · cases hms
  · rintro ⟨front, slot, ms, m, hsections⟩
    rw [hsections]
    exact ⟨_, updateMarkers_fill "openMarkup" slot front (by simp [openAt]; rfl)⟩

/-! ## Failures -/

/-- What the opcode `o` leaves of the target `b` if it fails. -/
structure LeftBy (b : Builder) (o : Opcode) (b' : Builder) : Prop where
  sections : b'.doc.sections = b.doc.sections
  cards : b'.doc.cards = b.doc.cards
  /-- A markup that was asked for had no marker. Its entry is in the table, once. -/
  asked : ∀ e, o.AsksFor e → ¬b.HasMarker ∧
    b'.doc.markups = if e ∈ b.doc.markups then b.doc.markups else b.doc.markups ++ [e]
  notAsked : (∀ e, ¬o.AsksFor e) → b' = b

/-- An opcode that asks for a markup fails for want of a marker only. -/
theorem ends_of_asksFor (hb : b.Fits) (h : o.AsksFor entry) (index : Nat) :
    (handlers.step index o b).Ends Fits fun b' => b'.Fits ∧ b.LeftBy o b' := by
  rw [step_of_asksFor index b h]
  cases hnew : updateMarkers "openMarkup" (openAt (b.intern entry).1) b.doc.sections with
  | ok new => exact (hb.intern entry).of_eq rfl rfl
  | error e =>
    have hno : ¬b.HasMarker := by
      intro hmarker
      obtain ⟨new, hok⟩ := (updateMarkers_openAt_iff (b.intern entry).1).2 hmarker
      rw [hok] at hnew
      cases hnew
    refine ⟨hb.intern entry, sections_intern b entry, cards_intern b entry, fun e he => ?_,
      fun hnone => absurd h (hnone entry)⟩
    rw [he.unique h]
    exact ⟨hno, hb.markups_intern entry⟩

/-- Any other opcode checks everything before it changes the target. -/
theorem ends_of_not_asksFor (hb : b.Fits) (h : ∀ e, ¬o.AsksFor e) (index : Nat) :
    (handlers.step index o b).Ends Fits (· = b) := by
  have hdispatched := handlers.dispatched_step index o b
  generalize handlers.step index o b = outcome at hdispatched
  obtain ⟨name, params⟩ := o
  have hsections : ∀ sections, (b.withSections sections).Ends Fits (· = b) := fun _ =>
    Outcome.ends_given rfl fun new _ => hb.of_eq rfl rfl
  cases hdispatched with
  | refused e => exact rfl
  | nullary hmem _ =>
    simp [entries_handlers] at hmem
    rcases hmem with ⟨_, rfl⟩ | ⟨_, rfl⟩
    · exact hsections _
    · exact fits_empty
  | unary hmem _ =>
    simp [entries_handlers] at hmem
    rcases hmem with ⟨_, rfl⟩ | ⟨_, rfl⟩ | ⟨_, rfl⟩
    all_goals exact Outcome.ends_given rfl fun text _ => hb.of_eq rfl rfl
  | @binary act p q hmem hparams =>
    simp only [entries_handlers] at hmem hparams
    subst hparams
    simp at hmem
    rcases hmem with ⟨rfl, rfl⟩ | ⟨rfl, rfl⟩ | ⟨rfl, rfl⟩
    · -- parameters of the right shape would ask for an entry
      refine Outcome.ends_given rfl fun tag htag => ?_
      refine Outcome.ends_given rfl fun es hes => ?_
      obtain rfl := Html.eq_str_of_text htag
      obtain rfl := Html.eq_strings_of_pairs hes
      exact absurd ⟨⟨es, rfl⟩, rfl⟩ (h ⟨tag, es.flatMap fun e => [e.1, e.2]⟩)
    · refine Outcome.ends_given rfl fun closed _ => ?_
      exact Outcome.ends_given rfl fun value _ => hsections _
    · exact Outcome.ends_given rfl fun text _ => hb.of_eq rfl rfl
  | variadic hmem => simp [entries_handlers] at hmem

/-- A step keeps the index in agreement with the table, and if it fails it leaves what it may. -/
theorem ends_step_fits (hb : b.Fits) (index : Nat) (o : Opcode) :
    (handlers.step index o b).Ends Fits fun b' => b'.Fits ∧ b.LeftBy o b' := by
  by_cases h : ∃ e, o.AsksFor e
  · obtain ⟨entry, hentry⟩ := h
    exact ends_of_asksFor hb hentry index
  · have hnone : ∀ e, ¬o.AsksFor e := fun e he => h ⟨e, he⟩
    have hends := ends_of_not_asksFor hb hnone index
    cases hout : handlers.step index o b with
    | ok b' => rw [hout] at hends; exact hends
    | failed e b' =>
      rw [hout] at hends
      have heq : b' = b := hends
      subst heq
      exact ⟨hb, rfl, rfl, fun e he => absurd he (hnone e), fun _ => rfl⟩

end Fits

theorem fits_of_reached {b : Builder} (h : handlers.Reached {} b) : b.Fits := by
  refine h.keeps fits_empty fun index o b hb => ?_
  have hends := ends_step_fits hb index o
  cases hout : handlers.step index o b with
  | ok b' => rw [hout] at hends; exact hends
  | failed e b' => rw [hout] at hends; exact hends.1

end Builder

/-! ## Both targets -/

/-- **Failing opcodes.** An opcode that fails leaves the HTML target as it was, whatever its state.
In every state of the Mobiledoc target that runs can lead to, it leaves the sections and the cards
as they were, and the table of markups, too, unless it asks for a markup while there is no marker
for it: then the entry of that markup is put at the end of the table if it is not in it yet. -/
theorem failed_opcode_effects :
    (∀ (w w' : Html.Writer) (index : Nat) (o : Opcode) (e : Error),
      Html.Writer.handlers.step index o w = .failed e w' → w' = w) ∧
    ∀ (b b' : Builder), Builder.handlers.Reached {} b → ∀ (index : Nat) (o : Opcode) (e : Error),
      Builder.handlers.step index o b = .failed e b' → b.LeftBy o b' := by
  constructor
  · intro w w' index o e hstep
    have hends := w.ends_step index o
    rw [hstep] at hends
    exact hends
  · intro b b' hb index o e hstep
    have hends := Builder.ends_step_fits (Builder.fits_of_reached hb) index o
    rw [hstep] at hends
    exact hends.2

/-- An element that closes too early, and a markup that has no marker: the first leaves nothing
behind, the second its entry. -/
theorem failed_opcode_effects_misplaced :
    let w : Html.Writer := ⟨"<p><b>", ["b"]⟩
    let b := (Builder.handlers.run #[.unary "openMarkupSection" (.str "p")] {}).state
    let o : Opcode := .binary "openMarkup" (.str "b") (.strings ["class", "x"])
    let b' : Builder :=
      ⟨{ b.doc with markups := [⟨"b", ["class", "x"]⟩] }, [(⟨"b", ["class", "x"]⟩, 0)]⟩
    (∃ w', Html.Writer.handlers.step 2 (.unary "closeElement" (.str "p")) w =
        .failed (.misplaced "closeElement" .openMarkups) w' ∧ w' = w) ∧
      Builder.handlers.Reached {} b ∧
      Builder.handlers.step 1 o b = .failed (.misplaced "openMarkup" .noMarker) b' ∧
      b.LeftBy o b' := by
  intro w b o b'
  have hclose : Html.Writer.handlers.step 2 (.unary "closeElement" (.str "p")) w =
      .failed (.misplaced "closeElement" .openMarkups) w := by decide
  have hreached : Builder.handlers.Reached {} b := .run _ .start
  have hopen : Builder.handlers.step 1 o b = .failed (.misplaced "openMarkup" .noMarker) b' := by
    decide
  exact ⟨⟨w, hclose, failed_opcode_effects.1 w w 2 _ _ hclose⟩, hreached, hopen,
    failed_opcode_effects.2 b b' hreached 1 o _ hopen⟩

end RichText
