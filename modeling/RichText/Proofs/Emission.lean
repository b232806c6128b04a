import Mathlib.Control.Monad.Basic
import Mathlib.Data.List.Forall2
import RichText.Visitor

/-!
# What a visit emits and what a run makes of it

A backend is a visitor followed by a table of handlers. This file has the laws of the two stages
that do not depend on the backend.

**Visits.** `Visit.Emits` says that a visit never fails and appends the opcodes of a function of the
node. It passes from children to parents (`Visit.Emits.each`, `Visit.Emits.steps`), so a visitor
with an entry for every kind of node emits a list that is given by recursion on the tree.

**Runs.** Opcodes in a row run one part after the other (`HandlerTable.runFrom_append`).
`Outcome.Reaches` is success in a state with a property. `Outcome.Meets` is the outcome that a list
of faults foretells: failure with the first of them, or success if there is none.

**Any opcodes.** Nothing need be known of the opcodes of a run. `HandlerTable.Dispatched` lists what
one opcode can do, `Outcome.Ends` says what holds after success and what after failure, and
`HandlerTable.runFrom_ends` takes it from single opcodes to runs. `HandlerTable.accepted` are the
opcodes that take effect.

**Results.** A reader or a writer that goes on from a first result succeeds if and only if both
parts do (`bind_eq_ok_iff`).
-/

namespace RichText

/-! ## Results -/

section Results

variable {ε α β : Type}

theorem ok_bind (a : α) (k : α → Except ε β) : (Except.ok a : Except ε α) >>= k = k a := rfl

theorem bind_eq_ok_iff {r : Except ε α} {k : α → Except ε β} {b : β} :
    r >>= k = .ok b ↔ ∃ a, r = .ok a ∧ k a = .ok b := by
  cases r <;> simp [bind, Except.bind]

theorem pure_eq_ok_iff {a b : α} : (pure a : Except ε α) = .ok b ↔ a = b := by
  simp [pure, Except.pure]

theorem map_eq_ok_iff {r : Except ε α} {f : α → β} {b : β} :
    f <$> r = .ok b ↔ ∃ a, r = .ok a ∧ f a = b := by
  cases r <;> simp [Functor.map, Except.map]

theorem map_eq_error_iff {r : Except ε α} {f : α → β} {e : ε} :
    f <$> r = .error e ↔ r = .error e := by
  cases r <;> simp [Functor.map, Except.map]

/-- Members that are all read are read as a list. -/
theorem mapM_map_ok {γ : Type} {read : β → Except ε α} {write : γ → β} {value : γ → α}
    {cs : List γ} (h : ∀ c ∈ cs, read (write c) = .ok (value c)) :
    (cs.map write).mapM read = .ok (cs.map value) := by
  induction cs with
  | nil => rfl
  | cons c cs ih =>
    rw [List.map_cons, List.mapM_cons, h c List.mem_cons_self,
      ih fun d hd => h d (List.mem_cons_of_mem _ hd)]
    rfl

/-- A list is read as the values that its members write. -/
theorem mapM_eq_ok_iff_map {read : β → Except ε α} {write : α → β}
    (h : ∀ b a, read b = .ok a ↔ b = write a) {bs : List β} {as : List α} :
    bs.mapM read = .ok as ↔ bs = as.map write := by
  induction bs generalizing as with
  | nil => cases as <;> simp [pure, Except.pure]
  | cons b bs ih =>
    simp only [List.mapM_cons, bind_eq_ok_iff, pure_eq_ok_iff, h, ih]
    cases as with
    | nil => simp
    | cons a as => simp

/-- A list is read just if each member is, and gives what its members give. -/
theorem mapM_eq_ok_iff_forall₂ {read : β → Except ε α} {bs : List β} {as : List α} :
    bs.mapM read = .ok as ↔ List.Forall₂ (fun b a => read b = .ok a) bs as := by
  induction bs generalizing as with
  | nil => simp [pure, Except.pure, eq_comm]
  | cons b bs ih =>
    simp only [List.mapM_cons, bind_eq_ok_iff, pure_eq_ok_iff, ih, List.forall₂_cons_left_iff]
    constructor
    · rintro ⟨a, ha, as', has, rfl⟩
      exact ⟨a, as', ha, has, rfl⟩
    · rintro ⟨a, as', ha, has, rfl⟩
      exact ⟨a, ha, as', has, rfl⟩

theorem mapM_cons_eq_error_iff {read : β → Except ε α} {b : β} {bs : List β} {e : ε} :
    (b :: bs).mapM read = .error e ↔
      read b = .error e ∨ (∃ a, read b = .ok a) ∧ bs.mapM read = .error e := by
  rw [List.mapM_cons]
  cases read b with
  | error e' => simp [bind, Except.bind]
  | ok a => cases bs.mapM read <;> simp [bind, Except.bind, pure, Except.pure]

/-- A list fails as its first member that fails. -/
theorem mapM_eq_error_iff {read : β → Except ε α} {bs : List β} {e : ε} :
    bs.mapM read = .error e ↔ ∃ before b after, bs = before ++ b :: after ∧
      (∀ c ∈ before, ∃ a, read c = .ok a) ∧ read b = .error e := by
  induction bs with
  | nil => simp [pure, Except.pure]
  | cons b bs ih =>
    rw [mapM_cons_eq_error_iff, ih]
    constructor
    · rintro (hb | ⟨hb, before, c, after, rfl, hbefore, hc⟩)
      · exact ⟨[], b, bs, rfl, by simp, hb⟩
      · exact ⟨b :: before, c, after, rfl, List.forall_mem_cons.2 ⟨hb, hbefore⟩, hc⟩
    · rintro ⟨before, c, after, heq, hbefore, hc⟩
      cases before with
      | nil =>
        obtain ⟨rfl, -⟩ := List.cons.inj heq
        exact .inl hc
      | cons d before =>
        obtain ⟨rfl, rfl⟩ := List.cons.inj heq
        obtain ⟨hd, hbefore⟩ := List.forall_mem_cons.1 hbefore
        exact .inr ⟨hd, before, c, after, rfl, hbefore, hc⟩

end Results

/-! ## Outcomes -/

namespace Outcome

variable {σ : Type}

/-- The action succeeds, in a state with the property `P`. -/
def Reaches (o : Outcome σ) (P : σ → Prop) : Prop := ∃ s, o = .ok s ∧ P s

theorem Reaches.andThen {o : Outcome σ} {P Q : σ → Prop} {next : σ → Outcome σ}
    (h : o.Reaches P) (hn : ∀ s, P s → (next s).Reaches Q) : (o.andThen next).Reaches Q := by
  obtain ⟨s, rfl, hs⟩ := h
  exact hn s hs

/-- The action fails with the first of the faults; if there is none, it succeeds in the state
`s`. -/
def Meets (o : Outcome σ) (s : σ) : List Error → Prop
  | [] => o = .ok s
  | e :: _ => ∃ t, o = .failed e t

/-- Faults of a second action come into play only if the first has none. -/
theorem Meets.andThen {o : Outcome σ} {s t : σ} {fs gs : List Error} {next : σ → Outcome σ}
    (h : o.Meets s fs) (hn : fs = [] → (next s).Meets t gs) :
    (o.andThen next).Meets t (fs ++ gs) := by
  cases fs with
  | nil =>
    have ho : o = .ok s := h
    subst ho
    exact hn rfl
  | cons e fs =>
    obtain ⟨u, rfl⟩ := h
    exact ⟨u, rfl⟩

/-- The action ends in a state with the property `P` if it succeeds, and with `Q` if it fails. -/
def Ends (o : Outcome σ) (P Q : σ → Prop) : Prop :=
  match o with
  | ok s => P s
  | failed _ s => Q s

theorem Ends.andThen {o : Outcome σ} {P P' Q : σ → Prop} {next : σ → Outcome σ} (h : o.Ends P Q)
    (hn : ∀ s, P s → (next s).Ends P' Q) : (o.andThen next).Ends P' Q := by
  cases o with
  | ok s => exact hn s h
  | failed e s => exact h

theorem ends_given {α : Type} {s : σ} {value : Except Error α} {act : α → Outcome σ}
    {P Q : σ → Prop} (hs : Q s) (h : ∀ a, value = .ok a → (act a).Ends P Q) :
    (given s value act).Ends P Q := by
  cases value with
  | ok a => exact h a rfl
  | error e => exact hs

end Outcome

/-! ## Runs -/

namespace HandlerTable

variable {σ : Type} (t : HandlerTable σ)

/-- Opcodes run one part after the other; the second part keeps its positions. -/
theorem runFrom_append (index : Nat) (a b : List Opcode) (s : σ) :
    t.runFrom index (a ++ b) s =
      (t.runFrom index a s).andThen (t.runFrom (index + a.length) b) := by
  induction a generalizing index s with
  | nil => rfl
  | cons o a ih =>
    simp only [List.cons_append, runFrom, Outcome.andThen_assoc, List.length_cons]
    congr 1
    funext s'
    rw [ih, Nat.add_right_comm, Nat.add_assoc]

theorem runFrom_singleton (index : Nat) (o : Opcode) (s : σ) :
    t.runFrom index [o] s = t.step index o s := by
  show (t.step index o s).andThen _ = _
  cases t.step index o s <;> rfl

/-- **The loop rule.** If the opcodes of each element lead from `P` of the elements before it to `P`
of the elements up to it, then those of all elements lead from `P []` to `P as`. -/
theorem runFrom_flatMap {α : Type} (emitted : α → List Opcode) {P : List α → σ → Prop}
    (as : List α)
    (h : ∀ done a rest, as = done ++ a :: rest → ∀ index s, P done s →
      (t.runFrom index (emitted a) s).Reaches (P (done ++ [a])))
    (index : Nat) {s : σ} (hs : P [] s) :
    (t.runFrom index (as.flatMap emitted) s).Reaches (P as) := by
  suffices hrest : ∀ rest done, as = done ++ rest → ∀ index s, P done s →
      (t.runFrom index (rest.flatMap emitted) s).Reaches (P as) from
    hrest as [] rfl index s hs
  intro rest
  induction rest with
  | nil =>
    intro done hd index s hs
    rw [List.append_nil] at hd
    exact ⟨s, rfl, hd ▸ hs⟩
  | cons a rest ih =>
    intro done hd index s hs
    rw [List.flatMap_cons, runFrom_append]
    refine (h done a rest hd index s hs).andThen fun s' hs' => ?_
    exact ih (done ++ [a]) (by simp [hd]) _ s' hs'

/-- What an opcode can come to: it is refused, which leaves the state as it is, or a handler of its
name acts, one that takes as many parameters as there are. -/
inductive Dispatched (o : Opcode) (s : σ) : Outcome σ → Prop
  | refused (e : Error) : Dispatched o s (.failed e s)
  | nullary {act : σ → Outcome σ} :
      (o.name, .nullary act) ∈ t.entries → o.params = .none → Dispatched o s (act s)
  | unary {act : Json → σ → Outcome σ} {a : Json} :
      (o.name, .unary act) ∈ t.entries → o.params = .one a → Dispatched o s (act a s)
  | binary {act : Json → Json → σ → Outcome σ} {a b : Json} :
      (o.name, .binary act) ∈ t.entries → o.params = .two a b → Dispatched o s (act a b s)
  | variadic {act : List Json → σ → Outcome σ} :
      (o.name, .variadic act) ∈ t.entries → Dispatched o s (act o.params.toList s)

theorem mem_of_find? {name : String} {h : Handler σ} (hf : t.find? name = some h) :
    (name, h) ∈ t.entries := by
  obtain ⟨before, after, heq, -⟩ := List.lookup_eq_some_iff.1 hf
  simp [heq]

theorem dispatched_step (index : Nat) (o : Opcode) (s : σ) :
    t.Dispatched o s (t.step index o s) := by
  unfold step
  split
  · rename_i h hf
    have hmem := t.mem_of_find? hf
    unfold Handler.call Handler.dispatch
    split
    · exact .nullary hmem ‹_›
    · exact .unary hmem ‹_›
    · exact .binary hmem ‹_›
    · exact .variadic hmem
    · exact .refused _
  · exact .refused _

/-- What every opcode keeps, a run keeps; it stops at the first failure. -/
theorem runFrom_ends {P Q : σ → Prop} (h : ∀ index o s, P s → (t.step index o s).Ends P Q)
    (ops : List Opcode) (index : Nat) {s : σ} (hs : P s) : (t.runFrom index ops s).Ends P Q := by
  induction ops generalizing index s with
  | nil => exact hs
  | cons o ops ih => exact (h index o s hs).andThen fun s' hs' => ih (index + 1) hs'

/-- The opcodes that take effect: all before the first that fails. -/
def accepted (index : Nat) : List Opcode → σ → List Opcode
  | [], _ => []
  | o :: rest, s =>
    match t.step index o s with
    | .ok s' => o :: accepted (index + 1) rest s'
    | .failed _ _ => []

end HandlerTable

/-! ## Visits -/

namespace Visit

variable {α : Type}

/-- Visiting never fails, and appends the opcodes that `emitted` gives. -/
def Emits (visit : α → Visit) (emitted : α → List Opcode) : Prop :=
  ∀ a ops, visit a ops = .ok (ops ++ (emitted a).toArray)

/-- The opcodes of a step, where `emitted` gives those of a child. -/
def stepOpcodes (emitted : α → List Opcode) : Step α → List Opcode
  | .emit o => [o]
  | .descend children => children.flatMap emitted

theorem emits_emit (f : α → List Opcode) : Emits (emit ∘ f) f := fun _ _ => rfl

theorem Emits.each {visit : α → Visit} {emitted : α → List Opcode} (h : Emits visit emitted)
    (as : List α) (ops : Opcodes) :
    each visit as ops = .ok (ops ++ (as.flatMap emitted).toArray) := by
  induction as generalizing ops with
  | nil => simp [Visit.each]
  | cons a as ih => simp [Visit.each, h a ops, ih]

/-- Steps emit what they emit one by one. -/
theorem Emits.steps {child : α → Visit} {emitted : α → List Opcode} (h : Emits child emitted)
    (ss : List (Step α)) (ops : Opcodes) :
    steps child ss ops = .ok (ops ++ (ss.flatMap (stepOpcodes emitted)).toArray) := by
  induction ss generalizing ops with
  | nil => simp [Visit.steps]
  | cons s ss ih =>
    cases s with
    | emit o => simp [Visit.steps, ih, stepOpcodes]
    | descend children => simp [Visit.steps, h.each, ih, stepOpcodes]

end Visit

end RichText
