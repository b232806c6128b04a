import RichText.Opcode.Wire
import RichText.Opcode.Run

/-!
# Storage of parameters

A handler finds its parameters by the form in which they are stored and does not count them. That is
right of parameters in normal form and of no others: two parameters stored as a list are refused by
a handler that takes two. So whatever builds an opcode has to store what it is given in normal form.

* `Opcode.Built` — the ways to build an opcode, and the parameters that each is given.
* `Handler.onList` — a handler that counts its parameters, in a list where all are stored alike.
* `HandlerTable.runLists` — a run of opcodes that are names with lists of parameters.

**Theorem (`storage_immaterial`).** Every opcode is built in one of these ways. All of them store
the same parameters in the same form, the normal one. Dispatch by the form agrees with dispatch on
the list just for parameters in normal form, hence for all opcodes, and runs on stored parameters
are runs on lists.
-/

namespace RichText

/-! ## Building opcodes -/

/-- The opcode was built from a name and parameters, by a constructor or from JSON. -/
inductive Opcode.Built (name : String) : List Json → Opcode → Prop
  | nullary : Built name [] (.nullary name)
  | unary (a : Json) : Built name [a] (.unary name a)
  | binary (a b : Json) : Built name [a, b] (.binary name a b)
  | variadic (params : List Json) : Built name params (.variadic name params)
  | ofJson {params : List Json} {o : Opcode} :
    Opcode.ofJson (.arr (.str name :: params)) = .ok o → Built name params o

namespace Params

variable {ps qs : Params}

/-- A list of parameters has one normal form only. -/
theorem Normal.eq_of_toList_eq (hp : ps.Normal) (hq : qs.Normal) (h : ps.toList = qs.toList) :
    ps = qs := by
  rw [← hp.ofList_toList, h, hq.ofList_toList]

theorem Normal.form_eq_many_iff (h : ps.Normal) : ps.form = "many" ↔ 3 ≤ ps.toList.length := by
  cases ps with
  | many all => exact ⟨fun _ => h, fun _ => rfl⟩
  | none | one _ | two _ _ => simp [form, toList]

theorem Normal.isEmpty_iff (h : ps.Normal) : ps.isEmpty = true ↔ ps.toList.length = 0 := by
  cases ps with
  | many all =>
    have hlength : 3 ≤ all.length := h
    simp only [isEmpty, toList]
    grind
  | none | one _ | two _ _ => simp [isEmpty, toList]

end Params

namespace Opcode

variable {name : String} {params : List Json} {o : Opcode}

theorem Built.eq_variadic (h : Built name params o) : o = .variadic name params := by
  cases h with
  | ofJson hread => exact (Except.ok.inj hread).symm
  | _ => rfl

/-- No opcode is built in another way. -/
theorem built (o : Opcode) : Built o.name o.params.toList o := by
  have h : Built o.name o.params.toList (.variadic o.name o.params.toList) := .variadic _
  rwa [variadic_toList] at h

end Opcode

/-! ## Dispatch on lists -/

section Dispatch

variable {σ : Type}

/-- Runs a handler on parameters that are all stored alike: one of fixed arity counts them, any
other takes them all. -/
def Handler.onList (h : Handler σ) (name : String) (params : List Json) (s : σ) : Outcome σ :=
  match h with
  | nullary act =>
    if params.length = 0 then act s else .failed (.arityMismatch name 0 params.length) s
  | unary act =>
    if h : params.length = 1 then act (params.get ⟨0, h ▸ Nat.zero_lt_one⟩) s
    else .failed (.arityMismatch name 1 params.length) s
  | binary act =>
    if h : params.length = 2 then
      act (params.get ⟨0, h ▸ Nat.zero_lt_two⟩) (params.get ⟨1, h ▸ Nat.one_lt_two⟩) s
    else .failed (.arityMismatch name 2 params.length) s
  | variadic act => act params s

/-- A handler finds the parameters that are stored from a list as it would in the list. -/
theorem Handler.dispatch_ofList (h : Handler σ) (name : String) (params : List Json) (s : σ) :
    h.dispatch name (.ofList params) s = h.onList name params s := by
  cases h with
  | variadic act => simp only [dispatch, onList, Params.toList_ofList]
  | nullary act | unary act | binary act =>
    match params with
    | [] | [_] | [_, _] | _ :: _ :: _ :: _ => rfl

theorem Handler.call_eq_onList (h : Handler σ) (o : Opcode) (s : σ) :
    h.call o s = h.onList o.name o.params.toList s := by
  rw [call_eq_dispatch, dispatch_ofList]

/-- Fewer than three parameters that are stored as a list are refused by the handler that takes so
many. -/
theorem Params.normal_of_dispatch {ps : Params}
    (h : ∀ (σ : Type) (h : Handler σ) (name : String) (s : σ),
      h.dispatch name ps s = h.onList name ps.toList s) : ps.Normal := by
  cases ps with
  | none | one _ | two _ _ => trivial
  | many all =>
    match all with
    | [] => cases h Unit (.nullary .ok) "" ()
    | [_] => cases h Unit (.unary fun _ => .ok) "" ()
    | [_, _] => cases h Unit (.binary fun _ _ => .ok) "" ()
    | _ :: _ :: _ :: rest => exact Nat.le_add_left 3 rest.length

/-- The form tells how many parameters there are just if they are in normal form. -/
theorem Params.normal_iff_dispatch {ps : Params} :
    ps.Normal ↔ ∀ (σ : Type) (h : Handler σ) (name : String) (s : σ),
      h.dispatch name ps s = h.onList name ps.toList s := by
  refine ⟨fun hnormal σ h name s => ?_, normal_of_dispatch⟩
  rw [← h.dispatch_ofList, hnormal.ofList_toList]

/-- Two parameters in the form for many are refused: the handler wants two and has two. -/
example : (Handler.binary fun _ _ => Outcome.ok).dispatch "f" (.many [.null, .null]) () =
    .failed (.arityMismatch "f" 2 2) () := rfl

/-- Runs one opcode that is a name with a list of parameters. -/
def HandlerTable.stepList (t : HandlerTable σ) (index : Nat) (name : String) (params : List Json)
    (s : σ) : Outcome σ :=
  match t.find? name with
  | some h => h.onList name params s
  | none => .failed (.unknownOpcode name index) s

/-- Runs opcodes that are names with lists of parameters. -/
def HandlerTable.runLists (t : HandlerTable σ) (index : Nat) :
    List (String × List Json) → σ → Outcome σ
  | [], s => .ok s
  | (name, params) :: rest, s =>
    (t.stepList index name params s).andThen (t.runLists (index + 1) rest)

theorem HandlerTable.step_eq_stepList (t : HandlerTable σ) (index : Nat) (o : Opcode) (s : σ) :
    t.step index o s = t.stepList index o.name o.params.toList s := by
  rw [step, stepList]
  cases t.find? o.name with
  | none => rfl
  | some h => exact h.call_eq_onList o s

theorem HandlerTable.runFrom_eq_runLists (t : HandlerTable σ) (ops : List Opcode) (index : Nat)
    (s : σ) :
    t.runFrom index ops s = t.runLists index (ops.map fun o => (o.name, o.params.toList)) s := by
  induction ops generalizing index s with
  | nil => rfl
  | cons o ops ih =>
    rw [runFrom, List.map_cons, runLists, step_eq_stepList]
    congr 1
    funext s'
    exact ih (index + 1) s'

end Dispatch

/-- **Storage makes no difference.** Every opcode is built in one of the ways that there are. It
holds the name and the parameters that it was built from, in order. A list in which they are stored
has three items at least, they are stored so just if there are three at least, and they count as
empty just if there are none. Two opcodes with the same name and the same parameters are equal,
however they were built. Parameters in normal form, and no others, are found by every handler as it
would find them in the list of them: it acts on them in order if it takes so many or any number, and
else fails and gives both numbers. So calls and runs of opcodes are those on names with lists. -/
theorem storage_immaterial :
    (∀ o : Opcode, Opcode.Built o.name o.params.toList o) ∧
    (∀ (name : String) (params : List Json) (o : Opcode), Opcode.Built name params o →
      o.name = name ∧ o.params.toList = params ∧
      (∀ all, o.params = .many all → 3 ≤ all.length) ∧
      (o.params.form = "many" ↔ 3 ≤ params.length) ∧
      (o.params.isEmpty = true ↔ params.length = 0) ∧
      ∀ o', Opcode.Built name params o' → o' = o) ∧
    (∀ o o' : Opcode, o.name = o'.name → o.params.toList = o'.params.toList → o = o') ∧
    (∀ ps : Params, ps.Normal ↔ ∀ (σ : Type) (h : Handler σ) (name : String) (s : σ),
      h.dispatch name ps s = h.onList name ps.toList s) ∧
    ∀ (σ : Type) (t : HandlerTable σ),
      (∀ (h : Handler σ) (o : Opcode) (s : σ),
        h.call o s = h.onList o.name o.params.toList s) ∧
      ∀ (ops : Opcodes) (s : σ),
        t.run ops s = t.runLists 0 (ops.toList.map fun o => (o.name, o.params.toList)) s := by
  refine ⟨Opcode.built, fun name params o ho => ?_, fun o o' hname hparams => ?_,
    fun ps => Params.normal_iff_dispatch, fun σ t => ⟨?_, ?_⟩⟩
  · obtain rfl := ho.eq_variadic
    have hlist : (Opcode.variadic name params).params.toList = params := Params.toList_ofList params
    have hnormal := (Opcode.variadic name params).normal
    refine ⟨rfl, hlist, fun all hall => ?_, ?_, ?_, fun o' ho' => ho'.eq_variadic⟩
    · rw [hall] at hnormal
      exact hnormal
    · rw [hnormal.form_eq_many_iff, hlist]
    · rw [hnormal.isEmpty_iff, hlist]
  · obtain ⟨name, ps, hp⟩ := o
    obtain ⟨name', qs, hq⟩ := o'
    obtain rfl : name = name' := hname
    obtain rfl : ps = qs := hp.eq_of_toList_eq hq hparams
    rfl
  · exact fun h o s => h.call_eq_onList o s
  · exact fun ops s => t.runFrom_eq_runLists ops.toList 0 s

/-- Two parameters that are read from JSON are stored as a pair. -/
theorem storage_immaterial_pair :
    ∃ o, Opcode.ofJson (.arr [.str "openMarkup", .str "b", .arr []]) = .ok o ∧
      Opcode.Built "openMarkup" [.str "b", .arr []] o ∧
      o = .binary "openMarkup" (.str "b") (.arr []) ∧ o.params.form ≠ "many" := by
  have hread : Opcode.ofJson (.arr [.str "openMarkup", .str "b", .arr []]) =
      .ok (.variadic "openMarkup" [.str "b", .arr []]) := rfl
  have hbuilt := Opcode.Built.ofJson hread
  obtain ⟨-, -, -, hmany, -, hunique⟩ := storage_immaterial.2.1 _ _ _ hbuilt
  exact ⟨_, hread, hbuilt, (hunique _ (.binary _ _)).symm, fun h => absurd (hmany.1 h) (by decide)⟩

end RichText
