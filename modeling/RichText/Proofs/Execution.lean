import Mathlib.Data.List.Dedup
import Mathlib.Data.List.Induction
import RichText.Proofs.Emission

/-!
# The execution of opcodes

What a run does is said here on the registrations and the opcodes alone, without the table and its
loop.

* `registered` — the handler that counts for a name: the last one registered under it.
* `Executes` — every opcode acts once, in order, with its own parameters, and none fails.
* `Stops` — why a run ends at an opcode: it has no handler, the handler takes another number of
  parameters, or the handler fails. In the first two cases the state is left as it is.

**Theorem (`run_ofRegistrations`).** A table answers for the handlers that count. A run succeeds
just if it executes all opcodes, and fails just if it executes those before some opcode and stops
there. Opcodes in a row run one part after the other; in the second part the run reports a missing
handler later by the length of the first.
-/

namespace RichText

variable {σ : Type}

namespace Handler

/-- What the handler does with the parameters, if it takes as many as there are. -/
def applyTo : Handler σ → List Json → Option (σ → Outcome σ)
  | nullary act, [] => some act
  | unary act, [a] => some (act a)
  | binary act, [a, b] => some (act a b)
  | variadic act, params => some (act params)
  | _, _ => none

/-- Only a fixed number of parameters can keep a handler from acting. -/
theorem exists_arity_of_applyTo {h : Handler σ} {params : List Json}
    (ha : h.applyTo params = none) : ∃ n, h.arity = some n ∧ params.length ≠ n := by
  cases h with
  | nullary act =>
    refine ⟨0, rfl, fun hn => ?_⟩
    obtain rfl := List.length_eq_zero_iff.1 hn
    simp [applyTo] at ha
  | unary act =>
    refine ⟨1, rfl, fun hn => ?_⟩
    obtain ⟨a, rfl⟩ := List.length_eq_one_iff.1 hn
    simp [applyTo] at ha
  | binary act =>
    refine ⟨2, rfl, fun hn => ?_⟩
    obtain ⟨a, b, rfl⟩ := List.length_eq_two.1 hn
    simp [applyTo] at ha
  | variadic act => simp [applyTo] at ha

theorem dispatch_of_applyTo {h : Handler σ} {params : List Json} {act : σ → Outcome σ}
    (ha : h.applyTo params = some act) (name : String) (s : σ) :
    h.dispatch name (.ofList params) s = act s := by
  cases h with
  | variadic act => simp_all [applyTo, dispatch]
  | nullary act | unary act | binary act =>
    unfold applyTo at ha
    split at ha <;> simp_all [dispatch, Params.ofList]

theorem dispatch_of_arity {h : Handler σ} {params : List Json} {n : Nat} (ha : h.arity = some n)
    (hn : params.length ≠ n) (name : String) (s : σ) :
    h.dispatch name (.ofList params) s = .failed (.arityMismatch name n params.length) s := by
  cases h with
  | variadic act => cases ha
  | nullary act | unary act | binary act =>
    obtain rfl := Option.some.inj ha
    -- Any other number of parameters is stored in a form that the handler does not take.
    match params with
    | [] | [_] | [_, _] | _ :: _ :: _ :: _ => first | exact absurd rfl hn | rfl

theorem call_of_applyTo {h : Handler σ} {o : Opcode} {act : σ → Outcome σ}
    (ha : h.applyTo o.params.toList = some act) (s : σ) : h.call o s = act s := by
  rw [call_eq_dispatch, dispatch_of_applyTo ha]

theorem call_of_arity {h : Handler σ} {o : Opcode} {n : Nat} (ha : h.arity = some n)
    (hn : o.params.size ≠ n) (s : σ) :
    h.call o s = .failed (.arityMismatch o.name n o.params.size) s := by
  rw [call_eq_dispatch]
  exact dispatch_of_arity ha hn o.name s

end Handler

namespace HandlerTable

variable {rs : List (String × Handler σ)}

/-! ## Registrations -/

/-- The handler that was registered last under the name. -/
def registered (rs : List (String × Handler σ)) (name : String) : Option (Handler σ) :=
  (rs.filter (·.1 == name)).getLast?.map Prod.snd

theorem registered_concat (rs : List (String × Handler σ)) (r : String × Handler σ)
    (name : String) :
    registered (rs ++ [r]) name = if r.1 = name then some r.2 else registered rs name := by
  by_cases hr : r.1 = name <;> simp [registered, hr]

theorem ofRegistrations_concat (rs : List (String × Handler σ)) (r : String × Handler σ) :
    ofRegistrations (rs ++ [r]) = (ofRegistrations rs).register r.1 r.2 := by
  simp [ofRegistrations]

theorem lookup_filter {entries : List (String × Handler σ)} {added name : String}
    (hne : added ≠ name) :
    (entries.filter (·.1 != added)).lookup name = entries.lookup name := by
  induction entries with
  | nil => rfl
  | cons entry entries ih =>
    obtain ⟨key, h⟩ := entry
    rcases eq_or_ne key added with rfl | hkey
    · have hother : (name == key) = false := beq_false_of_ne hne.symm
      simp [List.lookup_cons, hother, ih]
    · simp [hkey, List.lookup_cons, ih]

theorem find?_register (t : HandlerTable σ) (added name : String) (h : Handler σ) :
    (t.register added h).find? name = if added = name then some h else t.find? name := by
  by_cases hne : added = name
  · simp [find?, register, hne]
  · have hother : (name == added) = false := beq_false_of_ne (Ne.symm hne)
    simp [find?, register, hne, List.lookup_cons, hother, lookup_filter hne]

theorem find?_ofRegistrations (rs : List (String × Handler σ)) (name : String) :
    (ofRegistrations rs).find? name = registered rs name := by
  induction rs using List.reverseRecOn with
  | nil => rfl
  | append_singleton rs r ih =>
    rw [ofRegistrations_concat, find?_register, registered_concat, ih]

/-- The names that have a handler. -/
def names (t : HandlerTable σ) : List String := t.entries.map Prod.fst

theorem names_register (t : HandlerTable σ) (name : String) (h : Handler σ) :
    (t.register name h).names = name :: t.names.filter (· != name) := by
  simp [names, register, List.filter_map, Function.comp_def]

theorem nodup_names (rs : List (String × Handler σ)) : (ofRegistrations rs).names.Nodup := by
  induction rs using List.reverseRecOn with
  | nil => exact List.nodup_nil
  | append_singleton rs r ih =>
    rw [ofRegistrations_concat, names_register, List.nodup_cons]
    exact ⟨by simp, ih.filter _⟩

theorem mem_names {name : String} :
    name ∈ (ofRegistrations rs).names ↔ name ∈ rs.map Prod.fst := by
  induction rs using List.reverseRecOn with
  | nil => rfl
  | append_singleton rs r ih =>
    rw [ofRegistrations_concat, names_register]
    by_cases hr : name = r.1 <;> simp_all

/-- A table has as many entries as names were registered. -/
theorem size_ofRegistrations (rs : List (String × Handler σ)) :
    (ofRegistrations rs).size = (rs.map Prod.fst).dedup.length := by
  have hperm : (ofRegistrations rs).names.Perm (rs.map Prod.fst).dedup :=
    (List.perm_ext_iff_of_nodup (nodup_names rs) (List.nodup_dedup _)).2 fun name => by
      rw [mem_names, List.mem_dedup]
  rw [← hperm.length_eq]
  exact (List.length_map _).symm

/-! ## One opcode -/

/-- Why a run ends at the opcode `o`, which it meets at position `index` in the state `s`; what
error it gives, and what state it leaves. -/
inductive Stops (rs : List (String × Handler σ)) (index : Nat) (o : Opcode) (s : σ) :
    Error → σ → Prop
  /-- The opcode has no handler. -/
  | unknown : registered rs o.name = none → Stops rs index o s (.unknownOpcode o.name index) s
  /-- The handler takes another number of parameters. -/
  | arity {h : Handler σ} {n : Nat} : registered rs o.name = some h → h.arity = some n →
      o.params.size ≠ n → Stops rs index o s (.arityMismatch o.name n o.params.size) s
  /-- The handler fails, with its own error in its own state. -/
  | failed {h : Handler σ} {act : σ → Outcome σ} {e : Error} {s' : σ} :
      registered rs o.name = some h → h.applyTo o.params.toList = some act →
      act s = .failed e s' → Stops rs index o s e s'

theorem step_of_applyTo {o : Opcode} {h : Handler σ} {act : σ → Outcome σ}
    (hr : registered rs o.name = some h) (ha : h.applyTo o.params.toList = some act) (index : Nat)
    (s : σ) : (ofRegistrations rs).step index o s = act s := by
  simp [step, find?_ofRegistrations, hr, Handler.call_of_applyTo ha]

theorem Stops.step {index : Nat} {o : Opcode} {s s' : σ} {e : Error}
    (h : Stops rs index o s e s') : (ofRegistrations rs).step index o s = .failed e s' := by
  cases h with
  | unknown hr => simp [HandlerTable.step, find?_ofRegistrations, hr]
  | arity hr ha hn =>
    simp [HandlerTable.step, find?_ofRegistrations, hr, Handler.call_of_arity ha hn]
  | failed hr ha hact => rw [step_of_applyTo hr ha, hact]

/-- An opcode that does not stop the run acts. -/
theorem step_cases (rs : List (String × Handler σ)) (index : Nat) (o : Opcode) (s : σ) :
    (∃ h act s', registered rs o.name = some h ∧ h.applyTo o.params.toList = some act ∧
      act s = .ok s') ∨ ∃ e s', Stops rs index o s e s' := by
  cases hr : registered rs o.name with
  | none => exact .inr ⟨_, _, .unknown hr⟩
  | some h =>
    cases ha : h.applyTo o.params.toList with
    | none =>
      obtain ⟨n, harity, hn⟩ := Handler.exists_arity_of_applyTo ha
      exact .inr ⟨_, _, .arity hr harity hn⟩
    | some act =>
      cases hact : act s with
      | ok s' => exact .inl ⟨h, act, s', rfl, ha, hact⟩
      | failed e s' => exact .inr ⟨e, s', .failed hr ha hact⟩

theorem step_ok_iff {index : Nat} {o : Opcode} {s s' : σ} :
    (ofRegistrations rs).step index o s = .ok s' ↔
      ∃ h act, registered rs o.name = some h ∧ h.applyTo o.params.toList = some act ∧
        act s = .ok s' := by
  constructor
  · intro hstep
    rcases step_cases rs index o s with ⟨h, act, s₁, hr, ha, hact⟩ | ⟨e, s₁, hstops⟩
    · rw [step_of_applyTo hr ha] at hstep
      exact ⟨h, act, hr, ha, hstep⟩
    · cases hstops.step.symm.trans hstep
  · rintro ⟨h, act, hr, ha, hact⟩
    rw [step_of_applyTo hr ha, hact]

theorem step_failed_iff {index : Nat} {o : Opcode} {s s' : σ} {e : Error} :
    (ofRegistrations rs).step index o s = .failed e s' ↔ Stops rs index o s e s' := by
  refine ⟨fun hstep => ?_, Stops.step⟩
  rcases step_cases rs index o s with ⟨h, act, s₁, hr, ha, hact⟩ | ⟨e', s₁, hstops⟩
  · rw [step_of_applyTo hr ha] at hstep
    exact .failed hr ha hstep
  · cases hstops.step.symm.trans hstep
    exact hstops

/-! ## Runs -/

/-- All opcodes take effect, each once and in order: the handler that counts for its name acts with
exactly the parameters of the opcode, and does not fail. -/
inductive Executes (rs : List (String × Handler σ)) : List Opcode → σ → σ → Prop
  | nil (s : σ) : Executes rs [] s s
  | cons {o : Opcode} {rest : List Opcode} {h : Handler σ} {act : σ → Outcome σ} {s s₁ s' : σ} :
      registered rs o.name = some h → h.applyTo o.params.toList = some act → act s = .ok s₁ →
      Executes rs rest s₁ s' → Executes rs (o :: rest) s s'

/-- The opcode at position `index` is `o`, and executing those before it leads to the state `s'`. -/
def Arrives (rs : List (String × Handler σ)) (ops : List Opcode) (s : σ) (index : Nat) (o : Opcode)
    (s' : σ) : Prop :=
  ∃ before after, ops = before ++ o :: after ∧ before.length = index ∧ Executes rs before s s'

theorem arrives_head (o : Opcode) (rest : List Opcode) (s : σ) :
    Arrives rs (o :: rest) s 0 o s :=
  ⟨[], rest, rfl, rfl, .nil s⟩

theorem Arrives.cons {o o' : Opcode} {rest : List Opcode} {h : Handler σ} {act : σ → Outcome σ}
    {s s₁ s' : σ} {index : Nat} (hr : registered rs o.name = some h)
    (ha : h.applyTo o.params.toList = some act) (hact : act s = .ok s₁)
    (hrest : Arrives rs rest s₁ index o' s') :
    Arrives rs (o :: rest) s (index + 1) o' s' := by
  obtain ⟨before, after, rfl, rfl, hbefore⟩ := hrest
  exact ⟨o :: before, after, rfl, rfl, .cons hr ha hact hbefore⟩

theorem runFrom_ok_iff {ops : List Opcode} {index : Nat} {s s' : σ} :
    (ofRegistrations rs).runFrom index ops s = .ok s' ↔ Executes rs ops s s' := by
  constructor
  · intro hrun
    induction ops generalizing index s with
    | nil =>
      cases hrun
      exact .nil _
    | cons o rest ih =>
      rw [runFrom] at hrun
      cases hstep : (ofRegistrations rs).step index o s with
      | ok s₁ =>
        obtain ⟨h, act, hr, ha, hact⟩ := step_ok_iff.1 hstep
        rw [hstep] at hrun
        exact .cons hr ha hact (ih hrun)
      | failed e s₁ =>
        rw [hstep] at hrun
        cases hrun
  · intro hexec
    induction hexec generalizing index with
    | nil => rfl
    | cons hr ha hact _ ih => rw [runFrom, step_of_applyTo hr ha, hact, Outcome.andThen_ok, ih]

theorem runFrom_failed_iff {ops : List Opcode} {index : Nat} {s s' : σ} {e : Error} :
    (ofRegistrations rs).runFrom index ops s = .failed e s' ↔
      ∃ i o s₁, Arrives rs ops s i o s₁ ∧ Stops rs (index + i) o s₁ e s' := by
  constructor
  · intro hrun
    induction ops generalizing index s with
    | nil => cases hrun
    | cons o rest ih =>
      rw [runFrom] at hrun
      cases hstep : (ofRegistrations rs).step index o s with
      | ok s₁ =>
        obtain ⟨h, act, hr, ha, hact⟩ := step_ok_iff.1 hstep
        rw [hstep] at hrun
        obtain ⟨i, o', s₂, harrives, hstops⟩ := ih hrun
        rw [Nat.add_right_comm] at hstops
        exact ⟨i + 1, o', s₂, harrives.cons hr ha hact, hstops⟩
      | failed e' s₁ =>
        rw [hstep] at hrun
        cases hrun
        exact ⟨0, o, s, arrives_head o rest s, step_failed_iff.1 hstep⟩
  · rintro ⟨i, o, s₁, ⟨before, after, rfl, rfl, hbefore⟩, hstops⟩
    rw [runFrom_append, runFrom_ok_iff.2 hbefore, Outcome.andThen_ok, runFrom, hstops.step]
    rfl

/-! ## Positions -/

/-- The position counts only for an opcode that has no handler. -/
theorem Stops.moved {index : Nat} {o : Opcode} {s s' : σ} {e : Error}
    (hstops : Stops rs index o s e s') (hr : registered rs o.name ≠ none) (index' : Nat) :
    Stops rs index' o s e s' := by
  cases hstops with
  | unknown hnone => exact absurd hnone hr
  | arity hsome ha hn => exact .arity hsome ha hn
  | failed hsome ha hact => exact .failed hsome ha hact

theorem runFrom_of_unknown {ops : List Opcode} {s s' : σ} {i : Nat} {o : Opcode}
    (harrives : Arrives rs ops s i o s') (hr : registered rs o.name = none) (index : Nat) :
    (ofRegistrations rs).runFrom index ops s =
      .failed (.unknownOpcode o.name (index + i)) s' :=
  runFrom_failed_iff.2 ⟨i, o, s', harrives, .unknown hr⟩

/-- Without a missing handler a run is the same at any position. Errors that a handler raises are
passed on as they are. -/
theorem runFrom_moved {ops : List Opcode} {s : σ}
    (hr : ∀ i o s', Arrives rs ops s i o s' → registered rs o.name ≠ none) (index index' : Nat) :
    (ofRegistrations rs).runFrom index ops s = (ofRegistrations rs).runFrom index' ops s := by
  cases hrun : (ofRegistrations rs).runFrom index' ops s with
  | ok s' => rw [runFrom_ok_iff, ← runFrom_ok_iff, hrun]
  | failed e s' =>
    obtain ⟨i, o, s₁, harrives, hstops⟩ := runFrom_failed_iff.1 hrun
    exact runFrom_failed_iff.2 ⟨i, o, s₁, harrives, hstops.moved (hr i o s₁ harrives) _⟩

theorem run_append (t : HandlerTable σ) (a b : Opcodes) (s : σ) :
    t.run (a ++ b) s = (t.run a s).andThen (t.runFrom a.size b.toList) := by
  rw [run, Array.toList_append, runFrom_append, Array.length_toList, Nat.zero_add]
  rfl

/-- **Execution.** Let a table result from any registrations. It answers for every name as the last
handler registered under it does, whatever is registered under other names, and its size is the
number of names. A run succeeds just if it executes all opcodes, and fails just if it executes those
before some opcode and stops there, with what that opcode gives. A run of `a ++ b` is a run of `a`
and, if that succeeds, a run of `b` from the state reached; where `b` comes to an opcode without a
handler, its position is counted from the start of `a`. -/
theorem run_ofRegistrations (rs : List (String × Handler σ)) :
    (∀ name,
      (ofRegistrations rs).find? name = registered rs name ∧
      (ofRegistrations rs).contains name = (registered rs name).isSome ∧
      (ofRegistrations rs).arity name = (registered rs name).map Handler.arity) ∧
    (ofRegistrations rs).size = (rs.map Prod.fst).dedup.length ∧
    (∀ (ops : Opcodes) (s s' : σ),
      (ofRegistrations rs).run ops s = .ok s' ↔ Executes rs ops.toList s s') ∧
    (∀ (ops : Opcodes) (s : σ) (e : Error) (s' : σ),
      (ofRegistrations rs).run ops s = .failed e s' ↔
        ∃ index o s₁, Arrives rs ops.toList s index o s₁ ∧ Stops rs index o s₁ e s') ∧
    ∀ (a b : Opcodes) (s : σ),
      (∀ e s', (ofRegistrations rs).run a s = .failed e s' →
        (ofRegistrations rs).run (a ++ b) s = .failed e s') ∧
      ∀ s₁, (ofRegistrations rs).run a s = .ok s₁ →
        (∀ index o s₂, Arrives rs b.toList s₁ index o s₂ → registered rs o.name = none →
          (ofRegistrations rs).run b s₁ = .failed (.unknownOpcode o.name index) s₂ ∧
          (ofRegistrations rs).run (a ++ b) s =
            .failed (.unknownOpcode o.name (a.size + index)) s₂) ∧
        ((∀ index o s₂, Arrives rs b.toList s₁ index o s₂ → registered rs o.name ≠ none) →
          (ofRegistrations rs).run (a ++ b) s = (ofRegistrations rs).run b s₁) := by
  refine ⟨fun name => ?_, size_ofRegistrations rs, fun ops s s' => runFrom_ok_iff,
    fun ops s e s' => ?_, fun a b s => ⟨fun e s' ha => ?_, fun s₁ ha => ?_⟩⟩
  · rw [contains, arity, find?_ofRegistrations]
    exact ⟨rfl, rfl, rfl⟩
  · rw [run, runFrom_failed_iff]
    simp only [Nat.zero_add]
  · rw [run_append, ha]
    rfl
  · rw [run_append, ha, Outcome.andThen_ok]
    refine ⟨fun index o s₂ harrives hr => ⟨?_, runFrom_of_unknown harrives hr _⟩, fun hr => ?_⟩
    · rw [run, runFrom_of_unknown harrives hr, Nat.zero_add]
    · exact runFrom_moved hr _ _

end HandlerTable

end RichText
