import RichText.Error
import RichText.Opcode.Basic

/-!
# Running opcodes

Opcodes run on a target through a table of handlers. The table has one handler for a name, and a
handler declares how many parameters it takes.

**Outcomes.** A run ends in a state of the target whether it fails or not: `Outcome` keeps the state
beside the error, since the effects of what ran before a failure stay.

**Order.** `HandlerTable.run` takes the opcodes in order and stops at the first that has no handler,
has the wrong number of parameters, or fails.
-/

namespace RichText

/-- How an action on a state of type `σ` ends: in a state, and with an error if it failed. -/
inductive Outcome (σ : Type) where
  | ok (state : σ)
  | failed (error : Error) (state : σ)
deriving DecidableEq

namespace Outcome

variable {σ : Type}

/-- The state in which an action ended. -/
def state : Outcome σ → σ
  | ok s => s
  | failed _ s => s

/-- The error with which an action ended. -/
def error? : Outcome σ → Option Error
  | ok _ => none
  | failed e _ => some e

/-- Goes on from the state reached, unless the action failed. -/
def andThen (o : Outcome σ) (next : σ → Outcome σ) : Outcome σ :=
  match o with
  | ok s => next s
  | failed e s => failed e s

/-- The state reached, or the error. -/
def toExcept : Outcome σ → Except Error σ
  | ok s => .ok s
  | failed e _ => .error e

/-- An action that first computes a value and leaves the state as it is if that fails. -/
def given (s : σ) (value : Except Error α) (act : α → Outcome σ) : Outcome σ :=
  match value with
  | .ok a => act a
  | .error e => failed e s

@[simp] theorem andThen_ok (s : σ) (next : σ → Outcome σ) : (ok s).andThen next = next s := rfl

@[simp] theorem andThen_failed (e : Error) (s : σ) (next : σ → Outcome σ) :
    (failed e s).andThen next = failed e s := rfl

theorem andThen_assoc (o : Outcome σ) (f g : σ → Outcome σ) :
    (o.andThen f).andThen g = o.andThen fun s => (f s).andThen g := by
  cases o <;> rfl

end Outcome

/-! ## Handlers -/

/-- What runs an opcode on a target of type `σ`, by the number of parameters it takes. -/
inductive Handler (σ : Type) where
  | nullary (act : σ → Outcome σ)
  | unary (act : Json → σ → Outcome σ)
  | binary (act : Json → Json → σ → Outcome σ)
  | variadic (act : List Json → σ → Outcome σ)

namespace Handler

variable {σ : Type}

/-- How many parameters the handler takes; none if it takes any number. -/
def arity : Handler σ → Option Nat
  | nullary _ => some 0
  | unary _ => some 1
  | binary _ => some 2
  | variadic _ => none

/-- Runs a handler on stored parameters, which it finds by their form. -/
def dispatch (h : Handler σ) (name : String) (params : Params) (s : σ) : Outcome σ :=
  match h, params with
  | nullary act, .none => act s
  | unary act, .one a => act a s
  | binary act, .two a b => act a b s
  | variadic act, params => act params.toList s
  | h, params => .failed (.arityMismatch name (h.arity.getD 0) params.size) s

/-- Runs an opcode. -/
def call (h : Handler σ) (o : Opcode) (s : σ) : Outcome σ := h.dispatch o.name o.params s

/-- An opcode is run like one whose parameters have just been stored. -/
theorem call_eq_dispatch (h : Handler σ) (o : Opcode) (s : σ) :
    h.call o s = h.dispatch o.name (.ofList o.params.toList) s := by
  rw [call, o.normal.ofList_toList]

end Handler

/-! ## Tables -/

/-- Handlers by name, each name once. -/
structure HandlerTable (σ : Type) where
  entries : List (String × Handler σ) := []

namespace HandlerTable

variable {σ : Type}

/-- Registers a handler. It takes the place of an earlier one of the same name. -/
def register (t : HandlerTable σ) (name : String) (h : Handler σ) : HandlerTable σ :=
  ⟨(name, h) :: t.entries.filter (·.1 != name)⟩

/-- The table that results from registering the given handlers one after another. -/
def ofRegistrations (rs : List (String × Handler σ)) : HandlerTable σ :=
  rs.foldl (fun t r => t.register r.1 r.2) {}

/-- The handler of a name. -/
def find? (t : HandlerTable σ) (name : String) : Option (Handler σ) := t.entries.lookup name

/-- Whether a name has a handler. -/
def contains (t : HandlerTable σ) (name : String) : Bool := (t.find? name).isSome

/-- The arity of the handler of a name. -/
def arity (t : HandlerTable σ) (name : String) : Option (Option Nat) :=
  (t.find? name).map Handler.arity

/-- How many names have a handler. -/
def size (t : HandlerTable σ) : Nat := t.entries.length

/-- Whether no name has a handler. -/
def isEmpty (t : HandlerTable σ) : Bool := t.entries.isEmpty

/-- Runs one opcode, which stands at position `index`. -/
def step (t : HandlerTable σ) (index : Nat) (o : Opcode) (s : σ) : Outcome σ :=
  match t.find? o.name with
  | some h => h.call o s
  | none => .failed (.unknownOpcode o.name index) s

/-- Runs opcodes in order, the first of which stands at position `index`. -/
def runFrom (t : HandlerTable σ) (index : Nat) : List Opcode → σ → Outcome σ
  | [], s => .ok s
  | o :: rest, s => (t.step index o s).andThen (t.runFrom (index + 1) rest)

/-- Runs a sequence of opcodes on a target. -/
def run (t : HandlerTable σ) (ops : Opcodes) (s : σ) : Outcome σ := t.runFrom 0 ops.toList s

end HandlerTable

end RichText
