import RichText.Opcode.Wire
import RichText.Proofs.Emission

/-!
# The wire format of opcodes

Writing and reading of opcodes are inverse to each other. An opcode has one form only, so what is
read has not just the same parameters as what was written, but holds them in the same way.

**The format (`IsWritten`).** A sequence of opcodes is an array of arrays that start with a name.

**Faults (`Faulty`).** Anything else is refused with the fault of its first item that is no opcode:
no array, an empty one, or one that starts with something other than a text.

Main result: `Opcodes.ofJson_inverts_toJson`.
-/

namespace RichText

namespace Opcode

/-- The value writes an opcode: it is an array that starts with a name. -/
def IsWritten (v : Json) : Prop := ∃ name params, v = .arr (.str name :: params)

/-- What keeps a value from writing an opcode. -/
inductive Faulty : Json → TreeFault → Prop
  | notSequence {v : Json} (h : v.arr? = none) : Faulty v (.wrongType v .sequence)
  | nameless : Faulty (.arr []) .namelessOpcode
  | notName {v : Json} {rest : List Json} (h : v.str? = none) :
      Faulty (.arr (v :: rest)) (.opcodeName v)

/-- An opcode is read from what writes it and from nothing else. -/
theorem ofJson_eq_ok_iff {v : Json} {o : Opcode} : ofJson v = .ok o ↔ v = o.toJson := by
  constructor
  · intro h
    unfold ofJson at h
    split at h <;> cases h
    simp [toJson, variadic]
  · rintro rfl
    rw [toJson, ofJson, variadic_toList]

theorem isWritten_iff {v : Json} : IsWritten v ↔ ∃ o, ofJson v = .ok o := by
  constructor
  · rintro ⟨name, params, rfl⟩
    exact ⟨variadic name params, rfl⟩
  · rintro ⟨o, ho⟩
    exact ⟨o.name, o.params.toList, ofJson_eq_ok_iff.1 ho⟩

theorem isWritten_or_faulty (v : Json) : IsWritten v ∨ ∃ fault, Faulty v fault := by
  cases v with
  | arr items =>
    cases items with
    | nil => exact .inr ⟨_, .nameless⟩
    | cons head params =>
      cases head with
      | str name => exact .inl ⟨name, params, rfl⟩
      | _ => exact .inr ⟨_, .notName rfl⟩
  | _ => exact .inr ⟨_, .notSequence rfl⟩

theorem Faulty.ofJson {v : Json} {fault : TreeFault} (h : Faulty v fault) :
    Opcode.ofJson v = .error fault := by
  cases h with
  | notSequence hv =>
    cases v with
    | arr items => cases hv
    | _ => rfl
  | nameless => rfl
  | @notName w rest hw =>
    cases w with
    | str name => cases hw
    | _ => rfl

theorem ofJson_eq_error_iff {v : Json} {fault : TreeFault} :
    ofJson v = .error fault ↔ Faulty v fault := by
  refine ⟨fun h => ?_, Faulty.ofJson⟩
  rcases isWritten_or_faulty v with hv | ⟨fault', hv⟩
  · obtain ⟨o, ho⟩ := isWritten_iff.1 hv
    cases ho.symm.trans h
  · cases hv.ofJson.symm.trans h
    exact hv

end Opcode

namespace Opcodes

/-- The value writes a sequence of opcodes. -/
def IsWritten (v : Json) : Prop := ∃ items, v = .arr items ∧ ∀ i ∈ items, Opcode.IsWritten i

/-- What keeps a value from writing a sequence of opcodes: it is no array, or it is one whose first
item that writes no opcode has a fault. -/
inductive Faulty : Json → TreeFault → Prop
  | notSequence {v : Json} (h : v.arr? = none) : Faulty v (.wrongType v .sequence)
  | item {before after : List Json} {v : Json} {fault : TreeFault}
      (hbefore : ∀ w ∈ before, Opcode.IsWritten w) (hv : Opcode.Faulty v fault) :
      Faulty (.arr (before ++ v :: after)) fault

theorem ofJson_arr (items : List Json) :
    ofJson (.arr items) = List.toArray <$> items.mapM Opcode.ofJson := rfl

theorem ofJson_of_not_array {v : Json} (h : v.arr? = none) :
    ofJson v = .error (.wrongType v .sequence) := by
  cases v with
  | arr items => cases h
  | _ => rfl

/-- A sequence is read from what writes it and from nothing else. -/
theorem ofJson_eq_ok_iff {v : Json} {ops : Opcodes} : ofJson v = .ok ops ↔ v = toJson ops := by
  cases v with
  | arr items =>
    rw [ofJson_arr, map_eq_ok_iff, toJson, Json.arr.injEq,
      ← mapM_eq_ok_iff_map fun _ _ => Opcode.ofJson_eq_ok_iff]
    constructor
    · rintro ⟨os, hos, rfl⟩
      exact hos
    · intro h
      exact ⟨ops.toList, h, rfl⟩
  | _ =>
    rw [ofJson_of_not_array rfl]
    simp [toJson]

theorem isWritten_iff {v : Json} : IsWritten v ↔ ∃ ops, ofJson v = .ok ops := by
  constructor
  · rintro ⟨items, rfl, hitems⟩
    cases h : ofJson (.arr items) with
    | ok ops => exact ⟨ops, rfl⟩
    | error fault =>
      rw [ofJson_arr, map_eq_error_iff, mapM_eq_error_iff] at h
      obtain ⟨before, v, after, rfl, -, hv⟩ := h
      obtain ⟨o, ho⟩ := Opcode.isWritten_iff.1
        (hitems v (List.mem_append_right before List.mem_cons_self))
      cases ho.symm.trans hv
  · rintro ⟨ops, hops⟩
    refine ⟨_, ofJson_eq_ok_iff.1 hops, fun i hi => ?_⟩
    obtain ⟨o, -, rfl⟩ := List.mem_map.1 hi
    exact ⟨o.name, o.params.toList, rfl⟩

theorem ofJson_eq_error_iff {v : Json} {fault : TreeFault} :
    ofJson v = .error fault ↔ Faulty v fault := by
  constructor
  · intro h
    cases v with
    | arr items =>
      rw [ofJson_arr, map_eq_error_iff, mapM_eq_error_iff] at h
      obtain ⟨before, v, after, rfl, hbefore, hv⟩ := h
      exact .item (fun w hw => Opcode.isWritten_iff.2 (hbefore w hw))
        (Opcode.ofJson_eq_error_iff.1 hv)
    | _ =>
      rw [ofJson_of_not_array rfl] at h
      cases h
      exact .notSequence rfl
  · rintro (h | ⟨hbefore, hv⟩)
    · exact ofJson_of_not_array h
    · rw [ofJson_arr, map_eq_error_iff, mapM_eq_error_iff]
      exact ⟨_, _, _, rfl, fun w hw => Opcode.isWritten_iff.1 (hbefore w hw), hv.ofJson⟩

/-- **The wire format.** Every sequence of opcodes is read back from what it is written as, in the
same form. A value is read just if it is an array of arrays that start with a name, and writing the
result gives the value again. Any other value is refused with the fault of its first faulty
item. -/
theorem ofJson_inverts_toJson :
    (∀ ops : Opcodes, ofJson (toJson ops) = .ok ops) ∧
      ∀ v, ((∃ ops, ofJson v = .ok ops) ↔ IsWritten v) ∧
        (∀ ops, ofJson v = .ok ops → toJson ops = v) ∧
        ∀ fault, ofJson v = .error fault ↔ Faulty v fault :=
  ⟨fun _ => ofJson_eq_ok_iff.2 rfl, fun _ =>
    ⟨isWritten_iff.symm, fun _ h => (ofJson_eq_ok_iff.1 h).symm, fun _ => ofJson_eq_error_iff⟩⟩

end Opcodes

end RichText
