/-!
# Steps that leave records

A step that may fail and leaves records on its way. The records left before a failure stay.

Main statements: `outcome_bind` and `records_bind_of_ok`, the outcome of a sequence of steps does
not depend on records, and the records of a sequence are those of its parts in order;
`outcome_bind_eq_ok_iff` and `outcome_bind_eq_error_iff`, a sequence of steps succeeds if each of
them does, and fails as the first that does not.
-/

namespace TicketMarkup

/-- The outcome of a step and the records that it left, in order. -/
structure Traced (ρ ε α : Type) where
  records : List ρ
  outcome : Except ε α

namespace Traced

variable {ρ ε α β : Type}

/-- A step that only fails. -/
def fail (e : ε) : Traced ρ ε α := ⟨[], .error e⟩

/-- A step that only leaves a record. -/
def leave (r : ρ) : Traced ρ ε Unit := ⟨[r], .ok ()⟩

/-- A step that leaves no record. -/
def ofExcept (x : Except ε α) : Traced ρ ε α := ⟨[], x⟩

/-- One step, and if it succeeds another one on its result. -/
def andThen (x : Traced ρ ε α) (f : α → Traced ρ ε β) : Traced ρ ε β :=
  match x.outcome with
  | .ok a => ⟨x.records ++ (f a).records, (f a).outcome⟩
  | .error e => ⟨x.records, .error e⟩

instance : Monad (Traced ρ ε) where
  pure a := ⟨[], .ok a⟩
  bind := andThen

@[simp] theorem outcome_pure (a : α) : (pure a : Traced ρ ε α).outcome = .ok a := rfl

@[simp] theorem records_pure (a : α) : (pure a : Traced ρ ε α).records = [] := rfl

@[simp] theorem outcome_fail (e : ε) : (fail e : Traced ρ ε α).outcome = .error e := rfl

@[simp] theorem outcome_leave (r : ρ) : (leave r : Traced ρ ε Unit).outcome = .ok () := rfl

@[simp] theorem outcome_ofExcept (x : Except ε α) : (ofExcept x : Traced ρ ε α).outcome = x := rfl

@[simp] theorem outcome_bind (x : Traced ρ ε α) (f : α → Traced ρ ε β) :
    (x >>= f).outcome = x.outcome.bind fun a => (f a).outcome := by
  show (andThen x f).outcome = _
  unfold andThen
  cases x.outcome <;> rfl

/-- Two steps succeed exactly if the first does and the second on what it gives. -/
theorem outcome_bind_eq_ok_iff {x : Traced ρ ε α} {f : α → Traced ρ ε β} {b : β} :
    (x >>= f).outcome = .ok b ↔ ∃ a, x.outcome = .ok a ∧ (f a).outcome = .ok b := by
  rw [outcome_bind]
  cases x.outcome <;> simp [Except.bind]

/-- Two steps fail by the first fault among them. -/
theorem outcome_bind_eq_error_iff {x : Traced ρ ε α} {f : α → Traced ρ ε β} {e : ε} :
    (x >>= f).outcome = .error e ↔
      x.outcome = .error e ∨ ∃ a, x.outcome = .ok a ∧ (f a).outcome = .error e := by
  rw [outcome_bind]
  cases x.outcome <;> simp [Except.bind]

/-- Whether two steps succeed, without saying what they give. -/
theorem exists_outcome_bind_iff {x : Traced ρ ε α} {f : α → Traced ρ ε β} :
    (∃ b, (x >>= f).outcome = .ok b) ↔ ∃ a, x.outcome = .ok a ∧ ∃ b, (f a).outcome = .ok b := by
  simp only [outcome_bind_eq_ok_iff]
  constructor
  · rintro ⟨b, a, ha, hb⟩
    exact ⟨a, ha, b, hb⟩
  · rintro ⟨a, ha, b, hb⟩
    exact ⟨b, a, ha, hb⟩

/-- The records of the second step come after those of the first. -/
theorem records_bind_of_ok {x : Traced ρ ε α} {a : α} (h : x.outcome = .ok a)
    (f : α → Traced ρ ε β) : (x >>= f).records = x.records ++ (f a).records := by
  show (andThen x f).records = _
  simp [andThen, h]

end Traced

end TicketMarkup
