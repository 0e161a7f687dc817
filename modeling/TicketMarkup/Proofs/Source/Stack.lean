import TicketMarkup.Json.Decode
import TicketMarkup.Proofs.Source.FirstFault
import TicketMarkup.Proofs.Source.Infinite
import TicketMarkup.Source.Calls

/-!
# How loading ends on a stack

Without a bound on the stack, loading ends with a tree, with a fault of the data or with an infinite
number (`Infinite`): that the stack is used up comes of no rule (`loadSequence_ne_exhausted`). On a
stack that some calls use up, it ends so exactly where one of the calls it makes is such a call. So
it ends with a tree or a fault of the data exactly if neither happens (`loads_or_faulty_iff`).
-/

namespace TicketMarkup

/-! ## Without a bound -/

section Sequences

variable {limit : Int} {depth : Nat} {place : Location} {fields : Fields}

theorem integerValue_ne_exhausted {name : String} {v : Json} :
    (integerValue name place v).outcome ≠ .error .exhausted := by
  unfold integerValue
  split
  next => simp
  next => split <;> simp

theorem integerField_ne_exhausted {name : String} {default : Int} :
    (integerField name default place fields).outcome ≠ .error .exhausted := by
  unfold integerField
  split
  next => simp
  next => exact integerValue_ne_exhausted

theorem optionalIntegerField_ne_exhausted {name : String} {default : Int} :
    (optionalIntegerField name default place fields).outcome ≠ .error .exhausted := by
  unfold optionalIntegerField
  split
  next => simp
  next => simp
  next => exact integerValue_ne_exhausted

variable (hnested : ∀ where' v,
  (loadSequence limit (depth + 1) where' v).outcome ≠ .error .exhausted)

include hnested

/-- A label does not exhaust the stack if the sequence in it does not. -/
theorem loadLabel_ne_exhausted :
    (loadLabel limit depth place fields).outcome ≠ .error .exhausted := by
  induction fields with
  | nil => simp [loadLabel]
  | cons f rest ih =>
    rw [loadLabel]
    split
    next =>
      split
      next => simp
      next => simp [Traced.outcome_bind_eq_error_iff, hnested, -Traced.outcome_bind]
    next => exact ih

theorem loadItemArray_ne_exhausted {v : Json} :
    (loadItemArray limit depth place v).outcome ≠ .error .exhausted := by
  cases v with
  | arr vs =>
    intro h
    obtain ⟨_, v, _, -, -, hv⟩ := exists_of_loadItemSequences h
    exact hnested _ _ hv
  | _ => simp [loadItemArray]

/-- Reading fields by a rule does not use up the stack. -/
theorem FieldRule.not_fails_exhausted {rule : FieldRule} :
    ¬rule.Fails limit depth place fields .exhausted := by
  intro h
  cases rule with
  | text name nullable =>
    cases nullable with
    | false =>
      obtain ⟨-, -, -, ⟨⟩⟩ := exists_of_textField h
    | true =>
      obtain ⟨-, -, -, -, ⟨⟩⟩ := exists_of_optionalTextField h
  | integer name nullable =>
    cases nullable with
    | false => exact integerField_ne_exhausted h
    | true => exact optionalIntegerField_ne_exhausted h
  | children =>
    rw [FieldRule.Fails, loadChildren_eq] at h
    exact hnested _ _ h
  | label => exact loadLabel_ne_exhausted hnested h
  | items =>
    rw [FieldRule.Fails, loadItems_eq] at h
    exact loadItemArray_ne_exhausted hnested h

/-- A node does not exhaust the stack if the sequences in it do not. -/
theorem loadNode_ne_exhausted {v : Json} :
    (loadNode limit depth place v).outcome ≠ .error .exhausted := by
  intro h
  cases v with
  | obj fields =>
    cases htype : Fields.get? "type" fields with
    | none => simp [loadNode, htype] at h
    | some t =>
      cases t with
      | str tag =>
        cases hkind : Kind.ofTag? tag with
        | none =>
          simp [loadNode, htype, hkind, Traced.outcome_bind_eq_error_iff, -Traced.outcome_bind] at h
        | some k =>
          rw [← Kind.tag_of_ofTag? hkind] at htype
          obtain ⟨rule, -, hrule⟩ := exists_rule_of_loadNode htype h
          exact FieldRule.not_fails_exhausted hnested hrule
      | _ => simp [loadNode, htype] at h
  | _ => simp [loadNode] at h

end Sequences

/-- No rule of loading says that the stack is used up. -/
theorem loadSequence_ne_exhausted {limit : Int} {depth : Nat} {place : Location} {v : Json} :
    (loadSequence limit depth place v).outcome ≠ .error .exhausted := by
  -- By the levels that are left: within the limit the fault is that of a node, and the sequences
  -- of the node are one level deeper.
  induction depth using depth_induction limit generalizing place v with
  | beyond depth hdepth => cases v <;> simp [loadSequence, hdepth]
  | within depth hdepth ih =>
    cases v with
    | arr vs =>
      rw [loadSequence, if_neg (Int.not_lt.2 hdepth)]
      intro h
      obtain ⟨_, v, _, -, -, hv⟩ := exists_of_loadNodes h
      exact loadNode_ne_exhausted (fun _ _ => ih) hv
    | _ => simp [loadSequence]

/-- Loading without a bound has all the stack it asks for. -/
theorem loadDocument_ne_exhausted {limit : Int} {data : Json} :
    (loadDocument limit data).outcome ≠ .error .exhausted := by
  cases data with
  | obj fields =>
    cases hnodes : Fields.get? "nodes" fields with
    | none => simp [loadDocument, hnodes]
    | some v =>
      simp [loadDocument, hnodes, Traced.outcome_bind_eq_error_iff, loadSequence_ne_exhausted,
        -Traced.outcome_bind]
  | _ =>
    simp [loadDocument, load, Traced.outcome_bind_eq_error_iff, loadSequence_ne_exhausted,
      -Traced.outcome_bind]

/-! ## On a stack -/

section Stack

variable {α : Type} {exhausted : Call → Bool} {calls : List Call}

/-- An outcome is a result or a fault of the data unless an infinite number was met or the stack was
used up. -/
theorem ok_or_malformed_iff {x : Except LoadFailure α} :
    ((∃ a, x = .ok a) ∨ ∃ fault, x = .error (.malformed fault)) ↔
      x ≠ .error .infiniteNumber ∧ x ≠ .error .exhausted := by
  rcases x with (fault | _ | _) | a <;> simp

/-- A step that does not itself say so ends with the stack used up exactly if a call uses it up. -/
theorem Loading.outcome_onStack_eq_exhausted_iff {x : Loading α}
    (hx : x.outcome ≠ .error .exhausted) :
    (x.onStack exhausted calls).outcome = .error .exhausted ↔
      ∃ call ∈ calls, exhausted call = true := by
  by_cases hcalls : ∃ call ∈ calls, exhausted call = true
  · exact iff_of_true (Loading.outcome_onStack_of_exists hcalls x) hcalls
  · have hforall : ∀ call ∈ calls, exhausted call = false := by simpa using hcalls
    rw [Loading.onStack_of_forall hforall]
    exact iff_of_false hx hcalls

/-- A step ends with a result or a fault of the data on a stack exactly if it does so without a
bound and no call uses up the stack. -/
theorem Loading.ok_or_malformed_onStack_iff {x : Loading α} (hx : x.outcome ≠ .error .exhausted) :
    ((∃ a, (x.onStack exhausted calls).outcome = .ok a) ∨
      ∃ fault, (x.onStack exhausted calls).outcome = .error (.malformed fault)) ↔
        x.outcome ≠ .error .infiniteNumber ∧ ∀ call ∈ calls, exhausted call = false := by
  rw [ok_or_malformed_iff, Ne, Ne, Loading.outcome_onStack_eq_exhausted_iff hx]
  by_cases hcalls : ∃ call ∈ calls, exhausted call = true
  · simp only [hcalls, not_true_eq_false, and_false, false_iff, not_and]
    obtain ⟨call, hcall, hexhausted⟩ := hcalls
    intro _ hforall
    rw [hforall call hcall] at hexhausted
    cases hexhausted
  · have hforall : ∀ call ∈ calls, exhausted call = false := by simpa using hcalls
    rw [Loading.onStack_of_forall hforall]
    simp only [hcalls, not_false_eq_true, and_true, iff_self_and]
    exact fun _ => hforall

end Stack

/-- Data is loaded or found at fault, as a sequence and as a document, exactly if no infinite number
is met in its nodes (none stands in an integer field after data that follows the rules) and no call
that loading makes uses up the stack, whichever calls would do so. -/
theorem loads_or_faulty_iff (exhausted : Call → Bool) (limit : Int) (data : Json) :
    (((∃ nodes, (loadOn exhausted limit data).outcome = .ok nodes) ∨
      ∃ fault, (loadOn exhausted limit data).outcome = .error (.malformed fault)) ↔
        ¬MeetsInfinite limit 0 data ∧ ∀ call ∈ loadCalls limit data, exhausted call = false) ∧
    (((∃ document, (loadDocumentOn exhausted limit data).outcome = .ok document) ∨
      ∃ fault, (loadDocumentOn exhausted limit data).outcome = .error (.malformed fault)) ↔
        (∀ v, data.documentNodes? = some v → ¬MeetsInfinite limit 0 v) ∧
          ∀ call ∈ documentCalls limit data, exhausted call = false) := by
  refine ⟨?_, ?_⟩
  · rw [loadOn, load, Loading.ok_or_malformed_onStack_iff loadSequence_ne_exhausted, Ne,
      loadSequence_eq_infinite_iff]
  · rw [loadDocumentOn, Loading.ok_or_malformed_onStack_iff loadDocument_ne_exhausted, Ne,
      loadDocument_eq_infinite_iff]
    simp only [not_exists, not_and]

/-- A heading whose level is too large a number to be finite, with all the stack. -/
theorem not_loads_or_faulty_infinite_level :
    ∃ data, Json.decode "[\x7b\"type\": \"heading\", \"level\": 1e400\x7d]".toList = .ok data ∧
      ¬((∃ nodes, (loadOn (fun _ => false) defaultDepthLimit data).outcome = .ok nodes) ∨
        ∃ fault, (loadOn (fun _ => false) defaultDepthLimit data).outcome =
          .error (.malformed fault)) := by
  refine ⟨.arr [.obj [("type", .str "heading"), ("level", .float (.infinite false))]],
    by rfl, ?_⟩
  rw [loadOn, Loading.onStack_of_forall (fun _ _ => rfl), ok_or_malformed_iff]
  exact fun h => h.1 rfl

end TicketMarkup
