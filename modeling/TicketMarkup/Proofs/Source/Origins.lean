import TicketMarkup.Proofs.Json.Everywhere
import TicketMarkup.Proofs.Source.LoadSteps
import TicketMarkup.Proofs.Source.Parts
import TicketMarkup.Proofs.Source.WellFormed

/-!
# What loaded nodes were loaded from

The sequences in a loaded node were loaded one deeper than the node, from values that stand in the
value of the node, or from no items at all (`sequences_of_loadNode`); and the first number of a
loaded list is one, or a value in that of the node stands for it (`first_of_loadNode`). So what a
value hands down to the values in it is handed down in loading (`IsLoaded`).
-/

namespace TicketMarkup

/-- Whether a condition on values is handed down to the values in a value, and holds of an array
without items. -/
structure Json.Inherited (P : Json → Prop) : Prop where
  empty : P (.arr [])
  of_mem_parts : ∀ {v w : Json}, P v → w ∈ v.parts → P w

/-- What holds everywhere in a value holds everywhere in its parts. -/
theorem Json.inherited_everywhere {Q : Json → Prop} (h : Q (.arr [])) :
    Json.Inherited (Json.Everywhere Q) :=
  ⟨.mk h (List.forall_mem_nil _), fun hv hw => hv.of_mem_parts hw⟩

/-- A sequence that loading gives at a depth, from some data that satisfies a condition. -/
def IsLoaded (P : Json → Prop) (limit : Int) (depth : Nat) (nodes : List Node) : Prop :=
  ∃ place v, P v ∧ (loadSequence limit depth place v).outcome = .ok nodes

section Origins

variable {P : Json → Prop} (hP : Json.Inherited P) {limit : Int} {depth : Nat} {place : Location}

include hP

/-- What is inherited holds of each field. -/
theorem Json.Inherited.get? {fields : Fields} (hfields : P (.obj fields)) {key : String}
    {v : Json} (h : Fields.get? key fields = some v) : P v :=
  hP.of_mem_parts hfields (Json.mem_parts_of_get? h)

/-- What is inherited holds of the children, also where there are none. -/
theorem Json.Inherited.children {fields : Fields} (hfields : P (.obj fields)) :
    P ((Fields.get? "children" fields).getD (.arr [])) := by
  cases h : Fields.get? "children" fields with
  | none => exact hP.empty
  | some v => exact hP.get? hfields h

section Fields

variable {fields : Fields} (hfields : P (.obj fields))

include hfields

/-- The children of a node are loaded from data with the inherited property. -/
theorem isLoaded_of_loadChildren {nodes : List Node}
    (h : (loadChildren limit depth place fields).outcome = .ok nodes) :
    IsLoaded P limit (depth + 1) nodes := by
  rw [loadChildren_eq] at h
  exact ⟨_, _, hP.children hfields, h⟩

theorem isLoaded_of_loadLabel {label : Option (List Node)}
    (h : (loadLabel limit depth place fields).outcome = .ok label) :
    ∀ nodes ∈ label, IsLoaded P limit (depth + 1) nodes := by
  rw [outcome_loadLabel] at h
  split at h
  · simp [h]
  next hnull =>
    obtain ⟨nodes, hnodes, rfl⟩ := h
    rintro _ ⟨⟩
    cases hchildren : Fields.get? "children" fields with
    | none => simp [hchildren] at hnull
    | some v =>
      rw [hchildren, Option.getD_some] at hnodes
      exact ⟨_, v, hP.get? hfields hchildren, hnodes⟩

/-- The items of a list are loaded from data with the inherited property. -/
theorem isLoaded_of_loadItems {items : List (List Node)}
    (h : (loadItems limit depth place fields).outcome = .ok items) :
    ∀ item ∈ items, IsLoaded P limit (depth + 1) item := by
  have hchildren := hP.children hfields
  rw [loadItems_eq] at h
  generalize (Fields.get? "children" fields).getD (.arr []) = v at h hchildren
  cases v with
  | arr vs =>
    intro item hitem
    obtain ⟨where', w, hw, hload⟩ := exists_loadSequence_of_mem h hitem
    exact ⟨where', w, hP.of_mem_parts hchildren hw, hload⟩
  | _ => simp [loadItemArray] at h

/-- What a node of a kind was loaded from holds its sequences, which were loaded one deeper. -/
theorem sequences_of_loadNode_of_kind {k : Kind}
    (hkind : Fields.get? "type" fields = some (.str k.tag)) {n : Node}
    (h : (loadNode limit depth place (.obj fields)).outcome = .ok n) :
    n.WellTagged ∧ ∀ s ∈ n.sequences, IsLoaded P limit (depth + 1) s := by
  cases k <;>
    simp only [loadNode, hkind, Kind.ofTag?_tag, Traced.outcome_bind_eq_ok_iff,
      Traced.outcome_pure, Except.ok.injEq] at h
  case bulletList =>
    obtain ⟨items, hitems, rfl⟩ := h
    exact ⟨trivial, isLoaded_of_loadItems hP hfields hitems⟩
  case numberedList =>
    obtain ⟨items, hitems, -, -, rfl⟩ := h
    exact ⟨trivial, isLoaded_of_loadItems hP hfields hitems⟩
  case quote | bold | italic | strike =>
    obtain ⟨children, hchildren, rfl⟩ := h
    exact ⟨trivial, List.forall_mem_singleton.2 (isLoaded_of_loadChildren hP hfields hchildren)⟩
  case link =>
    obtain ⟨label, hlabel, -, -, -, -, rfl⟩ := h
    exact ⟨trivial, fun s hs =>
      isLoaded_of_loadLabel hP hfields hlabel s (Option.mem_toList.1 hs)⟩
  case heading | preformatted =>
    obtain ⟨-, -, -, -, rfl⟩ := h
    exact ⟨trivial, List.forall_mem_nil _⟩
  case code | comment | ticket | mention | commit | attachment | image | text =>
    obtain ⟨-, -, rfl⟩ := h
    exact ⟨trivial, List.forall_mem_nil _⟩
  case rule | lineBreak | paragraphBreak =>
    subst h
    exact ⟨trivial, List.forall_mem_nil _⟩

end Fields

omit hP in
/-- What a node was loaded from: a string, or an object of a kind or of none. -/
theorem cases_of_loadNode {v : Json} {n : Node}
    (h : (loadNode limit depth place v).outcome = .ok n) :
    (∃ s, v = .str s ∧ n = .str s) ∨
    ∃ fields, v = .obj fields ∧
      ((∃ k : Kind, Fields.get? "type" fields = some (.str k.tag)) ∨
      ∃ tag, Kind.ofTag? tag = none ∧ n = .unknown tag (fields.filter fun f => f.1 ≠ "type")) := by
  cases v with
  | str s =>
    rw [loadNode] at h
    cases h
    exact .inl ⟨s, rfl, rfl⟩
  | obj fields =>
    refine .inr ⟨fields, rfl, ?_⟩
    cases htype : Fields.get? "type" fields with
    | none => simp [loadNode, htype] at h
    | some t =>
      cases t with
      | str tag =>
        cases hkind : Kind.ofTag? tag with
        | none =>
          simp only [loadNode, htype, hkind, Traced.outcome_bind_eq_ok_iff, Traced.outcome_pure,
            Except.ok.injEq] at h
          obtain ⟨-, -, rfl⟩ := h
          exact .inr ⟨tag, hkind, rfl⟩
        | some k => exact .inl ⟨k, by rw [Kind.tag_of_ofTag? hkind]⟩
      | _ => simp [loadNode, htype] at h
  | _ => simp [loadNode] at h

/-- Each sequence in a node is loaded from data with the inherited property, one level deeper. -/
theorem sequences_of_loadNode {v : Json} (hv : P v) {n : Node}
    (h : (loadNode limit depth place v).outcome = .ok n) :
    n.WellTagged ∧ ∀ s ∈ n.sequences, IsLoaded P limit (depth + 1) s := by
  rcases cases_of_loadNode h with ⟨s, rfl, rfl⟩ | ⟨fields, rfl, ⟨k, hk⟩ | ⟨tag, hkind, rfl⟩⟩
  · exact ⟨trivial, List.forall_mem_nil _⟩
  · exact sequences_of_loadNode_of_kind hP hv hk h
  · exact ⟨⟨hkind, fun f hf => by simpa using (List.mem_filter.1 hf).2⟩, List.forall_mem_nil _⟩

/-- The first number of a loaded list is one, or a value in that of the node stands for it. -/
theorem first_of_loadNode {v : Json} (hv : P v) {first : Int} {items : List (List Node)}
    (h : (loadNode limit depth place v).outcome = .ok (.list (some first) items)) :
    first = 1 ∨ ∃ w, P w ∧ w.StandsFor first := by
  rcases cases_of_loadNode h with ⟨s, rfl, heq⟩ | ⟨fields, rfl, ⟨k, hk⟩ | ⟨tag, -, heq⟩⟩
  · cases heq
  · cases k <;>
      simp only [loadNode, hk, Kind.ofTag?_tag, Traced.outcome_bind_eq_ok_iff, Traced.outcome_pure,
        Except.ok.injEq, Node.list.injEq, Option.some.injEq, reduceCtorEq, false_and,
        and_false, exists_false] at h
    case numberedList =>
      obtain ⟨-, -, number, hnumber, rfl, -⟩ := h
      rw [outcome_optionalIntegerField] at hnumber
      split at hnumber
      · exact .inl hnumber
      next hnull =>
        cases hget : Fields.get? "number" fields with
        | none => simp [hget] at hnull
        | some w =>
          rw [hget, Option.getD_some] at hnumber
          exact .inr ⟨w, hP.get? hv hget, hnumber⟩
  · cases heq

/-- What is inherited holds of an identifier, unless there is none. -/
theorem Json.Inherited.idField {fields : Fields} (hfields : P (.obj fields)) (name : String) :
    idField name fields = .null ∨ P (idField name fields) := by
  unfold TicketMarkup.idField
  cases h : Fields.get? name fields with
  | none => exact .inl rfl
  | some w => exact .inr (hP.get? hfields h)

/-- An identifier in a loaded node is null, or it stands in the value of the node. -/
theorem identifiers_of_loadNode {v : Json} (hv : P v) {n : Node}
    (h : (loadNode limit depth place v).outcome = .ok n) :
    ∀ w ∈ n.identifiers, w = .null ∨ P w := by
  rcases cases_of_loadNode h with ⟨s, rfl, rfl⟩ | ⟨fields, rfl, ⟨k, hk⟩ | ⟨tag, -, rfl⟩⟩
  · exact List.forall_mem_nil _
  · have hid := hP.idField hv
    cases k <;>
      simp only [loadNode, hk, Kind.ofTag?_tag, Traced.outcome_bind_eq_ok_iff,
        Traced.outcome_pure, Except.ok.injEq] at h
    case comment | attachment =>
      obtain ⟨-, -, rfl⟩ := h
      exact List.forall_mem_cons.2 ⟨hid _, List.forall_mem_singleton.2 (hid _)⟩
    case ticket | commit =>
      obtain ⟨-, -, rfl⟩ := h
      exact List.forall_mem_singleton.2 (hid _)
    case rule | lineBreak | paragraphBreak =>
      subst h
      exact List.forall_mem_nil _
    case bulletList | quote | bold | italic | strike | code | mention | image | text =>
      obtain ⟨-, -, rfl⟩ := h
      exact List.forall_mem_nil _
    case numberedList | heading | preformatted =>
      obtain ⟨-, -, -, -, rfl⟩ := h
      exact List.forall_mem_nil _
    case link =>
      obtain ⟨-, -, -, -, -, -, rfl⟩ := h
      exact List.forall_mem_nil _
  · exact List.forall_mem_nil _

/-- The nodes of a loaded sequence stand within the limit, and each was loaded from data that
satisfies the condition as well. -/
theorem IsLoaded.nodes {nodes : List Node} (h : IsLoaded P limit depth nodes) :
    (depth : Int) ≤ limit ∧
      ∀ n ∈ nodes, ∃ place v, P v ∧ (loadNode limit depth place v).outcome = .ok n := by
  obtain ⟨place, v, hv, hload⟩ := h
  obtain ⟨vs, rfl, hdepth, hvs⟩ := outcome_loadSequence.1 hload
  refine ⟨hdepth, fun n hn => ?_⟩
  obtain ⟨where', w, hw, hnode⟩ := exists_loadNode_of_mem hvs hn
  exact ⟨where', w, hP.of_mem_parts hv hw, hnode⟩

end Origins

end TicketMarkup
