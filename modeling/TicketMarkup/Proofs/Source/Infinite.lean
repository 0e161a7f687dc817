import TicketMarkup.Proofs.Source.Grammar

/-!
# Infinite numbers in markup data

Loading data that is no tree fails with the fault that is found first, and there is one way that the
data itself makes it fail without a fault: an infinite number where an integer is read, which has no
integer part to be refused. `MeetsInfinite` says which data this happens with, in terms of the
grammar: such a number stands in an integer field of a node, and everything before it, in document
order, follows the rules.

Main statements: `loadSequence_eq_infinite_iff` and `loadDocument_eq_infinite_iff`.
-/

namespace TicketMarkup

/-! ## The first of a list -/

/-- Whether a list has a member that is `bad` and comes after members that are `good` only. -/
def FirstBad {α : Type} (good bad : α → Prop) (l : List α) : Prop :=
  ∃ before x after, l = before ++ x :: after ∧ (∀ y ∈ before, good y) ∧ bad x

section First

variable {α : Type} {good bad : α → Prop}

/-- An empty list has no bad member. -/
theorem not_firstBad_nil : ¬FirstBad good bad [] := by
  rintro ⟨before, x, after, h, -⟩
  simp at h

/-- The first bad member is at the head, or after a good head. -/
theorem firstBad_cons {x : α} {l : List α} :
    FirstBad good bad (x :: l) ↔ bad x ∨ good x ∧ FirstBad good bad l := by
  constructor
  · rintro ⟨before, y, after, h, hgood, hbad⟩
    cases before with
    | nil =>
      obtain ⟨rfl, -⟩ := List.cons.inj h
      exact .inl hbad
    | cons z before =>
      obtain ⟨rfl, rfl⟩ := List.cons.inj h
      obtain ⟨hz, hbefore⟩ := List.forall_mem_cons.1 hgood
      exact .inr ⟨hz, before, y, after, rfl, hbefore, hbad⟩
  · rintro (hbad | ⟨hx, before, y, after, rfl, hgood, hbad⟩)
    · exact ⟨[], x, l, rfl, List.forall_mem_nil _, hbad⟩
    · exact ⟨x :: before, y, after, rfl, List.forall_mem_cons.2 ⟨hx, hgood⟩, hbad⟩

end First

/-! ## Where an infinite number is met -/

/-- Whether following a rule meets an infinite number, where `meets` says so of a nested sequence
and `nested` which nested sequences there are. -/
def FieldRule.MeetsInfinite (nested meets : Json → Prop) (fields : Fields) : FieldRule → Prop
  | text _ _ => False
  | integer name _ => ∃ negative, Fields.get? name fields = some (.float (.infinite negative))
  | children => ∃ v, Fields.get? "children" fields = some v ∧ meets v
  | label => ∃ v, Fields.get? "children" fields = some v ∧ meets v
  | items => ∃ items, Fields.get? "children" fields = some (.arr items) ∧
      FirstBad nested meets items

/-- Whether a node meets an infinite number: by one of the rules of its kind, after fields that
follow the rules before it. -/
def NodeMeetsInfinite (nested meets : Json → Prop) (v : Json) : Prop :=
  ∃ fields k, v = .obj fields ∧ Fields.get? "type" fields = some (.str (Kind.tag k)) ∧
    FirstBad (FieldRule.Holds nested fields) (FieldRule.MeetsInfinite nested meets fields) k.rules

/-- Whether a sequence with at most so many levels of sequences meets an infinite number: in one of
its nodes, after members that are nodes. -/
def SequenceMeetsInfinite : Nat → Json → Prop
  | 0, _ => False
  | levels + 1, v => ∃ nodes, v = .arr nodes ∧
      FirstBad (IsNode (IsSequence levels))
        (NodeMeetsInfinite (IsSequence levels) (SequenceMeetsInfinite levels)) nodes

/-- Whether a sequence that stands at a depth meets an infinite number. -/
def MeetsInfinite (limit : Int) (depth : Nat) : Json → Prop :=
  SequenceMeetsInfinite (levelsAt limit depth)

/-- A sequence meets an infinite number if one of its nodes does and those before it are
accepted. -/
theorem meetsInfinite_iff {limit : Int} {depth : Nat} {v : Json} :
    MeetsInfinite limit depth v ↔
      ∃ nodes, v = .arr nodes ∧ (depth : Int) ≤ limit ∧
        FirstBad (IsNode (Accepts limit (depth + 1)))
          (NodeMeetsInfinite (Accepts limit (depth + 1)) (MeetsInfinite limit (depth + 1)))
          nodes := by
  unfold MeetsInfinite Accepts
  by_cases h : limit < depth
  · simp [levelsAt_of_lt h, SequenceMeetsInfinite, Int.not_le.2 h]
  · simp [levelsAt_of_le (Int.not_lt.1 h), SequenceMeetsInfinite, Int.not_lt.1 h]

/-! ## Loading fails there -/

section Fields

variable {name : String} {place : Location} {fields : Fields}

/-- A text field never meets an infinite number. -/
theorem textField_ne_infinite :
    (textField name place fields).outcome ≠ .error .infiniteNumber := by
  unfold textField
  split <;> simp

theorem optionalTextField_ne_infinite :
    (optionalTextField name place fields).outcome ≠ .error .infiniteNumber := by
  unfold optionalTextField
  split <;> simp

/-- Reading an integer ends so at an infinite number and at nothing else. -/
theorem integerValue_eq_infinite_iff {v : Json} :
    (integerValue name place v).outcome = .error .infiniteNumber ↔
      ∃ negative, v = .float (.infinite negative) := by
  rw [← Json.toInteger_eq_infinite_iff]
  unfold integerValue
  split
  · simp [Json.toInteger]
  · split <;> simp_all

theorem integerField_eq_infinite_iff {default : Int} :
    (integerField name default place fields).outcome = .error .infiniteNumber ↔
      ∃ negative, Fields.get? name fields = some (.float (.infinite negative)) := by
  unfold integerField
  split
  next h => simp [h]
  next v h => simp [integerValue_eq_infinite_iff, h]

theorem optionalIntegerField_eq_infinite_iff {default : Int} :
    (optionalIntegerField name default place fields).outcome = .error .infiniteNumber ↔
      ∃ negative, Fields.get? name fields = some (.float (.infinite negative)) := by
  unfold optionalIntegerField
  split
  next h => simp [h]
  next h => simp [h]
  next v _ h => simp [integerValue_eq_infinite_iff, h]

end Fields

section Sequences

variable {limit : Int} {depth : Nat} {place : Location}

/-- A sequence ends at an infinite number if a node does and those before it are loaded. -/
theorem loadNodes_eq_infinite_iff {good bad : Json → Prop} {vs : List Json} {index : Nat}
    (hgood : ∀ where' v, (∃ n, (loadNode limit depth where' v).outcome = .ok n) ↔ good v)
    (hbad : ∀ where' v,
      (loadNode limit depth where' v).outcome = .error .infiniteNumber ↔ bad v) :
    (loadNodes limit depth place index vs).outcome = .error .infiniteNumber ↔
      FirstBad good bad vs := by
  induction vs generalizing index with
  | nil => simp [loadNodes, not_firstBad_nil]
  | cons v vs ih =>
    rw [loadNodes, firstBad_cons, Traced.outcome_bind_eq_error_iff, hbad,
      ← hgood (place ++ [.item index]) v, ← @ih (index + 1)]
    simp only [Traced.outcome_bind_eq_error_iff, Traced.outcome_pure, reduceCtorEq, and_false,
      exists_false, or_false, exists_and_right]

variable {nested meets : Json → Prop}
  (hnested : ∀ where' v,
    (∃ nodes, (loadSequence limit (depth + 1) where' v).outcome = .ok nodes) ↔ nested v)
  (hmeets : ∀ where' v,
    (loadSequence limit (depth + 1) where' v).outcome = .error .infiniteNumber ↔ meets v)

include hmeets

theorem loadChildren_eq_infinite_iff {fields : Fields} :
    (loadChildren limit depth place fields).outcome = .error .infiniteNumber ↔
      FieldRule.children.MeetsInfinite nested meets fields := by
  have hempty : ¬meets (.arr []) := by
    rw [← hmeets place]
    unfold loadSequence
    split <;> simp [loadNodes]
  rw [loadChildren_eq, hmeets, FieldRule.MeetsInfinite]
  cases Fields.get? "children" fields with
  | none => simpa using hempty
  | some v => simp

theorem loadLabel_eq_infinite_iff {fields : Fields} :
    (loadLabel limit depth place fields).outcome = .error .infiniteNumber ↔
      FieldRule.label.MeetsInfinite nested meets fields := by
  have hnull : ¬meets .null := by
    rw [← hmeets place]
    simp [loadSequence]
  simp only [FieldRule.MeetsInfinite]
  induction fields with
  | nil => simp [loadLabel, Fields.get?]
  | cons f rest ih =>
    obtain ⟨k, v⟩ := f
    by_cases hk : k = "children"
    · by_cases hv : v = .null
      · simp [loadLabel, Fields.get?, hk, hv, hnull]
      · rw [loadLabel, if_pos hk, if_neg hv, Traced.outcome_bind_eq_error_iff, hmeets]
        simp [Fields.get?, hk]
    · rw [loadLabel, if_neg hk, Fields.get?, if_neg hk]
      exact ih

include hnested

theorem loadItemSequences_eq_infinite_iff {vs : List Json} {index : Nat} :
    (loadItemSequences limit depth place index vs).outcome = .error .infiniteNumber ↔
      FirstBad nested meets vs := by
  induction vs generalizing index with
  | nil => simp [loadItemSequences, not_firstBad_nil]
  | cons v vs ih =>
    rw [loadItemSequences, firstBad_cons, Traced.outcome_bind_eq_error_iff, hmeets,
      ← hnested (place ++ [.item index]) v, ← @ih (index + 1)]
    simp only [Traced.outcome_bind_eq_error_iff, Traced.outcome_pure, reduceCtorEq, and_false,
      exists_false, or_false, exists_and_right]

theorem loadItems_eq_infinite_iff {fields : Fields} :
    (loadItems limit depth place fields).outcome = .error .infiniteNumber ↔
      FieldRule.items.MeetsInfinite nested meets fields := by
  rw [loadItems_eq, FieldRule.MeetsInfinite]
  cases Fields.get? "children" fields with
  | none => simp [loadItemArray, loadItemSequences]
  | some v =>
    cases v with
    | arr vs => simpa [loadItemArray] using loadItemSequences_eq_infinite_iff hnested hmeets
    | _ => simp [loadItemArray]

/-- Loading a node of a kind reads the fields in the order of the rules. -/
theorem loadNode_eq_infinite_iff_of_kind {fields : Fields} {k : Kind}
    (hkind : Fields.get? "type" fields = some (.str k.tag)) :
    (loadNode limit depth place (.obj fields)).outcome = .error .infiniteNumber ↔
      FirstBad (FieldRule.Holds nested fields) (FieldRule.MeetsInfinite nested meets fields)
        k.rules := by
  have htext : ∀ name, (textField name place fields).outcome = .error .infiniteNumber ↔
      (FieldRule.text name false).MeetsInfinite nested meets fields :=
    fun _ => iff_of_false textField_ne_infinite id
  have hlanguage : ∀ name,
      (optionalTextField name place fields).outcome = .error .infiniteNumber ↔
        (FieldRule.text name true).MeetsInfinite nested meets fields :=
    fun _ => iff_of_false optionalTextField_ne_infinite id
  have hinteger : ∀ name, (integerField name 1 place fields).outcome = .error .infiniteNumber ↔
      (FieldRule.integer name false).MeetsInfinite nested meets fields :=
    fun _ => integerField_eq_infinite_iff
  have hnumber : ∀ name,
      (optionalIntegerField name 1 place fields).outcome = .error .infiniteNumber ↔
        (FieldRule.integer name true).MeetsInfinite nested meets fields :=
    fun _ => optionalIntegerField_eq_infinite_iff
  have htext' : ∀ name, (∃ s, (textField name place fields).outcome = .ok s) ↔
      (FieldRule.text name false).Holds nested fields := fun _ => exists_textField_iff
  have hchildren : (loadChildren limit depth place fields).outcome = .error .infiniteNumber ↔
      FieldRule.children.MeetsInfinite nested meets fields := loadChildren_eq_infinite_iff hmeets
  have hlabel : (loadLabel limit depth place fields).outcome = .error .infiniteNumber ↔
      FieldRule.label.MeetsInfinite nested meets fields := loadLabel_eq_infinite_iff hmeets
  have hitems : (loadItems limit depth place fields).outcome = .error .infiniteNumber ↔
      FieldRule.items.MeetsInfinite nested meets fields := loadItems_eq_infinite_iff hnested hmeets
  have hinteger' : ∀ name, (∃ n, (integerField name 1 place fields).outcome = .ok n) ↔
      (FieldRule.integer name false).Holds nested fields := fun _ => exists_integerField_iff
  cases k <;>
    simp only [loadNode, hkind, Kind.ofTag?_tag, Traced.outcome_bind_eq_error_iff,
      Traced.outcome_pure, reduceCtorEq, and_false, exists_false, or_false, exists_and_right,
      htext, hlanguage, hinteger, hnumber, htext', hinteger', exists_loadItems_iff hnested,
      exists_loadLabel_iff hnested, hchildren, hlabel, hitems, Kind.rules, firstBad_cons,
      not_firstBad_nil]

/-- A node ends at an infinite number if a field of it does, and the fields before that are
accepted. -/
theorem loadNode_eq_infinite_iff {v : Json} :
    (loadNode limit depth place v).outcome = .error .infiniteNumber ↔
      NodeMeetsInfinite nested meets v := by
  cases v with
  | obj fields =>
    constructor
    · intro h
      cases htype : Fields.get? "type" fields with
      | none => simp [loadNode, htype] at h
      | some t =>
        cases t with
        | str tag =>
          cases hkind : Kind.ofTag? tag with
          | none =>
            simp [loadNode, htype, hkind, Traced.outcome_bind_eq_error_iff, -Traced.outcome_bind]
              at h
          | some k =>
            rw [← Kind.tag_of_ofTag? hkind] at htype
            exact ⟨fields, k, rfl, htype,
              (loadNode_eq_infinite_iff_of_kind hnested hmeets htype).1 h⟩
        | _ => simp [loadNode, htype] at h
    · rintro ⟨_, k, ⟨⟩, hkind, hfirst⟩
      exact (loadNode_eq_infinite_iff_of_kind hnested hmeets hkind).2 hfirst
  | _ => simp [loadNode, NodeMeetsInfinite]

end Sequences

/-- Loading a sequence meets an infinite number exactly where the data says so. -/
theorem loadSequence_eq_infinite_iff {limit : Int} {depth : Nat} {place : Location} {v : Json} :
    (loadSequence limit depth place v).outcome = .error .infiniteNumber ↔
      MeetsInfinite limit depth v := by
  induction depth using depth_induction limit generalizing place v with
  | beyond depth hdepth =>
    rw [meetsInfinite_iff]
    simp only [Int.not_le.2 hdepth, false_and, and_false, exists_false, iff_false]
    cases v <;> simp [loadSequence, hdepth]
  | within depth hdepth ih =>
    have hgood : ∀ where' n, (∃ m, (loadNode limit depth where' n).outcome = .ok m) ↔
        IsNode (Accepts limit (depth + 1)) n :=
      fun _ _ => exists_loadNode_iff fun _ _ => exists_loadSequence_iff
    have hbad : ∀ where' n, (loadNode limit depth where' n).outcome = .error .infiniteNumber ↔
        NodeMeetsInfinite (Accepts limit (depth + 1)) (MeetsInfinite limit (depth + 1)) n :=
      fun _ _ => loadNode_eq_infinite_iff (fun _ _ => exists_loadSequence_iff) fun _ _ => ih
    rw [meetsInfinite_iff]
    cases v with
    | arr vs =>
      rw [loadSequence, if_neg (Int.not_lt.2 hdepth), loadNodes_eq_infinite_iff hgood hbad]
      simp [hdepth]
    | _ => simp [loadSequence]

/-! ## Trees and documents -/

/-- The nodes of a document: those that an object names, and else the data itself. -/
def Json.documentNodes? : Json → Option Json
  | .obj fields => Fields.get? "nodes" fields
  | v => some v

/-- A document ends at an infinite number exactly if its sequence meets one. -/
theorem loadDocument_eq_infinite_iff {limit : Int} {data : Json} :
    (loadDocument limit data).outcome = .error .infiniteNumber ↔
      ∃ v, data.documentNodes? = some v ∧ MeetsInfinite limit 0 v := by
  cases data with
  | obj fields =>
    cases hnodes : Fields.get? "nodes" fields with
    | none => simp [loadDocument, Json.documentNodes?, hnodes]
    | some v =>
      simp [loadDocument, Json.documentNodes?, hnodes, Traced.outcome_bind_eq_error_iff,
        loadSequence_eq_infinite_iff, -Traced.outcome_bind]
  | _ =>
    simp [loadDocument, Json.documentNodes?, load, Traced.outcome_bind_eq_error_iff,
      loadSequence_eq_infinite_iff, -Traced.outcome_bind]

end TicketMarkup
