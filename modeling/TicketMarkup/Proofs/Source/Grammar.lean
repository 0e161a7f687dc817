import TicketMarkup.Proofs.Source.LoadSteps

/-!
# The grammar of markup data

Which data is a tree of markup. A sequence of nodes is an array; a node is a string, or an object
with a tag, whose fields follow the rules of its kind (`Kind.rules`). A node of no kind of the
dialect may have any fields. What is nested in a node is one level down, and only so many levels
are there (`IsSequence`). Loading succeeds on exactly these data (`exists_load_iff`).
-/

namespace TicketMarkup

/-! ## Rules -/

/-- Whether fields follow a rule, where a nested sequence has to be one of `nested`. -/
def FieldRule.Holds (nested : Json → Prop) (fields : Fields) : FieldRule → Prop
  | text name nullable => ∀ v, Fields.get? name fields = some v →
      (∃ s, v = .str s) ∨ nullable = true ∧ v = .null
  | integer name nullable => ∀ v, Fields.get? name fields = some v →
      (∃ n, v.StandsFor n) ∨ nullable = true ∧ v = .null
  | children => nested ((Fields.get? "children" fields).getD (.arr []))
  | label => ∀ v, Fields.get? "children" fields = some v → v = .null ∨ nested v
  | items => ∀ v, Fields.get? "children" fields = some v →
      ∃ items, v = .arr items ∧ ∀ item ∈ items, nested item

/-- Whether a value is a node, where a nested sequence has to be one of `nested`. -/
def IsNode (nested : Json → Prop) : Json → Prop
  | .str _ => True
  | .obj fields => ∃ tag, Fields.get? "type" fields = some (.str tag) ∧
      ∀ k, Kind.ofTag? tag = some k → ∀ rule ∈ k.rules, rule.Holds nested fields
  | _ => False

/-- Whether a value is a sequence of nodes with at most so many levels of sequences. -/
def IsSequence : Nat → Json → Prop
  | 0, _ => False
  | levels + 1, v => ∃ nodes, v = .arr nodes ∧ ∀ n ∈ nodes, IsNode (IsSequence levels) n

/-- The levels of sequences that a limit leaves at a depth, which may be below it. -/
def levelsAt (limit : Int) (depth : Nat) : Nat := (limit + 1 - depth).toNat

/-- Whether a value is a sequence of nodes that may stand at a depth. -/
def Accepts (limit : Int) (depth : Nat) : Json → Prop := IsSequence (levelsAt limit depth)

/-- Beyond the limit no level is left. -/
theorem levelsAt_of_lt {limit : Int} {depth : Nat} (h : limit < depth) :
    levelsAt limit depth = 0 := by
  unfold levelsAt
  omega

/-- Within the limit each level takes one of those that are left. -/
theorem levelsAt_of_le {limit : Int} {depth : Nat} (h : (depth : Int) ≤ limit) :
    levelsAt limit depth = levelsAt limit (depth + 1) + 1 := by
  unfold levelsAt
  omega

/-- What holds at every depth beyond a limit, and holds at a depth within the limit if it holds one
deeper, holds at every depth. -/
@[elab_as_elim]
theorem depth_induction (limit : Int) {motive : Nat → Prop}
    (beyond : ∀ depth : Nat, limit < depth → motive depth)
    (within : ∀ depth : Nat, (depth : Int) ≤ limit → motive (depth + 1) → motive depth)
    (depth : Nat) : motive depth := by
  generalize hlevels : levelsAt limit depth = levels
  induction levels generalizing depth with
  | zero =>
    refine beyond depth (Int.not_le.1 fun h => ?_)
    rw [levelsAt_of_le h] at hlevels
    omega
  | succ levels ih =>
    have hdepth : (depth : Int) ≤ limit := Int.not_lt.1 fun h => by
      rw [levelsAt_of_lt h] at hlevels
      omega
    rw [levelsAt_of_le hdepth] at hlevels
    exact within depth hdepth (ih (depth + 1) (by omega))

/-- A sequence that may stand at a depth lies within the limit, and the sequences in its nodes may
stand one deeper. -/
theorem accepts_iff {limit : Int} {depth : Nat} {v : Json} :
    Accepts limit depth v ↔
      ∃ nodes, v = .arr nodes ∧ (depth : Int) ≤ limit ∧
        ∀ n ∈ nodes, IsNode (Accepts limit (depth + 1)) n := by
  unfold Accepts
  by_cases h : limit < depth
  · simp [levelsAt_of_lt h, IsSequence, Int.not_le.2 h]
  · simp [levelsAt_of_le (Int.not_lt.1 h), IsSequence, Int.not_lt.1 h]

/-! ## Loading accepts the grammar -/

section Fields

variable {name : String} {place : Location} {fields : Fields} {nested : Json → Prop}

/-- A text field is read exactly if it follows its rule. -/
theorem exists_textField_iff :
    (∃ s, (textField name place fields).outcome = .ok s) ↔
      (FieldRule.text name false).Holds nested fields := by
  simp only [outcome_textField, FieldRule.Holds]
  cases Fields.get? name fields <;> simp

theorem exists_optionalTextField_iff :
    (∃ s, (optionalTextField name place fields).outcome = .ok s) ↔
      (FieldRule.text name true).Holds nested fields := by
  simp only [outcome_optionalTextField, FieldRule.Holds]
  cases Fields.get? name fields with
  | none => simpa using ⟨none, rfl⟩
  | some v =>
    cases v with
    | null => simpa using ⟨none, rfl⟩
    | str s => simpa using ⟨some s, rfl⟩
    | _ => simp [Option.forall]

theorem exists_integerField_iff {default : Int} :
    (∃ n, (integerField name default place fields).outcome = .ok n) ↔
      (FieldRule.integer name false).Holds nested fields := by
  simp only [outcome_integerField, FieldRule.Holds]
  cases Fields.get? name fields with
  | none => simpa using ⟨default, by simp [Json.type], rfl⟩
  | some v => simp

theorem exists_optionalIntegerField_iff {default : Int} :
    (∃ n, (optionalIntegerField name default place fields).outcome = .ok n) ↔
      (FieldRule.integer name true).Holds nested fields := by
  simp only [outcome_optionalIntegerField, FieldRule.Holds]
  cases Fields.get? name fields with
  | none => simp
  | some v => by_cases h : v = .null <;> simp [h]

end Fields

section Sequences

variable {limit : Int} {depth : Nat} {place : Location}

/-- A sequence is loaded exactly if each of its nodes is. -/
theorem exists_loadNodes_iff {P : Json → Prop} {vs : List Json} {index : Nat}
    (h : ∀ where' v, (∃ n, (loadNode limit depth where' v).outcome = .ok n) ↔ P v) :
    (∃ nodes, (loadNodes limit depth place index vs).outcome = .ok nodes) ↔ ∀ v ∈ vs, P v := by
  induction vs generalizing index with
  | nil => simp [loadNodes]
  | cons v vs ih =>
    rw [List.forall_mem_cons, ← h (place ++ [.item index]) v, ← @ih (index + 1)]
    simp only [outcome_loadNodes_cons]
    constructor
    · rintro ⟨-, n, rest, hn, hrest, -⟩
      exact ⟨⟨n, hn⟩, rest, hrest⟩
    · rintro ⟨⟨n, hn⟩, rest, hrest⟩
      exact ⟨_, n, rest, hn, hrest, rfl⟩

/-- Items are loaded exactly if each of them is. -/
theorem exists_loadItemSequences_iff {nested : Json → Prop} {vs : List Json} {index : Nat}
    (h : ∀ where' v,
      (∃ nodes, (loadSequence limit (depth + 1) where' v).outcome = .ok nodes) ↔ nested v) :
    (∃ items, (loadItemSequences limit depth place index vs).outcome = .ok items) ↔
      ∀ v ∈ vs, nested v := by
  induction vs generalizing index with
  | nil => simp [loadItemSequences]
  | cons v vs ih =>
    rw [List.forall_mem_cons, ← h (place ++ [.item index]) v, ← @ih (index + 1)]
    simp only [outcome_loadItemSequences_cons]
    constructor
    · rintro ⟨-, item, rest, hitem, hrest, -⟩
      exact ⟨⟨item, hitem⟩, rest, hrest⟩
    · rintro ⟨⟨item, hitem⟩, rest, hrest⟩
      exact ⟨_, item, rest, hitem, hrest, rfl⟩

variable {fields : Fields} {nested : Json → Prop}
  (h : ∀ where' v,
    (∃ nodes, (loadSequence limit (depth + 1) where' v).outcome = .ok nodes) ↔ nested v)

include h

theorem exists_loadChildren_iff :
    (∃ nodes, (loadChildren limit depth place fields).outcome = .ok nodes) ↔
      FieldRule.children.Holds nested fields := by
  rw [loadChildren_eq, h, FieldRule.Holds]

theorem exists_loadLabel_iff :
    (∃ label, (loadLabel limit depth place fields).outcome = .ok label) ↔
      FieldRule.label.Holds nested fields := by
  simp only [outcome_loadLabel, FieldRule.Holds]
  cases Fields.get? "children" fields with
  | none => simp
  | some v =>
    by_cases hv : v = .null
    · simp [hv]
    · simp only [Option.getD_some, Option.some.injEq, forall_eq', hv, false_or,
        ← h (place ++ [.children]) v]
      constructor
      · rintro ⟨-, nodes, hnodes, -⟩
        exact ⟨nodes, hnodes⟩
      · rintro ⟨nodes, hnodes⟩
        exact ⟨_, nodes, hnodes, rfl⟩

theorem exists_loadItems_iff :
    (∃ items, (loadItems limit depth place fields).outcome = .ok items) ↔
      FieldRule.items.Holds nested fields := by
  rw [loadItems_eq]
  simp only [FieldRule.Holds]
  cases Fields.get? "children" fields with
  | none => simp [loadItemArray, loadItemSequences]
  | some v =>
    cases v with
    | arr vs => simpa [loadItemArray] using exists_loadItemSequences_iff h
    | _ => simp [loadItemArray]

/-- A node of a kind is loaded exactly if its fields follow the rules of the kind. -/
theorem exists_loadNode_of_kind_iff {k : Kind}
    (hkind : Fields.get? "type" fields = some (.str k.tag)) :
    (∃ n, (loadNode limit depth place (.obj fields)).outcome = .ok n) ↔
      ∀ rule ∈ k.rules, rule.Holds nested fields := by
  have htext : ∀ name, (∃ s, (textField name place fields).outcome = .ok s) ↔
      (FieldRule.text name false).Holds nested fields := fun _ => exists_textField_iff
  have hlanguage : ∀ name, (∃ s, (optionalTextField name place fields).outcome = .ok s) ↔
      (FieldRule.text name true).Holds nested fields := fun _ => exists_optionalTextField_iff
  have hinteger : ∀ name, (∃ n, (integerField name 1 place fields).outcome = .ok n) ↔
      (FieldRule.integer name false).Holds nested fields := fun _ => exists_integerField_iff
  have hnumber : ∀ name, (∃ n, (optionalIntegerField name 1 place fields).outcome = .ok n) ↔
      (FieldRule.integer name true).Holds nested fields := fun _ => exists_optionalIntegerField_iff
  cases k <;>
    simp only [loadNode, hkind, Kind.ofTag?_tag, Traced.exists_outcome_bind_iff,
      Traced.outcome_pure, Except.ok.injEq, exists_eq', and_true, exists_and_right, htext,
      hlanguage, hinteger, hnumber, exists_loadChildren_iff h, exists_loadLabel_iff h,
      exists_loadItems_iff h, Kind.rules, List.forall_mem_cons, List.not_mem_nil, false_imp_iff,
      implies_true]

/-- A value is loaded as a node exactly if it is one. -/
theorem exists_loadNode_iff {v : Json} :
    (∃ n, (loadNode limit depth place v).outcome = .ok n) ↔ IsNode nested v := by
  cases v with
  | obj fields =>
    cases htype : Fields.get? "type" fields with
    | none => simp [loadNode, IsNode, htype]
    | some t =>
      cases t with
      | str tag =>
        cases hkind : Kind.ofTag? tag with
        | none =>
          simp [loadNode, IsNode, htype, hkind, Traced.exists_outcome_bind_iff,
            -Traced.outcome_bind]
        | some k =>
          rw [exists_loadNode_of_kind_iff h (htype.trans (by rw [Kind.tag_of_ofTag? hkind]))]
          simp [IsNode, htype, hkind]
      | _ => simp [loadNode, IsNode, htype]
  | _ => simp [loadNode, IsNode]

end Sequences

/-- A value is loaded as a sequence exactly if it is one that may stand at the depth. -/
theorem exists_loadSequence_iff {limit : Int} {depth : Nat} {place : Location} {v : Json} :
    (∃ nodes, (loadSequence limit depth place v).outcome = .ok nodes) ↔
      Accepts limit depth v := by
  induction depth using depth_induction limit generalizing place v with
  | beyond depth hdepth => simp [outcome_loadSequence, accepts_iff, Int.not_le.2 hdepth]
  | within depth hdepth ih =>
    have hnode : ∀ where' n, (∃ m, (loadNode limit depth where' n).outcome = .ok m) ↔
        IsNode (Accepts limit (depth + 1)) n :=
      fun _ _ => exists_loadNode_iff fun _ _ => ih
    rw [accepts_iff]
    simp only [outcome_loadSequence, hdepth, true_and]
    constructor
    · rintro ⟨nodes, vs, rfl, hvs⟩
      exact ⟨vs, rfl, (exists_loadNodes_iff hnode).1 ⟨nodes, hvs⟩⟩
    · rintro ⟨vs, rfl, hvs⟩
      obtain ⟨nodes, hnodes⟩ := (exists_loadNodes_iff hnode).2 hvs
      exact ⟨nodes, vs, rfl, hnodes⟩

/-- Data is loaded exactly if it follows the grammar: a sequence at a depth is an array within the
limit, of nodes whose own sequences stand one deeper. -/
theorem exists_load_iff (limit : Int) :
    (∀ depth v, Accepts limit depth v ↔
      ∃ nodes, v = .arr nodes ∧ (depth : Int) ≤ limit ∧
        ∀ n ∈ nodes, IsNode (Accepts limit (depth + 1)) n) ∧
    ∀ data, (∃ nodes, (load limit data).outcome = .ok nodes) ↔ Accepts limit 0 data :=
  ⟨fun _ _ => accepts_iff, fun _ => exists_loadSequence_iff⟩

end TicketMarkup
