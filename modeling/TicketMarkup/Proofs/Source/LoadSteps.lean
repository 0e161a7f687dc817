import TicketMarkup.Source.Load

/-!
# Steps of loading

What the steps that loading consists of do when they succeed. The reader of a field succeeds on what
the field may hold (`outcome_textField`, `outcome_integerField`); a sequence is loaded node by node
(`outcome_loadNodes_cons`), so that each of its nodes was loaded (`exists_loadNode_of_mem`).
-/

namespace TicketMarkup

@[simp] theorem Loading.outcome_fault {α : Type} (fault : TreeFault) :
    (Loading.fault fault : Loading α).outcome = .error (.malformed fault) := rfl

/-! ## Fields -/

/-- Whether a value given for an integer field stands for an integer; a truth value stands for
none. -/
def Json.StandsFor (v : Json) (n : Int) : Prop := v.type ≠ .bool ∧ v.toInteger = .ok n

/-- A text field that is absent is an empty text. -/
theorem outcome_textField {name : String} {place : Location} {fields : Fields} {s : String} :
    (textField name place fields).outcome = .ok s ↔
      (Fields.get? name fields).getD (.str "") = .str s := by
  unfold textField
  split <;> simp_all

/-- An optional text field that is absent is null, and null is no text. -/
theorem outcome_optionalTextField {name : String} {place : Location} {fields : Fields}
    {s : Option String} :
    (optionalTextField name place fields).outcome = .ok s ↔
      (Fields.get? name fields).getD .null = (s.map Json.str).getD .null := by
  unfold optionalTextField
  split <;> cases s <;> simp_all

/-- What is read as an integer stands for it. -/
theorem outcome_integerValue {name : String} {place : Location} {v : Json} {n : Int} :
    (integerValue name place v).outcome = .ok n ↔ v.StandsFor n := by
  unfold integerValue Json.StandsFor
  split
  · simp [Json.type]
  · have htype : v.type ≠ .bool := by cases v <;> simp_all [Json.type]
    split <;> simp_all

/-- An integer field that is absent has its default. -/
theorem outcome_integerField {name : String} {default : Int} {place : Location} {fields : Fields}
    {n : Int} :
    (integerField name default place fields).outcome = .ok n ↔
      ((Fields.get? name fields).getD (.int default)).StandsFor n := by
  unfold integerField
  split
  next h => simp [h, Json.StandsFor, Json.type, Json.toInteger]
  next v h => rw [outcome_integerValue, h, Option.getD_some]

/-- An integer field that is absent or null has its default. -/
theorem outcome_optionalIntegerField {name : String} {default : Int} {place : Location}
    {fields : Fields} {n : Int} :
    (optionalIntegerField name default place fields).outcome = .ok n ↔
      if (Fields.get? name fields).getD .null = .null then n = default
      else ((Fields.get? name fields).getD .null).StandsFor n := by
  unfold optionalIntegerField
  split
  next h => simp [h, eq_comm]
  next h => simp [h, eq_comm]
  next v hv h =>
    rw [outcome_integerValue, h, Option.getD_some, if_neg hv]

/-! ## Sequences -/

/-- A sequence is loaded from a list, within the limit, node by node. -/
theorem outcome_loadSequence {limit : Int} {depth : Nat} {place : Location} {v : Json}
    {nodes : List Node} :
    (loadSequence limit depth place v).outcome = .ok nodes ↔
      ∃ vs, v = .arr vs ∧ (depth : Int) ≤ limit ∧
        (loadNodes limit depth place 0 vs).outcome = .ok nodes := by
  cases v with
  | arr vs =>
    rw [loadSequence]
    split
    next h => simp [Int.not_le.2 h]
    next h => simp [Int.not_lt.1 h]
  | _ => simp [loadSequence]

/-- The first node is loaded before the others. -/
theorem outcome_loadNodes_cons {limit : Int} {depth : Nat} {place : Location} {index : Nat}
    {v : Json} {vs : List Json} {nodes : List Node} :
    (loadNodes limit depth place index (v :: vs)).outcome = .ok nodes ↔
      ∃ n rest, (loadNode limit depth (place ++ [.item index]) v).outcome = .ok n ∧
        (loadNodes limit depth place (index + 1) vs).outcome = .ok rest ∧ n :: rest = nodes := by
  rw [loadNodes]
  simp only [Traced.outcome_bind_eq_ok_iff, Traced.outcome_pure, Except.ok.injEq, exists_and_left]

/-- The first item is loaded before the others, one level deeper than the list. -/
theorem outcome_loadItemSequences_cons {limit : Int} {depth : Nat} {place : Location}
    {index : Nat} {v : Json} {vs : List Json} {items : List (List Node)} :
    (loadItemSequences limit depth place index (v :: vs)).outcome = .ok items ↔
      ∃ item rest,
        (loadSequence limit (depth + 1) (place ++ [.item index]) v).outcome = .ok item ∧
        (loadItemSequences limit depth place (index + 1) vs).outcome = .ok rest ∧
        item :: rest = items := by
  rw [loadItemSequences]
  simp only [Traced.outcome_bind_eq_ok_iff, Traced.outcome_pure, Except.ok.injEq, exists_and_left]

/-- A link has a label if its children are there and are not null. -/
theorem outcome_loadLabel {limit : Int} {depth : Nat} {place : Location} {fields : Fields}
    {label : Option (List Node)} :
    (loadLabel limit depth place fields).outcome = .ok label ↔
      if (Fields.get? "children" fields).getD .null = .null then label = none
      else ∃ nodes, (loadSequence limit (depth + 1) (place ++ [.children])
        ((Fields.get? "children" fields).getD .null)).outcome = .ok nodes ∧ some nodes = label := by
  induction fields with
  | nil => simp [loadLabel, Fields.get?, eq_comm]
  | cons f rest ih =>
    obtain ⟨k, v⟩ := f
    by_cases hk : k = "children"
    · by_cases hv : v = .null
      · simp [loadLabel, Fields.get?, hk, hv, eq_comm]
      · rw [loadLabel, if_pos hk, if_neg hv, Fields.get?, if_pos hk, Option.getD_some, if_neg hv,
          Traced.outcome_bind_eq_ok_iff]
        simp
    · rw [loadLabel, if_neg hk, ih, Fields.get?, if_neg hk]

/-- Every node of a loaded sequence was loaded from a member of the data. -/
theorem exists_loadNode_of_mem {limit : Int} {depth : Nat} {place : Location} {vs : List Json}
    {nodes : List Node} {index : Nat}
    (h : (loadNodes limit depth place index vs).outcome = .ok nodes) {n : Node} (hn : n ∈ nodes) :
    ∃ where', ∃ v ∈ vs, (loadNode limit depth where' v).outcome = .ok n := by
  induction vs generalizing index nodes with
  | nil =>
    rw [loadNodes, Traced.outcome_pure] at h
    cases h
    cases hn
  | cons v vs ih =>
    obtain ⟨m, rest, hm, hrest, rfl⟩ := outcome_loadNodes_cons.1 h
    rcases List.mem_cons.1 hn with rfl | hn
    · exact ⟨_, v, List.mem_cons_self, hm⟩
    · obtain ⟨where', w, hw, hload⟩ := ih hrest hn
      exact ⟨where', w, List.mem_cons_of_mem _ hw, hload⟩

/-- Every item of a loaded list was loaded from a member of the data, one deeper than the list. -/
theorem exists_loadSequence_of_mem {limit : Int} {depth : Nat} {place : Location}
    {vs : List Json} {items : List (List Node)} {index : Nat}
    (h : (loadItemSequences limit depth place index vs).outcome = .ok items) {item : List Node}
    (hitem : item ∈ items) :
    ∃ where', ∃ v ∈ vs, (loadSequence limit (depth + 1) where' v).outcome = .ok item := by
  induction vs generalizing index items with
  | nil =>
    rw [loadItemSequences, Traced.outcome_pure] at h
    cases h
    cases hitem
  | cons v vs ih =>
    obtain ⟨first, rest, hfirst, hrest, rfl⟩ := outcome_loadItemSequences_cons.1 h
    rcases List.mem_cons.1 hitem with rfl | hitem
    · exact ⟨_, v, List.mem_cons_self, hfirst⟩
    · obtain ⟨where', w, hw, hload⟩ := ih hrest hitem
      exact ⟨where', w, List.mem_cons_of_mem _ hw, hload⟩

end TicketMarkup
