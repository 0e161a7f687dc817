import TicketMarkup.Proofs.Source.Grammar

/-!
# Records of loading

Loading leaves one record for every node of an unknown kind, in the order of the document
(`records_loadSequence`). What stands in the fields of such a node is not looked at, and no other
step leaves a record.
-/

namespace TicketMarkup

/-! ## Nodes of unknown kinds -/

mutual

/-- The tags of the nodes of unknown kinds in a node, in order. The fields of such a node hold no
nodes. -/
def Node.unknownTags : Node → List String
  | .list _ items => itemUnknownTags items
  | .quote children => unknownTags children
  | .styled _ children => unknownTags children
  | .link _ label _ => labelUnknownTags label
  | .unknown tag _ => [tag]
  | _ => []

/-- The tags of the nodes of unknown kinds in nodes, in order. -/
def unknownTags : List Node → List String
  | [] => []
  | node :: rest => node.unknownTags ++ unknownTags rest

/-- The tags of the nodes of unknown kinds in the label of a link. -/
def labelUnknownTags : Option (List Node) → List String
  | none => []
  | some nodes => unknownTags nodes

/-- The tags of the nodes of unknown kinds in the items of a list. -/
def itemUnknownTags : List (List Node) → List String
  | [] => []
  | item :: rest => unknownTags item ++ itemUnknownTags rest

end

/-! ## Steps and their records -/

section Steps

variable {α β : Type} {tags : α → List String} {tags' : β → List String} {x : Loading α}
  {k : α → Loading β}

/-- Whether a step that succeeds leaves records of the tags that belong to its result. -/
def Records (tags : α → List String) (x : Loading α) : Prop :=
  ∀ a, x.outcome = .ok a → x.records.map LoadRecord.tag = tags a

/-- What makes no unknown nodes may leave no records. -/
theorem records_pure {a : α} (h : tags a = []) : Records tags (pure a) := by
  rintro _ ⟨⟩
  exact h.symm

theorem records_fault (fault : TreeFault) : Records tags (Loading.fault fault) :=
  fun _ h => nomatch h

/-- The records of two steps are those of the first and then those of the second. -/
theorem Records.bind {rest : α → β → List String} (hx : Records tags x)
    (hk : ∀ a, Records (rest a) (k a))
    (h : ∀ a b, (k a).outcome = .ok b → tags' b = tags a ++ rest a b) :
    Records tags' (x >>= k) := by
  intro b hb
  obtain ⟨a, ha, hkb⟩ := Traced.outcome_bind_eq_ok_iff.1 hb
  rw [Traced.records_bind_of_ok ha, List.map_append, hx a ha, hk a b hkb, h a b hkb]

/-- A step without records may come first. -/
theorem Records.skip (hx : Records (fun _ => []) x) (hk : ∀ a, Records tags' (k a)) :
    Records tags' (x >>= k) :=
  hx.bind hk fun _ _ _ => rfl

/-- Steps without records may follow. -/
theorem Records.finish (hx : Records tags x) (hk : ∀ a, Records (fun _ => []) (k a))
    (h : ∀ a b, (k a).outcome = .ok b → tags' b = tags a) : Records tags' (x >>= k) :=
  hx.bind hk fun a b hb => by rw [h a b hb, List.append_nil]

/-- Wrapping what was loaded leaves the records as they are. -/
theorem Records.map {f : α → β} (hx : Records tags x) (h : ∀ a, tags' (f a) = tags a) :
    Records tags' (x >>= fun a => pure (f a)) :=
  hx.finish (fun _ => records_pure rfl) fun a b hb => by
    cases hb
    exact h a

/-- A member is told of before those that follow it. -/
theorem Records.cons {tags' : List α → List String} {xs : Loading (List α)} (hx : Records tags x)
    (hxs : Records tags' xs) (h : ∀ a as, tags' (a :: as) = tags a ++ tags' as) :
    Records tags' (do
      let a ← x
      let as ← xs
      return a :: as) := by
  intro b hb
  obtain ⟨a, ha, hb⟩ := Traced.outcome_bind_eq_ok_iff.1 hb
  obtain ⟨as, has, ⟨⟩⟩ := Traced.outcome_bind_eq_ok_iff.1 hb
  rw [Traced.records_bind_of_ok ha, Traced.records_bind_of_ok has, Traced.records_pure,
    List.append_nil, List.map_append, hx a ha, hxs as has, h]

end Steps

/-! ## Fields -/

section Fields

variable (name : String) (place : Location) (fields : Fields)

theorem records_textField : Records (fun _ => []) (textField name place fields) := by
  unfold textField
  split
  · exact records_pure rfl
  · exact records_pure rfl
  · exact records_fault _

theorem records_optionalTextField :
    Records (fun _ => []) (optionalTextField name place fields) := by
  unfold optionalTextField
  split
  · exact records_pure rfl
  · exact records_pure rfl
  · exact records_pure rfl
  · exact records_fault _

theorem records_integerValue (v : Json) : Records (fun _ => []) (integerValue name place v) := by
  unfold integerValue
  split
  · exact records_fault _
  · split
    · exact records_pure rfl
    · exact records_fault _
    · exact fun _ h => nomatch h

theorem records_integerField (default : Int) :
    Records (fun _ => []) (integerField name default place fields) := by
  unfold integerField
  split
  · exact records_pure rfl
  · exact records_integerValue name place _

theorem records_optionalIntegerField (default : Int) :
    Records (fun _ => []) (optionalIntegerField name default place fields) := by
  unfold optionalIntegerField
  split
  · exact records_pure rfl
  · exact records_pure rfl
  · exact records_integerValue name place _

end Fields

/-! ## Nodes -/

section Nodes

variable {limit : Int} {depth : Nat}
  (h : ∀ place v, Records unknownTags (loadSequence limit (depth + 1) place v))

include h

theorem records_loadChildren (place : Location) (fields : Fields) :
    Records unknownTags (loadChildren limit depth place fields) := by
  rw [loadChildren_eq]
  exact h _ _

theorem records_loadLabel (place : Location) (fields : Fields) :
    Records labelUnknownTags (loadLabel limit depth place fields) := by
  induction fields with
  | nil => exact records_pure rfl
  | cons f rest ih =>
    obtain ⟨k, v⟩ := f
    rw [loadLabel]
    split
    · split
      · exact records_pure rfl
      · exact (h _ _).map fun _ => rfl
    · exact ih

theorem records_loadItemSequences (place : Location) (index : Nat) (vs : List Json) :
    Records itemUnknownTags (loadItemSequences limit depth place index vs) := by
  induction vs generalizing index with
  | nil => exact records_pure rfl
  | cons v vs ih =>
    exact (h _ v).cons (ih (index + 1)) fun _ _ => rfl

theorem records_loadItems (place : Location) (fields : Fields) :
    Records itemUnknownTags (loadItems limit depth place fields) := by
  rw [loadItems_eq]
  cases (Fields.get? "children" fields).getD (.arr []) with
  | arr vs => exact records_loadItemSequences h _ _ vs
  | _ => exact records_fault _

/-- A node of a kind leaves the records of the sequences in it. -/
theorem records_loadNode_of_kind (place : Location) {fields : Fields} {kind : Kind}
    (hkind : Fields.get? "type" fields = some (.str kind.tag)) :
    Records Node.unknownTags (loadNode limit depth place (.obj fields)) := by
  have htext := fun name => records_textField name place fields
  cases kind <;> simp only [loadNode, hkind, Kind.ofTag?_tag]
  case bulletList => exact (records_loadItems h place fields).map fun _ => rfl
  case numberedList =>
    refine (records_loadItems h place fields).finish
      (fun _ => (records_optionalIntegerField _ _ _ _).map fun _ => rfl) fun items n hn => ?_
    obtain ⟨first, -, hn⟩ := Traced.outcome_bind_eq_ok_iff.1 hn
    cases hn
    rfl
  case quote | bold | italic | strike =>
    exact (records_loadChildren h place fields).map fun _ => rfl
  case link =>
    refine (records_loadLabel h place fields).finish
      (fun _ => (htext "url").skip fun _ => (htext "text").map fun _ => rfl) fun label n hn => ?_
    obtain ⟨url, -, hn⟩ := Traced.outcome_bind_eq_ok_iff.1 hn
    obtain ⟨text, -, hn⟩ := Traced.outcome_bind_eq_ok_iff.1 hn
    cases hn
    rfl
  case heading =>
    exact (records_integerField _ _ _ _).skip fun _ => (htext "text").map fun _ => rfl
  case preformatted =>
    exact (htext "text").skip fun _ => (records_optionalTextField _ _ _).map fun _ => rfl
  case code | comment | ticket | mention | commit | attachment | text | image =>
    exact (htext _).map fun _ => rfl
  case rule | lineBreak | paragraphBreak => exact records_pure rfl

/-- Loading a node leaves a record of each unknown node in it, in document order. -/
theorem records_loadNode (place : Location) (v : Json) :
    Records Node.unknownTags (loadNode limit depth place v) := by
  cases v with
  | str s => exact records_pure rfl
  | obj fields =>
    cases htype : Fields.get? "type" fields with
    | none =>
      simp only [loadNode, htype]
      exact records_fault _
    | some t =>
      cases t with
      | str tag =>
        cases hkind : Kind.ofTag? tag with
        | none =>
          simp only [loadNode, htype, hkind]
          rintro _ ⟨⟩
          rfl
        | some kind =>
          rw [← Kind.tag_of_ofTag? hkind] at htype
          exact records_loadNode_of_kind h place htype
      | _ =>
        simp only [loadNode, htype]
        exact records_fault _
  | _ => exact records_fault _

theorem records_loadNodes (place : Location) (index : Nat) (vs : List Json) :
    Records unknownTags (loadNodes limit depth place index vs) := by
  induction vs generalizing index with
  | nil => exact records_pure rfl
  | cons v vs ih =>
    exact (records_loadNode h _ v).cons (ih (index + 1)) fun _ _ => rfl

end Nodes

/-- A sequence that is loaded leaves the records of the nodes of unknown kinds in it, each one once
and in order. -/
theorem records_loadSequence (limit : Int) (depth : Nat) (place : Location) (v : Json) :
    Records unknownTags (loadSequence limit depth place v) := by
  induction depth using depth_induction limit generalizing place v with
  | beyond depth hdepth =>
    intro nodes hnodes
    obtain ⟨-, -, hlimit, -⟩ := outcome_loadSequence.1 hnodes
    omega
  | within depth hdepth ih =>
    cases v with
    | arr vs =>
      rw [loadSequence, if_neg (by omega)]
      exact records_loadNodes ih place 0 vs
    | _ => exact records_fault _

end TicketMarkup
