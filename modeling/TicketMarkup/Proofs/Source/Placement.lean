import TicketMarkup.Proofs.Source.Grammar

/-!
# Data at another place

Data is loaded alike wherever it stands. Under a place some levels down, with a limit that leaves it
as many levels as before, the same nodes are loaded, or the same fault is found, and the records and
the fault are told of the places under that place (`loadSequence_under`). So the index that a node
has among its siblings does not matter to what it is loaded as, and sequences of nodes are loaded
piece by piece (`outcome_loadNodes_append`).
-/

namespace TicketMarkup

/-! ## Telling in other words -/

namespace Traced

variable {ρ σ ε δ α β : Type} {f : ρ → σ} {g : ε → δ}

/-- A step whose records and failure are told in other words. -/
def retell (f : ρ → σ) (g : ε → δ) (x : Traced ρ ε α) : Traced σ δ α :=
  ⟨x.records.map f, x.outcome.mapError g⟩

/-- Faults and records of two steps are retold step by step. -/
theorem retell_bind (x : Traced ρ ε α) (k : α → Traced ρ ε β) :
    (x >>= k).retell f g = x.retell f g >>= fun a => (k a).retell f g := by
  show (andThen x k).retell f g = andThen (x.retell f g) fun a => (k a).retell f g
  unfold andThen retell
  cases x.outcome with
  | error e => rfl
  | ok a => exact congrArg (Traced.mk · _) List.map_append

/-- What succeeds, succeeds as it did before. -/
theorem outcome_retell_eq_ok_iff {x : Traced ρ ε α} {a : α} :
    (x.retell f g).outcome = .ok a ↔ x.outcome = .ok a := by
  unfold retell
  cases x.outcome with
  | error e => exact iff_of_false nofun nofun
  | ok b => exact ⟨fun h => congrArg _ (Except.ok.inj h), fun h => congrArg _ (Except.ok.inj h)⟩

end Traced

/-- A fault of data that is found under a place, some levels down. -/
def TreeFault.under (place : Location) (levels : Nat) : TreeFault → TreeFault
  | notSequence p found => notSequence (place ++ p) found
  | tooDeep limit p => tooDeep (limit + levels) (place ++ p)
  | notItems p found => notItems (place ++ p) found
  | notNode p found => notNode (place ++ p) found
  | untagged p => untagged (place ++ p)
  | notText field p found => notText field (place ++ p) found
  | notInteger field p found => notInteger field (place ++ p) found
  | noNodes => noNodes

/-- A failure on data that is found under a place, some levels down. -/
def LoadFailure.under (place : Location) (levels : Nat) : LoadFailure → LoadFailure
  | malformed fault => malformed (fault.under place levels)
  | infiniteNumber => infiniteNumber
  | exhausted => exhausted

/-- A record of data that is found under a place. -/
def LoadRecord.under (place : Location) (r : LoadRecord) : LoadRecord := ⟨r.tag, place ++ r.place⟩

namespace Loading

variable {α β : Type} (place : Location) (levels : Nat)

/-- A step of loading as it is told of data under a place, some levels down. -/
def under (x : Loading α) : Loading α :=
  x.retell (LoadRecord.under place) (LoadFailure.under place levels)

theorem under_pure (a : α) : under place levels (pure a) = pure a := rfl

/-- A fault is placed under the place by its own place. -/
theorem under_fault (fault : TreeFault) :
    under place levels (Loading.fault fault : Loading α) =
      Loading.fault (fault.under place levels) := rfl

/-- Two steps are placed under a place step by step. -/
theorem under_bind (x : Loading α) (k : α → Loading β) :
    under place levels (x >>= k) = under place levels x >>= fun a => under place levels (k a) :=
  Traced.retell_bind x k

end Loading

open Loading (under under_pure under_fault under_bind)

/-! ## Fields -/

section Fields

variable (place where' : Location) (levels : Nat) (name : String) (fields : Fields)

theorem textField_under :
    textField name (place ++ where') fields =
      under place levels (textField name where' fields) := by
  unfold textField
  split <;> rfl

theorem optionalTextField_under :
    optionalTextField name (place ++ where') fields =
      under place levels (optionalTextField name where' fields) := by
  unfold optionalTextField
  split <;> rfl

theorem integerValue_under (v : Json) :
    integerValue name (place ++ where') v = under place levels (integerValue name where' v) := by
  unfold integerValue
  split
  · rfl
  · split <;> rfl

theorem integerField_under (default : Int) :
    integerField name default (place ++ where') fields =
      under place levels (integerField name default where' fields) := by
  unfold integerField
  split
  · rfl
  · exact integerValue_under place where' levels name _

theorem optionalIntegerField_under (default : Int) :
    optionalIntegerField name default (place ++ where') fields =
      under place levels (optionalIntegerField name default where' fields) := by
  unfold optionalIntegerField
  split
  · rfl
  · rfl
  · exact integerValue_under place where' levels name _

end Fields

/-! ## Nodes -/

section Nodes

variable {place : Location} {levels : Nat} {limit : Int} {depth : Nat}
  (h : ∀ where' v, loadSequence (limit + levels) (depth + levels + 1) (place ++ where') v =
    under place levels (loadSequence limit (depth + 1) where' v))

include h

theorem loadChildren_under (where' : Location) (fields : Fields) :
    loadChildren (limit + levels) (depth + levels) (place ++ where') fields =
      under place levels (loadChildren limit depth where' fields) := by
  rw [loadChildren_eq, loadChildren_eq, List.append_assoc, h]

theorem loadLabel_under (where' : Location) (fields : Fields) :
    loadLabel (limit + levels) (depth + levels) (place ++ where') fields =
      under place levels (loadLabel limit depth where' fields) := by
  induction fields with
  | nil => rfl
  | cons f rest ih =>
    obtain ⟨k, v⟩ := f
    rw [loadLabel, loadLabel]
    split
    · split
      · rfl
      · rw [under_bind, List.append_assoc, h]
        rfl
    · exact ih

theorem loadItemSequences_under (where' : Location) (vs : List Json) (index : Nat) :
    loadItemSequences (limit + levels) (depth + levels) (place ++ where') index vs =
      under place levels (loadItemSequences limit depth where' index vs) := by
  induction vs generalizing index with
  | nil => rfl
  | cons v rest ih =>
    rw [loadItemSequences, loadItemSequences, under_bind, List.append_assoc, h]
    congr
    funext item
    rw [under_bind, ih]
    rfl

theorem loadItems_under (where' : Location) (fields : Fields) :
    loadItems (limit + levels) (depth + levels) (place ++ where') fields =
      under place levels (loadItems limit depth where' fields) := by
  rw [loadItems_eq, loadItems_eq, List.append_assoc]
  generalize (Fields.get? "children" fields).getD (.arr []) = v
  cases v with
  | arr vs => exact loadItemSequences_under h _ vs 0
  | _ => rfl

/-- A node is loaded under a place as it is at the top, with as many levels more in the limit. -/
theorem loadNode_under (where' : Location) (v : Json) :
    loadNode (limit + levels) (depth + levels) (place ++ where') v =
      under place levels (loadNode limit depth where' v) := by
  cases v with
  | obj fields =>
    rw [loadNode, loadNode]
    split
    next tag htag =>
      split
      next => rfl
      all_goals simp only [under_bind, under_pure, textField_under _ _ levels,
        optionalTextField_under _ _ levels, integerField_under _ _ levels,
        optionalIntegerField_under _ _ levels, loadChildren_under h, loadLabel_under h,
        loadItems_under h]
    next => rfl
  | _ => rfl

theorem loadNodes_under (where' : Location) (vs : List Json) (index : Nat) :
    loadNodes (limit + levels) (depth + levels) (place ++ where') index vs =
      under place levels (loadNodes limit depth where' index vs) := by
  induction vs generalizing index with
  | nil => rfl
  | cons v rest ih =>
    rw [loadNodes, loadNodes, under_bind, List.append_assoc, loadNode_under h]
    congr
    funext node
    rw [under_bind, ih]
    rfl

end Nodes

/-- Under a place some levels down, and with a limit that is as many levels deeper, a sequence is
loaded as it is at the top, and told of at the places under that place. -/
theorem loadSequence_under {place : Location} {levels : Nat} {limit : Int} {depth : Nat}
    (where' : Location) (v : Json) :
    loadSequence (limit + levels) (depth + levels) (place ++ where') v =
      under place levels (loadSequence limit depth where' v) := by
  induction depth using depth_induction limit generalizing where' v with
  | beyond depth hdepth =>
    cases v with
    | arr vs =>
      rw [loadSequence, loadSequence, if_pos hdepth, if_pos (by omega)]
      rfl
    | _ => rfl
  | within depth hdepth ih =>
    cases v with
    | arr vs =>
      rw [loadSequence, loadSequence, if_neg (by omega), if_neg (by omega)]
      refine loadNodes_under (fun where' v => ?_) where' vs 0
      rw [← ih, Nat.add_right_comm]
    | _ => rfl

/-! ## Siblings -/

/-- A node is loaded alike at every place. -/
theorem outcome_loadNode_of_place {limit : Int} {depth : Nat} {place : Location} {v : Json}
    {n : Node} (h : (loadNode limit depth place v).outcome = .ok n) (place' : Location) :
    (loadNode limit depth place' v).outcome = .ok n := by
  have hunder : ∀ p, loadNode limit depth p v = under p 0 (loadNode limit depth [] v) := by
    intro p
    have hsequence : ∀ where' w, loadSequence (limit + (0 : Nat)) (depth + 0 + 1) (p ++ where') w =
        under p 0 (loadSequence limit (depth + 1) where' w) := fun where' w =>
      loadSequence_under where' w
    simpa using loadNode_under hsequence [] v
  rw [hunder, Loading.under, Traced.outcome_retell_eq_ok_iff] at h ⊢
  exact h

/-- What is loaded does not depend on where it stands. -/
theorem outcome_loadNodes_of_place {limit : Int} {depth : Nat} {place : Location} {index : Nat}
    {vs : List Json} {nodes : List Node}
    (h : (loadNodes limit depth place index vs).outcome = .ok nodes) (place' : Location)
    (index' : Nat) : (loadNodes limit depth place' index' vs).outcome = .ok nodes := by
  induction vs generalizing index index' nodes with
  | nil => exact h
  | cons v vs ih =>
    obtain ⟨n, rest, hn, hrest, rfl⟩ := outcome_loadNodes_cons.1 h
    exact outcome_loadNodes_cons.2
      ⟨n, rest, outcome_loadNode_of_place hn _, ih hrest (index' + 1), rfl⟩

/-- The nodes of two sequences of siblings are loaded one after the other. -/
theorem outcome_loadNodes_append {limit : Int} {depth : Nat} {place : Location}
    {a b : List Json} {i j : Nat} {nodes more : List Node}
    (ha : (loadNodes limit depth place i a).outcome = .ok nodes)
    (hb : (loadNodes limit depth place j b).outcome = .ok more) :
    (loadNodes limit depth place i (a ++ b)).outcome = .ok (nodes ++ more) := by
  induction a generalizing i nodes with
  | nil =>
    cases ha
    exact outcome_loadNodes_of_place hb place i
  | cons v vs ih =>
    obtain ⟨n, rest, hn, hrest, rfl⟩ := outcome_loadNodes_cons.1 ha
    exact outcome_loadNodes_cons.2 ⟨n, rest ++ more, hn, ih hrest, rfl⟩

end TicketMarkup
