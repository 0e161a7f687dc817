import TicketMarkup.Proofs.Source.Placement
import TicketMarkup.Proofs.Source.Tickets
import TicketMarkup.Proofs.Source.Wording

/-!
# Data at any place and under any limit

What data is loaded as does not depend on where it stands, but for the levels that the limit leaves
below it. At a depth, it is loaded as it is at the top under a limit that is as much lower; and
where it is at fault, the two messages differ in the beginning of the place, and in the limit if the
data is nested too deep (`ToldAlike`). What is loaded under a limit is loaded alike under every
larger one (`loadSequence_anywhere`).
-/

namespace TicketMarkup

/-! ## A larger limit -/

section Larger

variable {limit limit' : Int} {depth : Nat} {place : Location}
  (h : ∀ {where' v nodes}, (loadSequence limit (depth + 1) where' v).outcome = .ok nodes →
    (loadSequence limit' (depth + 1) where' v).outcome = .ok nodes)

include h

theorem loadChildren_of_larger {fields : Fields} {nodes : List Node}
    (hload : (loadChildren limit depth place fields).outcome = .ok nodes) :
    (loadChildren limit' depth place fields).outcome = .ok nodes := by
  rw [loadChildren_eq] at hload ⊢
  exact h hload

theorem loadLabel_of_larger {fields : Fields} {label : Option (List Node)}
    (hload : (loadLabel limit depth place fields).outcome = .ok label) :
    (loadLabel limit' depth place fields).outcome = .ok label := by
  rw [outcome_loadLabel] at hload ⊢
  split
  next hnull => rwa [if_pos hnull] at hload
  next hnull =>
    rw [if_neg hnull] at hload
    obtain ⟨nodes, hnodes, hlabel⟩ := hload
    exact ⟨nodes, h hnodes, hlabel⟩

theorem loadItemSequences_of_larger {vs : List Json} {index : Nat} {items : List (List Node)}
    (hload : (loadItemSequences limit depth place index vs).outcome = .ok items) :
    (loadItemSequences limit' depth place index vs).outcome = .ok items := by
  induction vs generalizing index items with
  | nil => exact hload
  | cons v vs ih =>
    obtain ⟨item, rest, hitem, hrest, rfl⟩ := outcome_loadItemSequences_cons.1 hload
    exact outcome_loadItemSequences_cons.2 ⟨item, rest, h hitem, ih hrest, rfl⟩

theorem loadItems_of_larger {fields : Fields} {items : List (List Node)}
    (hload : (loadItems limit depth place fields).outcome = .ok items) :
    (loadItems limit' depth place fields).outcome = .ok items := by
  rw [loadItems_eq] at hload ⊢
  generalize (Fields.get? "children" fields).getD (.arr []) = v at hload ⊢
  cases v with
  | arr vs => exact loadItemSequences_of_larger h hload
  | _ => exact hload

/-- The limit matters only to the sequences in a node. -/
theorem loadNode_of_larger_of_kind {fields : Fields} {k : Kind}
    (hkind : Fields.get? "type" fields = some (.str k.tag)) {n : Node}
    (hload : (loadNode limit depth place (.obj fields)).outcome = .ok n) :
    (loadNode limit' depth place (.obj fields)).outcome = .ok n := by
  cases k <;> simp only [loadNode, hkind, Kind.ofTag?_tag, Traced.outcome_bind_eq_ok_iff]
    at hload ⊢
  case bulletList | numberedList =>
    obtain ⟨items, hitems, hrest⟩ := hload
    exact ⟨items, loadItems_of_larger h hitems, hrest⟩
  case quote | bold | italic | strike =>
    obtain ⟨children, hchildren, hrest⟩ := hload
    exact ⟨children, loadChildren_of_larger h hchildren, hrest⟩
  case link =>
    obtain ⟨label, hlabel, hrest⟩ := hload
    exact ⟨label, loadLabel_of_larger h hlabel, hrest⟩
  all_goals exact hload

/-- A node that loads within a limit loads alike within a larger one. -/
theorem loadNode_of_larger {v : Json} {n : Node}
    (hload : (loadNode limit depth place v).outcome = .ok n) :
    (loadNode limit' depth place v).outcome = .ok n := by
  cases v with
  | obj fields =>
    cases hkind : Fields.kind? fields with
    | some k => exact loadNode_of_larger_of_kind h (Fields.get?_type_of_kind? hkind) hload
    | none =>
      -- No sequence is read from a node without a known kind.
      unfold Fields.kind? at hkind
      rw [loadNode] at hload ⊢
      split at hload
      next tag htag =>
        simp only [htag] at hkind ⊢
        simp only [hkind] at hload ⊢
        exact hload
      next => cases hload
  | _ => exact hload

theorem loadNodes_of_larger {vs : List Json} {index : Nat} {nodes : List Node}
    (hload : (loadNodes limit depth place index vs).outcome = .ok nodes) :
    (loadNodes limit' depth place index vs).outcome = .ok nodes := by
  induction vs generalizing index nodes with
  | nil => exact hload
  | cons v vs ih =>
    obtain ⟨n, rest, hn, hrest, rfl⟩ := outcome_loadNodes_cons.1 hload
    exact outcome_loadNodes_cons.2 ⟨n, rest, loadNode_of_larger h hn, ih hrest, rfl⟩

end Larger

/-- What is loaded under a limit is loaded alike under a larger one. -/
theorem loadSequence_of_larger {limit limit' : Int} (hle : limit ≤ limit') {depth : Nat}
    {place : Location} {v : Json} {nodes : List Node}
    (hload : (loadSequence limit depth place v).outcome = .ok nodes) :
    (loadSequence limit' depth place v).outcome = .ok nodes := by
  induction depth using depth_induction limit generalizing place v nodes with
  | beyond depth hdepth =>
    obtain ⟨-, -, hwithin, -⟩ := outcome_loadSequence.1 hload
    omega
  | within depth hdepth ih =>
    obtain ⟨vs, rfl, -, hvs⟩ := outcome_loadSequence.1 hload
    exact outcome_loadSequence.2 ⟨vs, rfl, by omega, loadNodes_of_larger ih hvs⟩

/-! ## Told alike -/

/-- Whether two failures are of one kind and are told in the same words, but for the beginning of
the place, a dollar sign in the first and `root` in the second, and for the limit in the message of
what is nested too deep, which has some more levels in the second. -/
inductive ToldAlike (root : String) (levels : Nat) : LoadFailure → LoadFailure → Prop where
  /-- A failure that names no place. -/
  | unplaced {failure : LoadFailure}
    (h : ∀ fault, failure = .malformed fault → fault.place? = none) :
    ToldAlike root levels failure failure
  | tooDeep {fault fault' : TreeFault} (limit : Int) (steps : String)
    (h : fault.message = "Tree nested deeper than " ++ Numeral.text limit ++ " at $" ++ steps)
    (h' : fault'.message =
      "Tree nested deeper than " ++ Numeral.text (limit + levels) ++ " at " ++ root ++ steps) :
    ToldAlike root levels (.malformed fault) (.malformed fault')
  | malformed {fault fault' : TreeFault} (opening rest : String)
    (h : fault.message = opening ++ "$" ++ rest)
    (h' : fault'.message = opening ++ root ++ rest) :
    ToldAlike root levels (.malformed fault) (.malformed fault')

section Told

variable {place : Location} {levels : Nat} {fault : TreeFault}

/-- A fault under a place is at its own place below that one. -/
theorem place?_under (fault : TreeFault) :
    (fault.under place levels).place? = fault.place?.map (place ++ ·) := by
  cases fault <;> rfl

/-- Under a place, a fault is told of in the same words behind it. -/
theorem closing_under (fault : TreeFault) : (fault.under place levels).closing = fault.closing := by
  cases fault <;> rfl

/-- Before the place, only the limit is told of differently. -/
theorem opening_under (h : ∀ limit where', fault ≠ .tooDeep limit where') :
    (fault.under place levels).opening = fault.opening := by
  cases fault with
  | tooDeep limit where' => exact absurd rfl (h limit where')
  | _ => rfl

/-- A failure is told of under a place in the words that it is told of in at the top. -/
theorem toldAlike_under (place : Location) (levels : Nat) (failure : LoadFailure) :
    ToldAlike place.text levels failure (failure.under place levels) := by
  rcases failure with fault | - | -
  case infiniteNumber => exact .unplaced nofun
  case exhausted => exact .unplaced nofun
  cases hplace : fault.place? with
  | none =>
    have hsame : fault.under place levels = fault := by cases fault <;> first | rfl | cases hplace
    rw [LoadFailure.under, hsame]
    refine .unplaced ?_
    rintro _ ⟨⟩
    exact hplace
  | some where' =>
    by_cases hdeep : ∃ limit p, fault = .tooDeep limit p
    · obtain ⟨limit, p, rfl⟩ := hdeep
      refine .tooDeep limit (Location.steps p) ?_ ?_
      · have hroot : " at " ++ "$" = " at $" := rfl
        rw [TreeFault.message_tooDeep, Location.text, ← hroot]
        simp only [String.append_assoc]
      · rw [TreeFault.under, TreeFault.message_tooDeep, Location.text_append]
        simp only [String.append_assoc]
    · have hunder : (fault.under place levels).place? = some (place ++ where') := by
        rw [place?_under, hplace, Option.map_some]
      refine .malformed fault.opening (Location.steps where' ++ fault.closing) ?_ ?_
      · rw [TreeFault.message_of_place? hplace, Location.text]
        simp only [String.append_assoc]
      · rw [TreeFault.message_of_place? hunder, Location.text_append, closing_under,
          opening_under fun limit p h => hdeep ⟨limit, p, h⟩]
        simp only [String.append_assoc]

end Told

/-! ## Anywhere -/

/-- At a depth, data is loaded as it is at the top under a limit that is as much lower. -/
theorem loadSequence_eq_under (limit : Int) (depth : Nat) (place : Location) (v : Json) :
    loadSequence limit depth place v =
      Loading.under place depth (loadSequence (limit - depth) 0 [] v) := by
  have h : loadSequence (limit - depth + depth) (0 + depth) (place ++ []) v =
      Loading.under place depth (loadSequence (limit - depth) 0 [] v) := loadSequence_under [] v
  rwa [Int.sub_add_cancel, Nat.zero_add, List.append_nil] at h

/-- A sequence anywhere is loaded as it is at the root, within the levels that are left. -/
theorem outcome_loadSequence_at (limit : Int) (depth : Nat) (place : Location) (v : Json) :
    (loadSequence limit depth place v).outcome =
      (loadSequence (limit - depth) 0 [] v).outcome.mapError (LoadFailure.under place depth) :=
  congrArg Traced.outcome (loadSequence_eq_under limit depth place v)

/-- A sequence loads anywhere exactly if it loads at the root within the levels that are left. -/
theorem outcome_loadSequence_eq_ok_iff {limit : Int} {depth : Nat} {place : Location} {v : Json}
    {nodes : List Node} :
    (loadSequence limit depth place v).outcome = .ok nodes ↔
      (loadSequence (limit - depth) 0 [] v).outcome = .ok nodes := by
  rw [loadSequence_eq_under, Loading.under, Traced.outcome_retell_eq_ok_iff]

/-- A sequence is loaded alike at every place. -/
theorem outcome_loadSequence_of_place {limit : Int} {depth : Nat} {place : Location} {v : Json}
    {nodes : List Node} (h : (loadSequence limit depth place v).outcome = .ok nodes)
    (place' : Location) : (loadSequence limit depth place' v).outcome = .ok nodes :=
  outcome_loadSequence_eq_ok_iff.2 (outcome_loadSequence_eq_ok_iff.1 h)

/-- The nodes that a document names are loaded as a sequence of nodes is. -/
theorem outcome_loadDocument_obj {fields : Fields} {v : Json}
    (h : Fields.get? "nodes" fields = some v) (limit : Int) :
    (loadDocument limit (.obj fields)).outcome =
      ((load limit v).outcome.mapError (LoadFailure.under [.nodes] 0)).map
        fun nodes => ⟨nodes, idField "ticket" fields⟩ := by
  have hnodes := outcome_loadSequence_at limit 0 [.nodes] v
  rw [Int.natCast_zero, Int.sub_zero] at hnodes
  simp only [loadDocument, h]
  rw [Traced.outcome_bind, hnodes, load]
  cases (loadSequence limit 0 [] v).outcome <;> rfl

/-- Where data stands does not matter to what it is loaded as. At any depth and place, it is loaded
as the nodes that it is loaded as at the top under a limit that is as much lower; and where it fails
there, it fails at the depth, told alike but for the place and the limit. So the nodes of a document
are loaded as the same sequence alone. What is loaded under a limit is loaded as the same nodes
under every larger one. -/
theorem loadSequence_anywhere :
    (∀ (limit : Int) (depth : Nat) (place : Location) (v : Json),
      (∀ nodes, (loadSequence limit depth place v).outcome = .ok nodes ↔
        (loadSequence (limit - depth) 0 [] v).outcome = .ok nodes) ∧
      ∀ failure, (loadSequence (limit - depth) 0 [] v).outcome = .error failure →
        (loadSequence limit depth place v).outcome = .error (failure.under place depth) ∧
          ToldAlike place.text depth failure (failure.under place depth)) ∧
    (∀ limit fields v, Fields.get? "nodes" fields = some v →
      (∀ nodes, (load limit v).outcome = .ok nodes →
        (loadDocument limit (.obj fields)).outcome = .ok ⟨nodes, idField "ticket" fields⟩) ∧
      ∀ failure, (load limit v).outcome = .error failure →
        (loadDocument limit (.obj fields)).outcome = .error (failure.under [.nodes] 0) ∧
          ToldAlike "$.nodes" 0 failure (failure.under [.nodes] 0)) ∧
    ∀ limit limit' depth place v nodes, limit ≤ limit' →
      (loadSequence limit depth place v).outcome = .ok nodes →
        (loadSequence limit' depth place v).outcome = .ok nodes := by
  refine ⟨fun limit depth place v =>
      ⟨fun nodes => outcome_loadSequence_eq_ok_iff, fun failure h => ⟨?_, ?_⟩⟩,
    fun limit fields v hv => ⟨fun nodes h => ?_, fun failure h => ⟨?_, ?_⟩⟩,
    fun limit limit' depth place v nodes hle hload => loadSequence_of_larger hle hload⟩
  · rw [outcome_loadSequence_at, h]
    rfl
  · exact toldAlike_under place depth failure
  · rw [outcome_loadDocument_obj hv, h]
    rfl
  · rw [outcome_loadDocument_obj hv, h]
    rfl
  · exact toldAlike_under [.nodes] 0 failure

/-- The data of a quote with a text. -/
def quoteData : Json := .obj [("type", .str Kind.quote.tag), ("children", .arr [.str "a"])]

/-- Two levels down, a quote is loaded under a limit of three, and found too deep under a limit of
two; among the nodes of a document, it is loaded under a limit of one, and found too deep under a
limit of zero. -/
theorem loadSequence_anywhere_quote :
    ((loadSequence 3 2 [.item 4, .children] (.arr [quoteData])).outcome = .ok [.quote [.str "a"]] ∧
      (loadSequence (2 - 2) 0 [] (.arr [quoteData])).outcome =
        .error (.malformed (.tooDeep 0 [.item 0, .children])) ∧
      (loadSequence 2 2 [.item 4, .children] (.arr [quoteData])).outcome =
        .error (.malformed (.tooDeep 2 [.item 4, .children, .item 0, .children]))) ∧
    (Fields.get? "nodes" [("nodes", .arr [quoteData])] = some (.arr [quoteData]) ∧
      (loadDocument 1 (.obj [("nodes", .arr [quoteData])])).outcome =
        .ok ⟨[.quote [.str "a"]], .null⟩ ∧
      (loadDocument 0 (.obj [("nodes", .arr [quoteData])])).outcome =
        .error (.malformed (.tooDeep 0 [.nodes, .item 0, .children]))) ∧
    1 ≤ defaultDepthLimit ∧
      (loadSequence defaultDepthLimit 0 [] (.arr [quoteData])).outcome =
        .ok [.quote [.str "a"]] := by
  have hload : (load 1 (.arr [quoteData])).outcome = .ok [.quote [.str "a"]] := rfl
  have hdeep : (load 0 (.arr [quoteData])).outcome =
      .error (.malformed (.tooDeep 0 [.item 0, .children])) := rfl
  obtain ⟨hplaces, hdocuments, hlarger⟩ := loadSequence_anywhere
  exact ⟨⟨((hplaces 3 2 _ _).1 _).2 hload, hdeep, ((hplaces 2 2 _ _).2 _ hdeep).1⟩,
    ⟨rfl, (hdocuments 1 _ _ rfl).1 _ hload, ((hdocuments 0 _ _ rfl).2 _ hdeep).1⟩,
    by decide, hlarger 1 _ 0 [] _ _ (by decide) hload⟩

end TicketMarkup
