import TicketMarkup.Proofs.Source.Grammar
import TicketMarkup.Proofs.Source.Origins
import TicketMarkup.Proofs.Source.WellFormed
import TicketMarkup.Source.Dump

/-!
# Loading undoes dumping

Loading gives well-formed trees that nest within the limit, and every such tree is loaded from its
own dump (`load_dump`). So dumping what was loaded brings data into a normal form, which loads as
the same tree.
-/

namespace TicketMarkup

/-! ## What loading gives -/

/-- A loaded sequence is well formed, and has fewer levels below it than were left. -/
theorem IsLoaded.wellFormed {P : Json → Prop} (hP : Json.Inherited P) {limit : Int} {depth : Nat}
    {nodes : List Node} (h : IsLoaded P limit depth nodes) :
    (∀ n ∈ nodes, n.WellFormed) ∧ sequenceNesting nodes < levelsAt limit depth := by
  induction depth using depth_induction limit generalizing nodes with
  | beyond depth hdepth => exact absurd (IsLoaded.nodes hP h).1 (Int.not_le.2 hdepth)
  | within depth hdepth ih =>
    have hnodes : ∀ n ∈ nodes,
        n.WellTagged ∧ ∀ s ∈ n.sequences, IsLoaded P limit (depth + 1) s := by
      intro n hn
      obtain ⟨place, v, hv, hload⟩ := (IsLoaded.nodes hP h).2 n hn
      exact sequences_of_loadNode hP hv hload
    rw [levelsAt_of_le hdepth, sequenceNesting_lt_succ_iff]
    refine ⟨fun n hn => ?_, fun n hn s hs => (ih ((hnodes n hn).2 s hs)).2⟩
    obtain ⟨tagged, hsequences⟩ := hnodes n hn
    exact Node.wellFormed_iff.2 ⟨tagged, fun s hs => (ih (hsequences s hs)).1⟩

/-! ## What dumping gives -/

/-- A field that is present is found in front of the others. -/
theorem get?_presentField_append (key name : String) (v : Json) (rest : Fields) :
    Fields.get? key (presentField name v ++ rest) =
      if name = key ∧ v ≠ .null then some v else Fields.get? key rest := by
  unfold presentField
  split
  next h => simp [h]
  next h => simp [Fields.get?, h]

theorem get?_presentField (key name : String) (v : Json) :
    Fields.get? key (presentField name v) = if name = key ∧ v ≠ .null then some v else none := by
  simpa [Fields.get?] using get?_presentField_append key name v []

/-- A field that is left out because it is null is read as null. -/
theorem getD_ite_null (v : Json) : (if v = .null then none else some v).getD .null = v := by
  split
  next h => exact h.symm
  next h => rfl

/-- An integer stands for itself. -/
theorem Json.standsFor_int (n : Int) : (Json.int n).StandsFor n := ⟨by simp [type], rfl⟩

section Dumped

variable {limit : Int} {depth : Nat}

/-- Whether a sequence is loaded from its dump at every place of a depth. -/
def LoadsBack (limit : Int) (depth : Nat) (nodes : List Node) : Prop :=
  ∀ place, (loadSequence limit depth place (dump nodes)).outcome = .ok nodes

/-- A sequence of nodes that load back loads back. -/
theorem loadNodes_dumpNodes {nodes : List Node} {place : Location} {index : Nat}
    (h : ∀ n ∈ nodes, ∀ where', (loadNode limit depth where' n.dump).outcome = .ok n) :
    (loadNodes limit depth place index (dumpNodes nodes)).outcome = .ok nodes := by
  induction nodes generalizing index with
  | nil => rw [dumpNodes, loadNodes, Traced.outcome_pure]
  | cons n rest ih =>
    obtain ⟨hn, hrest⟩ := List.forall_mem_cons.1 h
    rw [dumpNodes, outcome_loadNodes_cons]
    exact ⟨n, rest, hn _, ih hrest, rfl⟩

/-- Items that load back load back as a sequence of items. -/
theorem loadItemSequences_dumpItems {items : List (List Node)} {place : Location} {index : Nat}
    (h : ∀ item ∈ items, LoadsBack limit (depth + 1) item) :
    (loadItemSequences limit depth place index (dumpItems items)).outcome = .ok items := by
  induction items generalizing index with
  | nil => rw [dumpItems, loadItemSequences, Traced.outcome_pure]
  | cons item rest ih =>
    obtain ⟨hitem, hrest⟩ := List.forall_mem_cons.1 h
    rw [dumpItems, outcome_loadItemSequences_cons]
    exact ⟨item, rest, hitem _, ih hrest, rfl⟩

theorem loadChildren_of_get? {fields : Fields} {nodes : List Node} {place : Location}
    (hfields : Fields.get? "children" fields = some (dump nodes))
    (h : LoadsBack limit (depth + 1) nodes) :
    (loadChildren limit depth place fields).outcome = .ok nodes := by
  rw [loadChildren_eq, hfields]
  exact h _

theorem loadItems_of_get? {fields : Fields} {items : List (List Node)} {place : Location}
    (hfields : Fields.get? "children" fields = some (.arr (dumpItems items)))
    (h : ∀ item ∈ items, LoadsBack limit (depth + 1) item) :
    (loadItems limit depth place fields).outcome = .ok items := by
  rw [loadItems_eq, hfields]
  exact loadItemSequences_dumpItems h

theorem loadLabel_of_get? {fields : Fields} {label : Option (List Node)} {place : Location}
    (hfields : Fields.get? "children" fields = label.map dump)
    (h : ∀ nodes ∈ label, LoadsBack limit (depth + 1) nodes) :
    (loadLabel limit depth place fields).outcome = .ok label := by
  rw [outcome_loadLabel, hfields]
  cases label with
  | none => rfl
  | some nodes => exact ⟨nodes, h nodes rfl _, rfl⟩

/-- A node of no kind loads back with all its fields. -/
theorem loadNode_dump_unknown {tag : String} {fields : Fields} {place : Location}
    (tagged : (Node.unknown tag fields).WellTagged) :
    (loadNode limit depth place (Node.unknown tag fields).dump).outcome =
      .ok (.unknown tag fields) := by
  have hfields : fields.filter (fun f => f.1 ≠ "type") = fields :=
    List.filter_eq_self.2 fun f hf => decide_eq_true (tagged.2 f hf)
  simp only [Node.dump, taggedObject, loadNode, Fields.get?, if_pos, tagged.1,
    Traced.outcome_bind_eq_ok_iff, Traced.outcome_pure, Except.ok.injEq, Node.unknown.injEq,
    true_and]
  refine ⟨(), rfl, ?_⟩
  rw [List.filter_cons_of_neg (by simp), hfields]

/-- A well-tagged node is loaded from its dump if its sequences are. -/
theorem loadNode_dump {n : Node} {place : Location} (tagged : n.WellTagged)
    (h : ∀ s ∈ n.sequences, LoadsBack limit (depth + 1) s) :
    (loadNode limit depth place n.dump).outcome = .ok n := by
  cases n
  case unknown tag fields => exact loadNode_dump_unknown tagged
  case' list first items => cases first
  case' styled style children => cases style
  case' reference target id text => cases target
  all_goals
    simp only [Node.dump, taggedObject, Style.kind, Target.kind, loadNode, Fields.get?, if_pos,
      Kind.ofTag?_tag, Traced.outcome_bind_eq_ok_iff, Traced.outcome_pure, Except.ok.injEq]
  case heading level text =>
    exact ⟨level, outcome_integerField.2 (Json.standsFor_int level), text,
      outcome_textField.2 rfl, rfl⟩
  case list.none => exact ⟨_, loadItems_of_get? rfl h, rfl⟩
  case list.some =>
    exact ⟨_, loadItems_of_get? rfl h, _,
      outcome_optionalIntegerField.2 (Json.standsFor_int _), rfl⟩
  case quote | styled.bold | styled.italic | styled.strike =>
    exact ⟨_, loadChildren_of_get? rfl (List.forall_mem_singleton.1 h), rfl⟩
  case code | mention | text | image => exact ⟨_, outcome_textField.2 rfl, rfl⟩
  case preformatted text language =>
    refine ⟨text, outcome_textField.2 rfl, language, outcome_optionalTextField.2 ?_, rfl⟩
    cases language <;> rfl
  case link url label text =>
    refine ⟨label, loadLabel_of_get? (by cases label <;> rfl) fun nodes hnodes =>
        h nodes (Option.mem_toList.2 hnodes), url, outcome_textField.2 rfl, text,
      outcome_textField.2 ?_, rfl⟩
    cases label <;> rfl
  case reference.ticket | reference.commit | comment | attachment =>
    simp [outcome_textField, idField, Fields.get?, get?_presentField_append, get?_presentField,
      getD_ite_null]

end Dumped

/-- A well-formed sequence with few enough levels below it is loaded from its dump. -/
theorem loadsBack_of_wellFormed {limit : Int} {depth : Nat} {nodes : List Node}
    (h : ∀ n ∈ nodes, n.WellFormed) (hnesting : sequenceNesting nodes < levelsAt limit depth) :
    LoadsBack limit depth nodes := by
  induction depth using depth_induction limit generalizing nodes with
  | beyond depth hdepth =>
    rw [levelsAt_of_lt hdepth] at hnesting
    exact absurd hnesting (Nat.not_lt_zero _)
  | within depth hdepth ih =>
    rw [levelsAt_of_le hdepth, sequenceNesting_lt_succ_iff] at hnesting
    have hnode : ∀ n ∈ nodes, ∀ where', (loadNode limit depth where' n.dump).outcome = .ok n := by
      intro n hn where'
      obtain ⟨tagged, hsequences⟩ := Node.wellFormed_iff.1 (h n hn)
      exact loadNode_dump tagged fun s hs => ih (hsequences s hs) (hnesting n hn s hs)
    exact fun place => outcome_loadSequence.2 ⟨_, rfl, hdepth, loadNodes_dumpNodes hnode⟩

/-! ## Loading and dumping -/

/-- The data that a tree which was loaded dumps to. -/
def normalise (limit : Int) (data : Json) : Except LoadFailure Json :=
  (load limit data).outcome.map dump

/-- How many levels a limit leaves at the root. -/
theorem lt_levelsAt_zero_iff {limit : Int} {k : Nat} :
    k < levelsAt limit 0 ↔ (k : Int) ≤ limit := by
  unfold levelsAt
  omega

/-- Loading gives the well-formed trees that nest within the limit, and gives each of them from its
dump. What was loaded is loaded again from its dump, so dumping it normalises the data. -/
theorem load_dump (limit : Int) :
    (∀ nodes, (∃ data, (load limit data).outcome = .ok nodes) ↔
      (∀ n ∈ nodes, n.WellFormed) ∧ (sequenceNesting nodes : Int) ≤ limit) ∧
    (∀ nodes, (load limit (dump nodes)).outcome = .ok nodes ↔
      (∀ n ∈ nodes, n.WellFormed) ∧ (sequenceNesting nodes : Int) ≤ limit) ∧
    (∀ data, (load limit data).outcome.bind (fun nodes => (load limit (dump nodes)).outcome) =
      (load limit data).outcome) ∧
    ∀ data, (normalise limit data).bind (normalise limit) = normalise limit data := by
  have hloaded : ∀ {data nodes}, (load limit data).outcome = .ok nodes →
      (∀ n ∈ nodes, n.WellFormed) ∧ (sequenceNesting nodes : Int) ≤ limit := by
    intro data nodes h
    have hany : Json.Inherited fun _ => True := ⟨trivial, fun _ _ => trivial⟩
    obtain ⟨hnodes, hnesting⟩ := IsLoaded.wellFormed hany ⟨[], data, trivial, h⟩
    exact ⟨hnodes, lt_levelsAt_zero_iff.1 hnesting⟩
  have hback : ∀ {nodes}, (∀ n ∈ nodes, n.WellFormed) ∧ (sequenceNesting nodes : Int) ≤ limit →
      (load limit (dump nodes)).outcome = .ok nodes := fun h =>
    loadsBack_of_wellFormed h.1 (lt_levelsAt_zero_iff.2 h.2) []
  have hagain : ∀ data, (load limit data).outcome.bind
      (fun nodes => (load limit (dump nodes)).outcome) = (load limit data).outcome := by
    intro data
    cases h : (load limit data).outcome with
    | error e => rfl
    | ok nodes => exact hback (hloaded h)
  refine ⟨fun nodes => ⟨fun ⟨data, h⟩ => hloaded h, fun h => ⟨_, hback h⟩⟩,
    fun nodes => ⟨hloaded, hback⟩, hagain, fun data => ?_⟩
  unfold normalise
  cases h : (load limit data).outcome with
  | error e => rfl
  | ok nodes =>
    show (load limit (dump nodes)).outcome.map dump = .ok (dump nodes)
    rw [hback (hloaded h)]
    rfl

end TicketMarkup
