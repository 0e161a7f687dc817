import TicketMarkup.Proofs.Json.Everywhere
import TicketMarkup.Proofs.Source.Tickets

/-!
# The fields that are read

A kind reads some of the fields of its nodes (`Kind.fieldsRead`). A field that may be null is as
good as missing where it is null. Fields that read alike in this sense make the same node
(`loadNode_of_readAlike`).

The fields of nodes are changed where nodes are loaded from (`reviseSequence`), those of every node
after the nodes in it. Changes under which the fields read alike leave the loading of the data the
same, with its records and its fault (`loadSequence_revise`). Among them are the removal of what is
not read (`prune`), and any new order of the fields, where their names are distinct (`reorder`).

Main statement: `load_reads_only`.
-/

namespace TicketMarkup

/-! ## Fields by name -/

namespace Fields

theorem get?_filter_name (p : String → Bool) (key : String) (fields : Fields) :
    get? key (fields.filter fun f => p f.1) = if p key then get? key fields else none := by
  induction fields with
  | nil => simp [get?]
  | cons f rest ih =>
    obtain ⟨k, v⟩ := f
    by_cases hk : k = key
    · subst hk
      cases hp : p k <;> simp [hp, get?, ih]
    · cases hp : p k <;> simp [hp, get?, ih, hk]

theorem map_fst_adjust (key : String) (f : Json → Json) (fields : Fields) :
    (adjust key f fields).map Prod.fst = fields.map Prod.fst := by
  induction fields with
  | nil => rfl
  | cons field rest ih =>
    rw [adjust]
    split
    next => rfl
    next => rw [List.map_cons, List.map_cons, ih]

theorem get?_of_mem {fields : Fields} (hnodup : (fields.map Prod.fst).Nodup) {key : String}
    {v : Json} (h : (key, v) ∈ fields) : get? key fields = some v := by
  induction fields with
  | nil => cases h
  | cons f rest ih =>
    obtain ⟨k, w⟩ := f
    obtain ⟨hk, hrest⟩ := List.nodup_cons.1 hnodup
    rw [get?]
    rcases List.mem_cons.1 h with heq | hmem
    · cases heq
      exact if_pos rfl
    · rw [if_neg, ih hrest hmem]
      rintro rfl
      exact hk (List.mem_map.2 ⟨_, hmem, rfl⟩)

/-- Fields with distinct names are found in any order. -/
theorem get?_of_perm {fields fields' : Fields} (hnodup : (fields.map Prod.fst).Nodup)
    (h : fields'.Perm fields) (key : String) : get? key fields' = get? key fields := by
  have hnodup' : (fields'.map Prod.fst).Nodup := (h.map Prod.fst).nodup_iff.2 hnodup
  refine Option.ext fun v => ⟨fun hv => ?_, fun hv => ?_⟩
  · exact get?_of_mem hnodup (h.mem_iff.1 (Json.mem_of_get? hv))
  · exact get?_of_mem hnodup' (h.mem_iff.2 (Json.mem_of_get? hv))

end Fields

/-! ## What a kind reads -/

/-- The field that a rule is about, and whether it may be null. -/
def FieldRule.field : FieldRule → String × Bool
  | text name nullable => (name, nullable)
  | integer name nullable => (name, nullable)
  | children => ("children", false)
  | label => ("children", true)
  | items => ("children", false)

/-- The fields of a kind that hold identifiers. No rule restricts them. -/
def Kind.identifiers : Kind → List String
  | comment => ["ticket", "comment"]
  | ticket => ["id"]
  | commit => ["id"]
  | attachment => ["id", "ticket"]
  | _ => []

/-- The fields that a kind reads besides the tag, and whether they may be null. -/
def Kind.fieldsRead (k : Kind) : List (String × Bool) :=
  k.rules.map FieldRule.field ++ k.identifiers.map fun name => (name, true)

/-- Whether two lists of fields are the same to a kind. Where a field may be null, null is as good
as none. -/
structure ReadAlike (k : Kind) (fields fields' : Fields) : Prop where
  tag : Fields.get? "type" fields' = Fields.get? "type" fields
  required : ∀ name, (name, false) ∈ k.fieldsRead →
    Fields.get? name fields' = Fields.get? name fields
  nullable : ∀ name, (name, true) ∈ k.fieldsRead →
    (Fields.get? name fields').getD .null = (Fields.get? name fields).getD .null

section Fields

variable {name : String} {place : Location} {fields fields' : Fields}

theorem integerField_congr {default : Int}
    (h : Fields.get? name fields' = Fields.get? name fields) :
    integerField name default place fields' = integerField name default place fields := by
  simp only [integerField, h]

theorem optionalTextField_eq (name : String) (place : Location) (fields : Fields) :
    optionalTextField name place fields =
      match (Fields.get? name fields).getD .null with
      | .null => pure none
      | .str s => pure (some s)
      | v => .fault (.notText name place v.type) := by
  unfold optionalTextField
  cases Fields.get? name fields with
  | none => rfl
  | some v => cases v <;> rfl

theorem optionalIntegerField_eq (name : String) (default : Int) (place : Location)
    (fields : Fields) :
    optionalIntegerField name default place fields =
      match (Fields.get? name fields).getD .null with
      | .null => pure default
      | v => integerValue name place v := by
  unfold optionalIntegerField
  cases Fields.get? name fields with
  | none => rfl
  | some v => cases v <;> rfl

end Fields

theorem loadLabel_eq (limit : Int) (depth : Nat) (place : Location) (fields : Fields) :
    loadLabel limit depth place fields =
      if (Fields.get? "children" fields).getD .null = .null then pure none
      else loadSequence limit (depth + 1) (place ++ [.children])
        ((Fields.get? "children" fields).getD .null) >>= fun nodes => pure (some nodes) := by
  induction fields with
  | nil => rfl
  | cons f rest ih =>
    obtain ⟨k, v⟩ := f
    by_cases h : k = "children" <;> simp [loadLabel, Fields.get?, h, ih]

/-- A node does not depend on how its fields are given, as long as they read alike. -/
theorem loadNode_of_readAlike {limit : Int} {depth : Nat} {place : Location} {k : Kind}
    {fields fields' : Fields} (hkind : Fields.kind? fields = some k)
    (h : ReadAlike k fields fields') :
    loadNode limit depth place (.obj fields') = loadNode limit depth place (.obj fields) := by
  have htag := Fields.get?_type_of_kind? hkind
  have htag' := h.tag.trans htag
  cases k <;> simp only [loadNode, htag, htag', Kind.ofTag?_tag]
  case heading =>
    rw [integerField_congr (h.required "level" (by decide)),
      textField_congr (h.required "text" (by decide))]
  case bulletList => rw [loadItems_eq, loadItems_eq, h.required "children" (by decide)]
  case numberedList =>
    rw [loadItems_eq, loadItems_eq, h.required "children" (by decide), optionalIntegerField_eq,
      optionalIntegerField_eq, h.nullable "number" (by decide)]
  case quote | bold | italic | strike =>
    rw [loadChildren_eq, loadChildren_eq, h.required "children" (by decide)]
  case preformatted =>
    rw [textField_congr (h.required "text" (by decide)), optionalTextField_eq,
      optionalTextField_eq, h.nullable "language" (by decide)]
  case link =>
    rw [loadLabel_eq, loadLabel_eq, h.nullable "children" (by decide),
      textField_congr (h.required "url" (by decide)),
      textField_congr (h.required "text" (by decide))]
  case comment =>
    rw [textField_congr (h.required "text" (by decide))]
    simp only [idField, h.nullable "ticket" (by decide), h.nullable "comment" (by decide)]
  case ticket | commit =>
    rw [textField_congr (h.required "text" (by decide))]
    simp only [idField, h.nullable "id" (by decide)]
  case attachment =>
    rw [textField_congr (h.required "text" (by decide))]
    simp only [idField, h.nullable "id" (by decide), h.nullable "ticket" (by decide)]
  case code | mention | text => rw [textField_congr (h.required "text" (by decide))]
  case image => rw [textField_congr (h.required "url" (by decide))]

/-! ## Changes of the fields of nodes -/

/-- A change of the fields of nodes, which may depend on where a node stands and on its kind. -/
abbrev FieldChange := Location → Kind → Fields → Fields

/-- What stands in the children of a node: a sequence, or the items of a list. -/
inductive ChildForm where
  | sequence
  | items

/-- What a rule has stand in the children. -/
def FieldRule.childForm? : FieldRule → Option ChildForm
  | children => some .sequence
  | label => some .sequence
  | items => some .items
  | _ => none

/-- What stands in the children of the nodes of a kind, if the kind reads them. -/
def Kind.childForm? (k : Kind) : Option ChildForm := k.rules.findSome? FieldRule.childForm?

mutual

/-- Changes the fields of a node at a place, after those of the nodes in it. Nodes of no kind of the
dialect stay as they are. -/
def reviseNode (change : FieldChange) (place : Location) : Json → Json
  | .obj fields =>
    match Fields.kind? fields with
    | none => .obj fields
    | some k =>
      match k.childForm? with
      | none => .obj (change place k fields)
      | some .sequence => .obj (change place k (reviseChildren change place fields))
      | some .items => .obj (change place k (reviseItems change place fields))
  | v => v

/-- Changes the fields of the nodes of a sequence, the first of which has an index. -/
def reviseNodes (change : FieldChange) (place : Location) (index : Nat) : List Json → List Json
  | [] => []
  | v :: rest =>
    reviseNode change (place ++ [.item index]) v :: reviseNodes change place (index + 1) rest

/-- Changes the fields of the nodes in a sequence. -/
def reviseSequence (change : FieldChange) (place : Location) : Json → Json
  | .arr nodes => .arr (reviseNodes change place 0 nodes)
  | v => v

/-- Changes the fields of the nodes in the children that fields name. -/
def reviseChildren (change : FieldChange) (place : Location) :
    List (String × Json) → List (String × Json)
  | [] => []
  | (k, v) :: rest =>
    if k = "children" then (k, reviseSequence change (place ++ [.children]) v) :: rest
    else (k, v) :: reviseChildren change place rest

/-- Changes the fields of the nodes in the items that fields name. -/
def reviseItems (change : FieldChange) (place : Location) :
    List (String × Json) → List (String × Json)
  | [] => []
  | (k, v) :: rest =>
    if k = "children" then (k, reviseItemArray change (place ++ [.children]) v) :: rest
    else (k, v) :: reviseItems change place rest

/-- Changes the fields of the nodes in the array of the items of a list. -/
def reviseItemArray (change : FieldChange) (place : Location) : Json → Json
  | .arr items => .arr (reviseSequences change place 0 items)
  | v => v

/-- Changes the fields of the nodes in the items of a list, the first of which has an index. -/
def reviseSequences (change : FieldChange) (place : Location) (index : Nat) :
    List Json → List Json
  | [] => []
  | v :: rest =>
    reviseSequence change (place ++ [.item index]) v ::
      reviseSequences change place (index + 1) rest

end

section Revise

variable (change : FieldChange) (place : Location)

theorem reviseChildren_eq (fields : Fields) :
    reviseChildren change place fields =
      Fields.adjust "children" (reviseSequence change (place ++ [.children])) fields := by
  induction fields with
  | nil => rfl
  | cons f rest ih => simp only [reviseChildren, Fields.adjust, ih]

theorem reviseItems_eq (fields : Fields) :
    reviseItems change place fields =
      Fields.adjust "children" (reviseItemArray change (place ++ [.children])) fields := by
  induction fields with
  | nil => rfl
  | cons f rest ih => simp only [reviseItems, Fields.adjust, ih]

theorem reviseSequence_eq_null_iff {v : Json} :
    reviseSequence change place v = .null ↔ v = .null := by
  cases v <;> simp [reviseSequence]

/-- Changes the fields of the nodes in a node of a kind, but not its own. -/
def reviseInside (k : Kind) (fields : Fields) : Fields :=
  match k.childForm? with
  | none => fields
  | some .sequence =>
    Fields.adjust "children" (reviseSequence change (place ++ [.children])) fields
  | some .items =>
    Fields.adjust "children" (reviseItemArray change (place ++ [.children])) fields

theorem reviseNode_of_kind? {k : Kind} {fields : Fields} (h : Fields.kind? fields = some k) :
    reviseNode change place (.obj fields) =
      .obj (change place k (reviseInside change place k fields)) := by
  rw [reviseNode, h]
  simp only [reviseInside, reviseChildren_eq, reviseItems_eq]
  cases k.childForm? with
  | none => rfl
  | some form => cases form <;> rfl

theorem reviseNode_of_kind?_eq_none {fields : Fields} (h : Fields.kind? fields = none) :
    reviseNode change place (.obj fields) = .obj fields := by
  rw [reviseNode, h]

theorem map_fst_reviseInside (k : Kind) (fields : Fields) :
    (reviseInside change place k fields).map Prod.fst = fields.map Prod.fst := by
  unfold reviseInside
  split
  · rfl
  · exact Fields.map_fst_adjust _ _ fields
  · exact Fields.map_fst_adjust _ _ fields

theorem get?_reviseInside_of_ne {name : String} (h : name ≠ "children") (k : Kind)
    (fields : Fields) :
    Fields.get? name (reviseInside change place k fields) = Fields.get? name fields := by
  unfold reviseInside
  split
  · rfl
  · exact Fields.get?_adjust_of_ne h _ fields
  · exact Fields.get?_adjust_of_ne h _ fields

theorem kind?_reviseInside (k : Kind) (fields : Fields) :
    Fields.kind? (reviseInside change place k fields) = Fields.kind? fields := by
  simp only [Fields.kind?, get?_reviseInside_of_ne change place (show "type" ≠ _ by decide)]

end Revise

/-! ## Loading -/

/-- Whether the names of the fields satisfy a condition, if the value is an object. -/
def Json.NamesSatisfy (P : List String → Prop) (v : Json) : Prop :=
  ∀ fields, v = .obj fields → P (fields.map Prod.fst)

section Loading

variable {change : FieldChange} {P : List String → Prop} {limit : Int} {depth : Nat}

theorem loadNodes_revise {place : Location} {vs : List Json} {index : Nat}
    (h : ∀ v ∈ vs, ∀ place', loadNode limit depth place' (reviseNode change place' v) =
      loadNode limit depth place' v) :
    loadNodes limit depth place index (reviseNodes change place index vs) =
      loadNodes limit depth place index vs := by
  induction vs generalizing index with
  | nil => rfl
  | cons v vs ih =>
    obtain ⟨hv, hvs⟩ := List.forall_mem_cons.1 h
    rw [reviseNodes, loadNodes, loadNodes, hv, ih hvs]

section Nested

variable (h : ∀ v : Json, v.Everywhere (Json.NamesSatisfy P) → ∀ place,
  loadSequence limit (depth + 1) place (reviseSequence change place v) =
    loadSequence limit (depth + 1) place v)

include h

theorem loadItemSequences_revise {place : Location} {vs : List Json} {index : Nat}
    (hvs : ∀ v ∈ vs, v.Everywhere (Json.NamesSatisfy P)) :
    loadItemSequences limit depth place index (reviseSequences change place index vs) =
      loadItemSequences limit depth place index vs := by
  induction vs generalizing index with
  | nil => rfl
  | cons v vs ih =>
    obtain ⟨hv, hvs⟩ := List.forall_mem_cons.1 hvs
    rw [reviseSequences, loadItemSequences, loadItemSequences, h v hv, ih hvs]

theorem loadItemArray_revise {place : Location} {v : Json}
    (hv : v.Everywhere (Json.NamesSatisfy P)) :
    loadItemArray limit depth place (reviseItemArray change place v) =
      loadItemArray limit depth place v := by
  cases v with
  | arr items => exact loadItemSequences_revise h fun _ => hv.of_mem_parts
  | _ => rfl

section Children

variable {place : Location} {fields : Fields}
  (hfields : (Json.obj fields).Everywhere (Json.NamesSatisfy P))

include hfields

theorem loadChildren_revise :
    loadChildren limit depth place
        (Fields.adjust "children" (reviseSequence change (place ++ [.children])) fields) =
      loadChildren limit depth place fields := by
  rw [loadChildren_eq, loadChildren_eq, Fields.get?_adjust_self]
  cases hv : Fields.get? "children" fields with
  | none => rfl
  | some v => exact h v (hfields.of_mem_parts (Json.mem_parts_of_get? hv)) _

theorem loadItems_revise :
    loadItems limit depth place
        (Fields.adjust "children" (reviseItemArray change (place ++ [.children])) fields) =
      loadItems limit depth place fields := by
  rw [loadItems_eq, loadItems_eq, Fields.get?_adjust_self]
  cases hv : Fields.get? "children" fields with
  | none => rfl
  | some v => exact loadItemArray_revise h (hfields.of_mem_parts (Json.mem_parts_of_get? hv))

theorem loadLabel_revise :
    loadLabel limit depth place
        (Fields.adjust "children" (reviseSequence change (place ++ [.children])) fields) =
      loadLabel limit depth place fields := by
  rw [loadLabel_eq, loadLabel_eq, Fields.get?_adjust_self]
  cases hv : Fields.get? "children" fields with
  | none => rfl
  | some v =>
    have hv := h v (hfields.of_mem_parts (Json.mem_parts_of_get? hv))
    simp only [Option.map_some, Option.getD_some, reviseSequence_eq_null_iff, hv]

/-- A node does not depend on the fields of the nodes in it, if its children do not. -/
theorem loadNode_reviseInside {k : Kind} (hkind : Fields.kind? fields = some k) :
    loadNode limit depth place (.obj (reviseInside change place k fields)) =
      loadNode limit depth place (.obj fields) := by
  have htag := Fields.get?_type_of_kind? hkind
  have hother (f : Json → Json) {name : String} (hname : name ≠ "children") :=
    Fields.get?_adjust_of_ne hname f fields
  cases k <;> simp only [reviseInside, Kind.childForm?, Kind.rules, List.findSome?,
    FieldRule.childForm?, loadNode, htag, Kind.ofTag?_tag,
    hother _ (show "type" ≠ _ by decide)]
  case quote | bold | italic | strike => rw [loadChildren_revise h hfields]
  case bulletList => rw [loadItems_revise h hfields]
  case numberedList =>
    rw [loadItems_revise h hfields, optionalIntegerField_congr (hother _ (by decide))]
  case link =>
    rw [loadLabel_revise h hfields, textField_congr (hother _ (by decide)),
      textField_congr (hother _ (by decide))]

end Children

variable (hchange : ∀ place k fields, P (fields.map Prod.fst) →
  ReadAlike k fields (change place k fields))

include hchange

theorem loadNode_revise {place : Location} {v : Json} (hv : v.Everywhere (Json.NamesSatisfy P)) :
    loadNode limit depth place (reviseNode change place v) = loadNode limit depth place v := by
  cases v with
  | obj fields =>
    cases hkind : Fields.kind? fields with
    | none => rw [reviseNode_of_kind?_eq_none change place hkind]
    | some k =>
      -- The change meets the node with the nodes inside already changed, but by the same names.
      have hnames : P ((reviseInside change place k fields).map Prod.fst) := by
        rw [map_fst_reviseInside]
        exact hv.own fields rfl
      rw [reviseNode_of_kind? change place hkind, loadNode_of_readAlike
        ((kind?_reviseInside change place k fields).trans hkind) (hchange place k _ hnames)]
      exact loadNode_reviseInside h hv hkind
  | _ => rfl

end Nested

/-- Changes under which the fields read alike leave the loading of a sequence the same, by induction
on how deep the limit still lets sequences be nested. -/
theorem loadSequence_revise
    (hchange : ∀ place k fields, P (fields.map Prod.fst) →
      ReadAlike k fields (change place k fields))
    {v : Json} (hv : v.Everywhere (Json.NamesSatisfy P)) (place : Location) :
    loadSequence limit depth place (reviseSequence change place v) =
      loadSequence limit depth place v := by
  induction depth using depth_induction limit generalizing place v with
  | beyond depth hdepth =>
    cases v with
    | arr vs => rw [reviseSequence, loadSequence, loadSequence, if_pos hdepth, if_pos hdepth]
    | _ => rfl
  | within depth hdepth ih =>
    cases v with
    | arr vs =>
      rw [reviseSequence, loadSequence, loadSequence, if_neg (Int.not_lt.2 hdepth),
        if_neg (Int.not_lt.2 hdepth)]
      exact loadNodes_revise fun n hn place' =>
        loadNode_revise (fun _ hv place => ih hv place) hchange (hv.of_mem_parts hn)
    | _ => rfl

end Loading

/-! ## What is not read, and the order -/

/-- Whether a kind has a use for a field: the tag, a field that it reads and that may not be null,
or one that may be null and is not. -/
def Kind.uses (k : Kind) (fields : Fields) (name : String) : Bool :=
  name = "type" || (name, false) ∈ k.fieldsRead ||
    ((name, true) ∈ k.fieldsRead && Fields.get? name fields ≠ some .null)

/-- The fields that a kind has a use for. -/
def pruneFields (k : Kind) (fields : Fields) : Fields :=
  fields.filter fun f => k.uses fields f.1

/-- Removes the fields of nodes that their kinds have no use for. -/
def prune (data : Json) : Json := reviseSequence (fun _ => pruneFields) [] data

/-- Puts the fields of the nodes of kinds of the dialect in another order. -/
def reorder (order : Location → Fields → Fields) (data : Json) : Json :=
  reviseSequence (fun place _ => order place) [] data

/-- Whether the fields of every object in a value have distinct names. -/
def Json.HasDistinctNames (v : Json) : Prop := v.Everywhere (Json.NamesSatisfy List.Nodup)

theorem Json.hasDistinctNames_arr {items : List Json} (h : ∀ v ∈ items, v.HasDistinctNames) :
    (Json.arr items).HasDistinctNames :=
  .mk nofun h

theorem Json.hasDistinctNames_obj {fields : Fields} (hnodup : (fields.map Prod.fst).Nodup)
    (h : ∀ f ∈ fields, f.2.HasDistinctNames) : (Json.obj fields).HasDistinctNames := by
  refine .mk (fun _ heq => Json.obj.inj heq ▸ hnodup) fun v hv => ?_
  obtain ⟨f, hf, rfl⟩ := List.mem_map.1 hv
  exact h f hf

theorem readAlike_pruneFields (k : Kind) (fields : Fields) :
    ReadAlike k fields (pruneFields k fields) where
  tag := by
    rw [pruneFields, Fields.get?_filter_name, if_pos]
    simp [Kind.uses]
  required := by
    intro name hname
    rw [pruneFields, Fields.get?_filter_name, if_pos]
    simp [Kind.uses, hname]
  nullable := by
    intro name hname
    rw [pruneFields, Fields.get?_filter_name]
    split
    next => rfl
    next huses =>
      have hnull : Fields.get? name fields = some .null := by
        simp only [Kind.uses, hname, decide_true, Bool.true_and, Bool.or_eq_true,
          decide_eq_true_eq, not_or, Decidable.not_not] at huses
        exact huses.2
      rw [hnull]
      rfl

theorem readAlike_of_perm {fields fields' : Fields} (hnodup : (fields.map Prod.fst).Nodup)
    (h : fields'.Perm fields) (k : Kind) : ReadAlike k fields fields' where
  tag := Fields.get?_of_perm hnodup h "type"
  required name _ := Fields.get?_of_perm hnodup h name
  nullable name _ := by rw [Fields.get?_of_perm hnodup h name]

theorem load_prune (limit : Int) (data : Json) : load limit (prune data) = load limit data :=
  loadSequence_revise (P := fun _ => True) (fun _ k fields _ => readAlike_pruneFields k fields)
    (Json.everywhere_of_forall (fun _ _ _ => trivial) data) []

theorem load_reorder (limit : Int) {order : Location → Fields → Fields}
    (horder : ∀ place fields, (order place fields).Perm fields) {data : Json}
    (hdata : data.HasDistinctNames) : load limit (reorder order data) = load limit data :=
  loadSequence_revise (fun place k fields hnodup =>
    readAlike_of_perm hnodup (horder place fields) k) hdata []

/-- Loading does not depend on the fields that the kind of a node has no use for, nor on the order
of the fields of the nodes of kinds of the dialect. The nodes of no such kind are left alone by
either change, and are loaded with all their fields. -/
theorem load_reads_only :
    (∀ limit data, load limit (prune data) = load limit data) ∧
    (∀ limit order data, (∀ place fields, (order place fields).Perm fields) →
      Json.HasDistinctNames data → load limit (reorder order data) = load limit data) ∧
    ∀ change place fields tag, Fields.get? "type" fields = some (.str tag) →
      Kind.ofTag? tag = none →
        reviseNode change place (.obj fields) = .obj fields ∧
          ∀ limit depth, (loadNode limit depth place (.obj fields)).outcome =
            .ok (.unknown tag (fields.filter fun f => f.1 ≠ "type")) := by
  refine ⟨load_prune, fun limit order data horder hdata => load_reorder limit horder hdata,
    fun change place fields tag htag hnone => ⟨?_, fun limit depth => ?_⟩⟩
  · exact reviseNode_of_kind?_eq_none change place (by simp only [Fields.kind?, htag, hnone])
  · simp only [loadNode, htag, hnone]
    rfl

/-- A link in bold text, with a label that is null and a field that links have no use for, without
both, and with all fields in another order. -/
theorem load_reads_only_link_in_bold :
    let link := [("type", .str "link"), ("children", .null), ("colour", .int 1), ("url", .str "u")]
    let data := .arr [.obj [("type", .str "bold"), ("children", .arr [.obj link])]]
    let pruned := .arr [.obj [("type", .str "bold"),
      ("children", .arr [.obj [("type", .str "link"), ("url", .str "u")]])]]
    let reversed := .arr [.obj [("children", .arr [.obj link.reverse]), ("type", .str "bold")]]
    let unknown := [("colour", .null), ("type", .str "table")]
    (prune data = pruned ∧ load defaultDepthLimit pruned = load defaultDepthLimit data) ∧
    ((∀ (_place : Location) (fields : Fields), fields.reverse.Perm fields) ∧
      data.HasDistinctNames ∧ reorder (fun _ fields => fields.reverse) data = reversed ∧
      load defaultDepthLimit reversed = load defaultDepthLimit data) ∧
    (Fields.get? "type" unknown = some (.str "table") ∧ Kind.ofTag? "table" = none ∧
      reviseNode (fun _ => pruneFields) [.item 0] (.obj unknown) = .obj unknown ∧
      (loadNode defaultDepthLimit 0 [.item 0] (.obj unknown)).outcome =
        .ok (.unknown "table" [("colour", .null)])) := by
  intro link data pruned reversed unknown
  obtain ⟨hprune, hreorder, hunknown⟩ := load_reads_only
  have hreverse : ∀ (_place : Location) (fields : Fields), fields.reverse.Perm fields :=
    fun _ fields => fields.reverse_perm
  have hlink : (Json.obj link).HasDistinctNames := by
    refine Json.hasDistinctNames_obj (by decide) ?_
    simp only [link, List.forall_mem_cons]
    exact ⟨.mk nofun nofun, .mk nofun nofun, .mk nofun nofun, .mk nofun nofun, nofun⟩
  have hdata : data.HasDistinctNames := by
    refine Json.hasDistinctNames_arr (List.forall_mem_singleton.2 ?_)
    refine Json.hasDistinctNames_obj (by decide) ?_
    simp only [List.forall_mem_cons]
    exact ⟨.mk nofun nofun, Json.hasDistinctNames_arr (List.forall_mem_singleton.2 hlink), nofun⟩
  have htag : Fields.get? "type" unknown = some (.str "table") := rfl
  have hnone : Kind.ofTag? "table" = none := rfl
  obtain ⟨hsame, hloaded⟩ := hunknown (fun _ => pruneFields) [.item 0] unknown "table" htag hnone
  exact ⟨⟨rfl, hprune _ data⟩, ⟨hreverse, hdata, rfl, hreorder _ _ data hreverse hdata⟩,
    htag, hnone, hsame, hloaded _ 0⟩

end TicketMarkup
