import TicketMarkup.Proofs.Source.Grammar
import TicketMarkup.Proofs.Source.Parts

/-!
# Attachments without a ticket

An attachment that names no ticket can be given one, in the data (`assignSequence`) and in the tree
that the data is loaded as (`Node.assign`). In the data, attachments are looked for exactly where
nodes are loaded from: among the nodes of a sequence, and in the children, the label or the items of
a node of a kind that has them. Data that is malformed is changed where it has the form of nodes,
and otherwise left as it is.

Main statement: `outcome_loadSequence_assign`, loading data in which attachments were given a ticket
is giving the attachments of the loaded tree that ticket, and fails exactly as loading the data
fails.
-/

namespace TicketMarkup

/-! ## Fields -/

namespace Fields

/-- Changes the value of the first field with a key. -/
def adjust (key : String) (f : Json → Json) : Fields → Fields
  | [] => []
  | (k, v) :: rest => if k = key then (k, f v) :: rest else (k, v) :: adjust key f rest

/-- Adjusting a field changes its value, if there is one, and no other. -/
theorem get?_adjust (key : String) (f : Json → Json) (fields : Fields) (k : String) :
    get? k (adjust key f fields) = if k = key then (get? k fields).map f else get? k fields := by
  induction fields with
  | nil => simp [adjust, get?]
  | cons field rest ih =>
    obtain ⟨l, v⟩ := field
    by_cases hl : l = key
    · subst hl
      by_cases hk : k = l
      · simp [adjust, get?, hk]
      · simp [adjust, get?, hk, Ne.symm hk]
    · by_cases hlk : l = k
      · subst hlk
        simp [adjust, get?, hl]
      · simp [adjust, get?, hl, hlk, ih]

theorem get?_adjust_self (key : String) (f : Json → Json) (fields : Fields) :
    get? key (adjust key f fields) = (get? key fields).map f := by
  rw [get?_adjust, if_pos rfl]

theorem get?_adjust_of_ne {key k : String} (h : k ≠ key) (f : Json → Json) (fields : Fields) :
    get? k (adjust key f fields) = get? k fields := by
  rw [get?_adjust, if_neg h]

end Fields

/-! ## Data -/

/-- The kind of the node that fields describe, if it is a kind of the dialect. -/
def Fields.kind? (fields : Fields) : Option Kind :=
  match Fields.get? "type" fields with
  | some (.str tag) => Kind.ofTag? tag
  | _ => none

/-- Fields that are of a kind have its tag. -/
theorem Fields.get?_type_of_kind? {fields : Fields} {k : Kind} (h : fields.kind? = some k) :
    Fields.get? "type" fields = some (.str k.tag) := by
  unfold Fields.kind? at h
  split at h
  next tag htag => rw [htag, Kind.tag_of_ofTag? h]
  next => cases h

/-- Gives an attachment that names no ticket a ticket. -/
def assignAttachment (ticket : Json) (fields : Fields) : Fields :=
  if idField "ticket" fields = .null then Fields.insert "ticket" ticket fields else fields

mutual

/-- Gives the attachments in a node that name no ticket a ticket. -/
def assignNode (ticket : Json) : Json → Json
  | .obj fields =>
    match Fields.kind? fields with
    | some .attachment => .obj (assignAttachment ticket fields)
    | some .quote => .obj (assignChildren ticket fields)
    | some .bold => .obj (assignChildren ticket fields)
    | some .italic => .obj (assignChildren ticket fields)
    | some .strike => .obj (assignChildren ticket fields)
    | some .link => .obj (assignChildren ticket fields)
    | some .bulletList => .obj (assignItems ticket fields)
    | some .numberedList => .obj (assignItems ticket fields)
    | _ => .obj fields
  | v => v

/-- Gives the attachments in the nodes of a sequence a ticket. -/
def assignNodes (ticket : Json) : List Json → List Json
  | [] => []
  | v :: rest => assignNode ticket v :: assignNodes ticket rest

/-- Gives the attachments in a sequence a ticket. -/
def assignSequence (ticket : Json) : Json → Json
  | .arr nodes => .arr (assignNodes ticket nodes)
  | v => v

/-- Gives the attachments in the children that fields name a ticket. -/
def assignChildren (ticket : Json) : List (String × Json) → List (String × Json)
  | [] => []
  | (k, v) :: rest =>
    if k = "children" then (k, assignSequence ticket v) :: rest
    else (k, v) :: assignChildren ticket rest

/-- Gives the attachments in the items that fields name a ticket. -/
def assignItems (ticket : Json) : List (String × Json) → List (String × Json)
  | [] => []
  | (k, v) :: rest =>
    if k = "children" then (k, assignItemArray ticket v) :: rest
    else (k, v) :: assignItems ticket rest

/-- Gives the attachments in the array of the items of a list a ticket. -/
def assignItemArray (ticket : Json) : Json → Json
  | .arr items => .arr (assignSequences ticket items)
  | v => v

/-- Gives the attachments in the items of a list a ticket. -/
def assignSequences (ticket : Json) : List Json → List Json
  | [] => []
  | v :: rest => assignSequence ticket v :: assignSequences ticket rest

end

theorem assignChildren_eq (ticket : Json) (fields : Fields) :
    assignChildren ticket fields = Fields.adjust "children" (assignSequence ticket) fields := by
  induction fields with
  | nil => rfl
  | cons f rest ih => simp only [assignChildren, Fields.adjust, ih]

theorem assignItems_eq (ticket : Json) (fields : Fields) :
    assignItems ticket fields = Fields.adjust "children" (assignItemArray ticket) fields := by
  induction fields with
  | nil => rfl
  | cons f rest ih => simp only [assignItems, Fields.adjust, ih]

theorem get?_assignChildren_of_ne {k : String} (h : k ≠ "children") (ticket : Json)
    (fields : Fields) :
    Fields.get? k (assignChildren ticket fields) = Fields.get? k fields := by
  rw [assignChildren_eq, Fields.get?_adjust_of_ne h]

theorem get?_assignItems_of_ne {k : String} (h : k ≠ "children") (ticket : Json)
    (fields : Fields) : Fields.get? k (assignItems ticket fields) = Fields.get? k fields := by
  rw [assignItems_eq, Fields.get?_adjust_of_ne h]

theorem get?_assignAttachment_of_ne {k : String} (h : k ≠ "ticket") (ticket : Json)
    (fields : Fields) :
    Fields.get? k (assignAttachment ticket fields) = Fields.get? k fields := by
  unfold assignAttachment
  split
  · rw [Fields.get?_insert, if_neg h]
  · rfl

/-- An attachment without a ticket has the ticket that is assigned, and any other keeps its own. -/
theorem idField_assignAttachment (ticket : Json) (fields : Fields) :
    idField "ticket" (assignAttachment ticket fields) =
      if idField "ticket" fields = .null then ticket else idField "ticket" fields := by
  unfold assignAttachment
  split
  · rw [idField, Fields.get?_insert, if_pos rfl, Option.getD_some]
  · rfl

/-- What stands for no sequence still stands for none. -/
theorem assignSequence_eq_null_iff {ticket v : Json} :
    assignSequence ticket v = .null ↔ v = .null := by
  cases v <;> simp [assignSequence]

/-! ## Trees -/

namespace Node

mutual

/-- Gives the attachments in a node that name no ticket a ticket. -/
def assign (ticket : Json) : Node → Node
  | attachment id title own => attachment id title (if own = .null then ticket else own)
  | list first items => list first (assignItems ticket items)
  | quote children => quote (assignAll ticket children)
  | styled style children => styled style (assignAll ticket children)
  | link url label title => link url (assignLabel ticket label) title
  | n => n

/-- Gives the attachments in the nodes of a sequence a ticket. -/
def assignAll (ticket : Json) : List Node → List Node
  | [] => []
  | n :: rest => n.assign ticket :: assignAll ticket rest

/-- Gives the attachments in the label of a link a ticket. -/
def assignLabel (ticket : Json) : Option (List Node) → Option (List Node)
  | none => none
  | some nodes => some (assignAll ticket nodes)

/-- Gives the attachments in the items of a list a ticket. -/
def assignItems (ticket : Json) : List (List Node) → List (List Node)
  | [] => []
  | item :: rest => assignAll ticket item :: assignItems ticket rest

end

/-- Tickets are assigned node by node. -/
theorem assignAll_eq_map (ticket : Json) (nodes : List Node) :
    assignAll ticket nodes = nodes.map (assign ticket) := by
  induction nodes with
  | nil => rfl
  | cons n rest ih => rw [assignAll, ih, List.map_cons]

theorem assignItems_eq_map (ticket : Json) (items : List (List Node)) :
    assignItems ticket items = items.map (assignAll ticket) := by
  induction items with
  | nil => rfl
  | cons item rest ih => rw [assignItems, ih, List.map_cons]

end Node

/-! ## Corresponding steps -/

section Steps

variable {ρ ε α α' β β' : Type}

/-- Two sequences of steps whose first steps, and then whose second steps, correspond under
functions on their results correspond under the last of these. -/
theorem Traced.outcome_bind_map {x : Traced ρ ε α} {x' : Traced ρ ε α'} {g : α → α'}
    {f : α → Traced ρ ε β} {f' : α' → Traced ρ ε β'} {h : β → β'}
    (hx : x'.outcome = x.outcome.map g) (hf : ∀ a, (f' (g a)).outcome = (f a).outcome.map h) :
    (x' >>= f').outcome = (x >>= f).outcome.map h := by
  rw [Traced.outcome_bind, Traced.outcome_bind, hx]
  cases x.outcome with
  | error e => rfl
  | ok a => exact hf a

/-- After the same first step only the second steps have to correspond. -/
theorem Traced.outcome_bind_map_right {x : Traced ρ ε α} {f : α → Traced ρ ε β}
    {f' : α → Traced ρ ε β'} {h : β → β'} (hf : ∀ a, (f' a).outcome = (f a).outcome.map h) :
    (x >>= f').outcome = (x >>= f).outcome.map h :=
  Traced.outcome_bind_map (x := x) (g := id) (by cases x.outcome <;> rfl) hf

end Steps

/-! ## Loading -/

section Fields

variable {name : String} {place : Location} {fields fields' : Fields}

/-- A text field depends on nothing but the field of its name. -/
theorem textField_congr (h : Fields.get? name fields' = Fields.get? name fields) :
    textField name place fields' = textField name place fields := by
  simp only [textField, h]

theorem optionalIntegerField_congr {default : Int}
    (h : Fields.get? name fields' = Fields.get? name fields) :
    optionalIntegerField name default place fields' =
      optionalIntegerField name default place fields := by
  simp only [optionalIntegerField, h]

theorem idField_congr (h : Fields.get? name fields' = Fields.get? name fields) :
    idField name fields' = idField name fields := by
  simp only [idField, h]

end Fields

section Sequences

variable {limit : Int} {depth : Nat} {place : Location} {ticket : Json}

/-- Assigning tickets before a sequence is loaded or after it makes no difference, if it makes none
to its nodes. -/
theorem outcome_loadNodes_assign {vs : List Json} {index : Nat}
    (h : ∀ where' v, (loadNode limit depth where' (assignNode ticket v)).outcome =
      (loadNode limit depth where' v).outcome.map (Node.assign ticket)) :
    (loadNodes limit depth place index (assignNodes ticket vs)).outcome =
      (loadNodes limit depth place index vs).outcome.map (Node.assignAll ticket) := by
  induction vs generalizing index with
  | nil => rfl
  | cons v vs ih =>
    rw [assignNodes, loadNodes, loadNodes]
    refine Traced.outcome_bind_map (h _ v) fun node => ?_
    exact Traced.outcome_bind_map ih fun nodes => rfl

section Nested

variable (h : ∀ where' v,
    (loadSequence limit (depth + 1) where' (assignSequence ticket v)).outcome =
      (loadSequence limit (depth + 1) where' v).outcome.map (Node.assignAll ticket))

include h

theorem outcome_loadItemSequences_assign {vs : List Json} {index : Nat} :
    (loadItemSequences limit depth place index (assignSequences ticket vs)).outcome =
      (loadItemSequences limit depth place index vs).outcome.map (Node.assignItems ticket) := by
  induction vs generalizing index with
  | nil => rfl
  | cons v vs ih =>
    rw [assignSequences, loadItemSequences, loadItemSequences]
    refine Traced.outcome_bind_map (h _ v) fun item => ?_
    exact Traced.outcome_bind_map ih fun items => rfl

theorem outcome_loadItems_assign (fields : Fields) :
    (loadItems limit depth place (assignItems ticket fields)).outcome =
      (loadItems limit depth place fields).outcome.map (Node.assignItems ticket) := by
  rw [assignItems_eq, loadItems_eq, loadItems_eq, Fields.get?_adjust_self]
  cases Fields.get? "children" fields with
  | none => rfl
  | some v =>
    cases v with
    | arr vs => exact outcome_loadItemSequences_assign h
    | _ => rfl

theorem outcome_loadChildren_assign (fields : Fields) :
    (loadChildren limit depth place (assignChildren ticket fields)).outcome =
      (loadChildren limit depth place fields).outcome.map (Node.assignAll ticket) := by
  rw [assignChildren_eq, loadChildren_eq, loadChildren_eq, Fields.get?_adjust_self]
  cases Fields.get? "children" fields with
  | none => exact h _ (.arr [])
  | some v => exact h _ v

theorem outcome_loadLabel_assign (fields : Fields) :
    (loadLabel limit depth place (assignChildren ticket fields)).outcome =
      (loadLabel limit depth place fields).outcome.map (Node.assignLabel ticket) := by
  induction fields with
  | nil => rfl
  | cons f rest ih =>
    obtain ⟨k, v⟩ := f
    by_cases hk : k = "children"
    · rw [assignChildren, if_pos hk, loadLabel, if_pos hk, loadLabel, if_pos hk]
      by_cases hv : v = .null
      · rw [if_pos (assignSequence_eq_null_iff.2 hv), if_pos hv]
        rfl
      · rw [if_neg (mt assignSequence_eq_null_iff.1 hv), if_neg hv]
        exact Traced.outcome_bind_map (h _ v) fun nodes => rfl
    · rw [assignChildren, if_neg hk, loadLabel, if_neg hk, loadLabel, if_neg hk]
      exact ih

theorem outcome_loadNode_assign_of_kind {fields : Fields} {k : Kind}
    (hkind : Fields.get? "type" fields = some (.str k.tag)) :
    (loadNode limit depth place (assignNode ticket (.obj fields))).outcome =
      (loadNode limit depth place (.obj fields)).outcome.map (Node.assign ticket) := by
  have hkind? : Fields.kind? fields = some k := by
    simp only [Fields.kind?, hkind, Kind.ofTag?_tag]
  have hchildren {name : String} (hname : name ≠ "children") :=
    get?_assignChildren_of_ne hname ticket fields
  have hitems {name : String} (hname : name ≠ "children") :=
    get?_assignItems_of_ne hname ticket fields
  have hattachment {name : String} (hname : name ≠ "ticket") :=
    get?_assignAttachment_of_ne hname ticket fields
  cases k <;> simp only [assignNode, hkind?, loadNode, hkind, Kind.ofTag?_tag,
    hchildren (show "type" ≠ _ by decide), hitems (show "type" ≠ _ by decide),
    hattachment (show "type" ≠ _ by decide)]
  case quote | bold | italic | strike =>
    exact Traced.outcome_bind_map (outcome_loadChildren_assign h fields) fun children => rfl
  case bulletList =>
    exact Traced.outcome_bind_map (outcome_loadItems_assign h fields) fun items => rfl
  case numberedList =>
    refine Traced.outcome_bind_map (outcome_loadItems_assign h fields) fun items => ?_
    rw [optionalIntegerField_congr (hitems (by decide))]
    exact Traced.outcome_bind_map_right fun first => rfl
  case link =>
    refine Traced.outcome_bind_map (outcome_loadLabel_assign h fields) fun label => ?_
    rw [textField_congr (hchildren (by decide)), textField_congr (hchildren (by decide))]
    refine Traced.outcome_bind_map_right fun url => ?_
    exact Traced.outcome_bind_map_right fun text => rfl
  case attachment =>
    rw [textField_congr (hattachment (by decide)), idField_assignAttachment]
    rw [idField_congr (hattachment (by decide))]
    exact Traced.outcome_bind_map_right fun text => rfl
  -- The other kinds hold no attachment, and neither their data nor their nodes change.
  case heading | preformatted =>
    refine Traced.outcome_bind_map_right fun first => ?_
    exact Traced.outcome_bind_map_right fun second => rfl
  case code | comment | ticket | mention | commit | image | text =>
    exact Traced.outcome_bind_map_right fun first => rfl
  case rule | lineBreak | paragraphBreak => rfl

/-- Assigning tickets before a node is loaded or after it makes no difference. -/
theorem outcome_loadNode_assign (v : Json) :
    (loadNode limit depth place (assignNode ticket v)).outcome =
      (loadNode limit depth place v).outcome.map (Node.assign ticket) := by
  cases v with
  | obj fields =>
    cases hkind : Fields.kind? fields with
    | some k => exact outcome_loadNode_assign_of_kind h (Fields.get?_type_of_kind? hkind)
    | none =>
      simp only [assignNode, hkind]
      unfold Fields.kind? at hkind
      rw [loadNode]
      split
      next tag htag =>
        rw [htag] at hkind
        simp only [show Kind.ofTag? tag = none from hkind]
        exact Traced.outcome_bind_map_right fun _ => rfl
      next => rfl
  | _ => rfl

end Nested

end Sequences

/-- Loading data in which attachments were given a ticket is giving the attachments of the loaded
tree that ticket. -/
theorem outcome_loadSequence_assign {limit : Int} {depth : Nat} {place : Location}
    {ticket v : Json} :
    (loadSequence limit depth place (assignSequence ticket v)).outcome =
      (loadSequence limit depth place v).outcome.map (Node.assignAll ticket) := by
  induction depth using depth_induction limit generalizing place v with
  | beyond depth hdepth =>
    cases v with
    | arr vs =>
      rw [assignSequence, loadSequence, loadSequence, if_pos hdepth, if_pos hdepth]
      rfl
    | _ => rfl
  | within depth hdepth ih =>
    cases v with
    | arr vs =>
      rw [assignSequence, loadSequence, loadSequence, if_neg (Int.not_lt.2 hdepth),
        if_neg (Int.not_lt.2 hdepth)]
      exact outcome_loadNodes_assign fun where' n => outcome_loadNode_assign (fun _ _ => ih) n
    | _ => rfl

end TicketMarkup
