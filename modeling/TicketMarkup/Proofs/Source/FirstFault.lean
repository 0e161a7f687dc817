import TicketMarkup.Proofs.Source.Limits
import TicketMarkup.Proofs.Source.Positions

/-!
# The first fault

Data may be at fault in many places. Loading ends with the first fault of all, and its message says
where that is (`load_error_isFirstFault`).

A place is the way to a position of the data. The fault is what is wrong at the position
(`TreeFault.IsAt`), and the nodes and the items that stand before it, in every array on the way, are
loaded without a fault (`IsFirstFault`). A node is at fault itself where one of the rules of its
kind fails (`exists_rule_of_loadNode`), or one of its children is: what is first below a position is
first below the position one step up (`IsFirstFault.step`).
-/

namespace TicketMarkup

/-! ## Faults and positions -/

/-- Whether a fault is what is wrong at a position. -/
inductive TreeFault.IsAt (limit : Int) : TreeFault → Position → Prop where
  | notSequence {place : Location} {depth : Nat} {v : Json} (h : v.type ≠ .arr) :
    IsAt limit (.notSequence place v.type) (.sequence depth v)
  | tooDeep {place : Location} {depth : Nat} {vs : List Json} (h : limit < depth) :
    IsAt limit (.tooDeep limit place) (.sequence depth (.arr vs))
  | notItems {place : Location} {depth : Nat} {v : Json} (h : v.type ≠ .arr) :
    IsAt limit (.notItems place v.type) (.items depth v)
  | notNode {place : Location} {depth : Nat} {v : Json} (hstr : v.type ≠ .str)
    (hobj : v.type ≠ .obj) : IsAt limit (.notNode place v.type) (.node depth v)
  | untagged {place : Location} {depth : Nat} {fields : Fields}
    (h : ∀ tag, Fields.get? "type" fields ≠ some (.str tag)) :
    IsAt limit (.untagged place) (.node depth (.obj fields))
  /-- A field that the kind of the node reads as a text holds something else. -/
  | notText {place : Location} {depth : Nat} {fields : Fields} {kind : Kind} {name : String}
    {nullable : Bool} {v : Json} (hkind : fields.kind? = some kind)
    (hrule : .text name nullable ∈ kind.rules) (hfield : Fields.get? name fields = some v)
    (h : v.type ≠ .str) (hnull : nullable = true → v ≠ .null) :
    IsAt limit (.notText name place v.type) (.node depth (.obj fields))
  /-- A field that the kind of the node reads as an integer holds what stands for none. -/
  | notInteger {place : Location} {depth : Nat} {fields : Fields} {kind : Kind} {name : String}
    {nullable : Bool} {v : Json} (hkind : fields.kind? = some kind)
    (hrule : .integer name nullable ∈ kind.rules) (hfield : Fields.get? name fields = some v)
    (h : ¬∃ n, v.StandsFor n) (hnull : nullable = true → v ≠ .null) :
    IsAt limit (.notInteger name place v) (.node depth (.obj fields))

/-- Whether what stands at a position is loaded without a fault, wherever it is told to stand. -/
def Position.Loads (limit : Int) : Position → Prop
  | document fields => ∃ d, (loadDocument limit (.obj fields)).outcome = .ok d
  | sequence depth v => ∀ place, ∃ nodes, (loadSequence limit depth place v).outcome = .ok nodes
  | node depth v => ∀ place, ∃ n, (loadNode limit depth place v).outcome = .ok n
  | items depth v => ∀ place, ∃ items, (loadItemArray limit depth place v).outcome = .ok items

/-- Whether a fault is the first one below a position, at a location from there: it is what is wrong
at the position that the location leads to, and what stands before the location, in the arrays on
its way, is loaded without a fault. -/
structure IsFirstFault (limit : Int) (root : Position) (route : Location) (fault : TreeFault) :
    Prop where
  isAt : ∃ p, root.follow? route = some p ∧ root.value.at? route = some p.value ∧
    fault.IsAt limit p
  before : ∀ way index rest, route = way ++ .item index :: rest → ∀ i < index,
    ∃ p, root.follow? (way ++ [.item i]) = some p ∧ p.Loads limit

/-- A fault at the root itself is the first one. -/
theorem isFirstFault_nil {limit : Int} {p : Position} {fault : TreeFault}
    (h : fault.IsAt limit p) : IsFirstFault limit p [] fault :=
  ⟨⟨p, rfl, rfl, h⟩, fun way index rest hroute => by simp at hroute⟩

/-- A fault below the position that a step leads to is below the position that it leads from. -/
theorem IsFirstFault.step {limit : Int} {p q : Position} {step : Step} {route : Location}
    {fault : TreeFault} (h : IsFirstFault limit q route fault) (hstep : p.step? step = some q)
    (hbefore : ∀ index, step = .item index → ∀ i < index,
      ∃ sibling, p.step? (.item i) = some sibling ∧ sibling.Loads limit) :
    IsFirstFault limit p (step :: route) fault := by
  obtain ⟨r, hroute, -, hfault⟩ := h.isAt
  have hfollow : p.follow? (step :: route) = some r := by
    rw [Position.follow?_cons hstep, hroute]
  refine ⟨⟨r, hfollow, Position.at?_of_follow? hfollow, hfault⟩, ?_⟩
  intro way index rest hway i hi
  cases way with
  | nil =>
    obtain ⟨rfl, rfl⟩ := List.cons.inj hway
    rw [List.nil_append, Position.follow?_singleton]
    exact hbefore index rfl i hi
  | cons first way =>
    obtain ⟨rfl, rfl⟩ := List.cons.inj hway
    rw [List.cons_append, Position.follow?_cons hstep]
    exact h.before way index rest rfl i hi

/-- Whether a fault, which is told of data at a place, is the first one below the position of the
data. -/
def FoundBelow (limit : Int) (place : Location) (p : Position) (fault : TreeFault) : Prop :=
  ∃ route, fault.place? = some (place ++ route) ∧ IsFirstFault limit p route fault

section Found

variable {limit : Int} {place : Location} {p q : Position} {fault : TreeFault}

/-- A fault at the data itself is found there. -/
theorem foundBelow_of_isAt (hplace : fault.place? = some place) (h : fault.IsAt limit p) :
    FoundBelow limit place p fault :=
  ⟨[], by rw [hplace, List.append_nil], isFirstFault_nil h⟩

/-- A fault below the position that a step leads to is found from the position that it leads from,
if all before it loads. -/
theorem FoundBelow.step {step : Step} (h : FoundBelow limit (place ++ [step]) q fault)
    (hstep : p.step? step = some q)
    (hbefore : ∀ index, step = .item index → ∀ i < index,
      ∃ sibling, p.step? (.item i) = some sibling ∧ sibling.Loads limit) :
    FoundBelow limit place p fault := by
  obtain ⟨route, hplace, hfirst⟩ := h
  refine ⟨step :: route, ?_, hfirst.step hstep hbefore⟩
  rw [hplace, List.append_assoc, List.singleton_append]

end Found

/-! ## Fields -/

section Fields

variable {name : String} {place : Location} {fields : Fields} {failure : LoadFailure}

/-- A text field is at fault by a value that is no text. -/
theorem exists_of_textField (h : (textField name place fields).outcome = .error failure) :
    ∃ v, Fields.get? name fields = some v ∧ v.type ≠ .str ∧
      failure = .malformed (.notText name place v.type) := by
  unfold textField at h
  split at h
  next => cases h
  next => cases h
  next v hv hfield =>
    refine ⟨v, hfield, ?_, (Except.error.inj h).symm⟩
    cases v with
    | str s => exact absurd rfl (hv s)
    | _ => simp [Json.type]

theorem exists_of_optionalTextField
    (h : (optionalTextField name place fields).outcome = .error failure) :
    ∃ v, Fields.get? name fields = some v ∧ v.type ≠ .str ∧ v ≠ .null ∧
      failure = .malformed (.notText name place v.type) := by
  unfold optionalTextField at h
  split at h
  next => cases h
  next => cases h
  next => cases h
  next v hnull hv hfield =>
    refine ⟨v, hfield, ?_, hnull, (Except.error.inj h).symm⟩
    cases v with
    | str s => exact absurd rfl (hv s)
    | _ => simp [Json.type]

/-- A value is refused as an integer if it stands for none. -/
theorem eq_notInteger_of_integerValue {v : Json} {fault : TreeFault}
    (h : (integerValue name place v).outcome = .error (.malformed fault)) :
    (¬∃ n, v.StandsFor n) ∧ fault = .notInteger name place v := by
  constructor
  · rintro ⟨n, hn⟩
    rw [outcome_integerValue.2 hn] at h
    cases h
  · unfold integerValue at h
    split at h
    · exact (LoadFailure.malformed.inj (Except.error.inj h)).symm
    · split at h
      · cases h
      · exact (LoadFailure.malformed.inj (Except.error.inj h)).symm
      · cases h

theorem exists_of_integerField {default : Int} {fault : TreeFault}
    (h : (integerField name default place fields).outcome = .error (.malformed fault)) :
    ∃ v, Fields.get? name fields = some v ∧ (¬∃ n, v.StandsFor n) ∧
      fault = .notInteger name place v := by
  unfold integerField at h
  split at h
  next => cases h
  next v hfield => exact ⟨v, hfield, eq_notInteger_of_integerValue h⟩

theorem exists_of_optionalIntegerField {default : Int} {fault : TreeFault}
    (h : (optionalIntegerField name default place fields).outcome = .error (.malformed fault)) :
    ∃ v, Fields.get? name fields = some v ∧ (¬∃ n, v.StandsFor n) ∧ v ≠ .null ∧
      fault = .notInteger name place v := by
  unfold optionalIntegerField at h
  split at h
  next => cases h
  next => cases h
  next v hnull hfield =>
    obtain ⟨hinteger, hfault⟩ := eq_notInteger_of_integerValue h
    exact ⟨v, hfield, hinteger, hnull, hfault⟩

end Fields

/-! ## Rules -/

/-- Whether reading fields by a rule ends with a failure. -/
def FieldRule.Fails (limit : Int) (depth : Nat) (place : Location) (fields : Fields)
    (failure : LoadFailure) : FieldRule → Prop
  | text name false => (textField name place fields).outcome = .error failure
  | text name true => (optionalTextField name place fields).outcome = .error failure
  | integer name false => (integerField name 1 place fields).outcome = .error failure
  | integer name true => (optionalIntegerField name 1 place fields).outcome = .error failure
  | children => (loadChildren limit depth place fields).outcome = .error failure
  | label => (loadLabel limit depth place fields).outcome = .error failure
  | items => (loadItems limit depth place fields).outcome = .error failure

/-- A node of a kind fails to be loaded by one of the rules of the kind. -/
theorem exists_rule_of_loadNode {limit : Int} {depth : Nat} {place : Location} {fields : Fields}
    {failure : LoadFailure} {kind : Kind}
    (hkind : Fields.get? "type" fields = some (.str kind.tag))
    (h : (loadNode limit depth place (.obj fields)).outcome = .error failure) :
    ∃ rule ∈ kind.rules, rule.Fails limit depth place fields failure := by
  cases kind <;>
    simp only [loadNode, hkind, Kind.ofTag?_tag, Traced.outcome_bind_eq_error_iff,
      Traced.outcome_pure, reduceCtorEq, and_false, exists_false, or_false, exists_and_right] at h
  case heading | numberedList | preformatted =>
    simpa [Kind.rules, FieldRule.Fails] using h.imp_right And.right
  case link =>
    simpa [Kind.rules, FieldRule.Fails] using h.imp_right fun hrest => hrest.2.imp_right And.right
  all_goals simpa [Kind.rules, FieldRule.Fails] using h

/-! ## Sequences -/

section Sequences

variable {limit : Int} {depth : Nat} {place : Location}

/-- The nodes of a sequence fail to be loaded by the first one that does. -/
theorem exists_of_loadNodes {vs : List Json} {index : Nat} {failure : LoadFailure}
    (h : (loadNodes limit depth place index vs).outcome = .error failure) :
    ∃ before v after, vs = before ++ v :: after ∧
      (∀ w ∈ before, (Position.node depth w).Loads limit) ∧
      (loadNode limit depth (place ++ [.item (index + before.length)]) v).outcome =
        .error failure := by
  induction vs generalizing index with
  | nil => cases h
  | cons v vs ih =>
    rw [loadNodes, Traced.outcome_bind_eq_error_iff] at h
    rcases h with hv | ⟨n, hn, hrest⟩
    · exact ⟨[], v, vs, rfl, List.forall_mem_nil _, hv⟩
    · have hvs : (loadNodes limit depth place (index + 1) vs).outcome = .error failure := by
        simpa [Traced.outcome_bind_eq_error_iff, -Traced.outcome_bind] using hrest
      obtain ⟨before, w, after, rfl, hbefore, hw⟩ := ih hvs
      rw [Nat.add_right_comm, Nat.add_assoc] at hw
      exact ⟨v :: before, w, after, rfl,
        List.forall_mem_cons.2 ⟨fun where' => ⟨n, outcome_loadNode_of_place hn where'⟩, hbefore⟩,
        hw⟩

/-- The items of a list fail to be loaded by the first one that does. -/
theorem exists_of_loadItemSequences {vs : List Json} {index : Nat} {failure : LoadFailure}
    (h : (loadItemSequences limit depth place index vs).outcome = .error failure) :
    ∃ before v after, vs = before ++ v :: after ∧
      (∀ w ∈ before, (Position.sequence (depth + 1) w).Loads limit) ∧
      (loadSequence limit (depth + 1) (place ++ [.item (index + before.length)]) v).outcome =
        .error failure := by
  induction vs generalizing index with
  | nil => cases h
  | cons v vs ih =>
    rw [loadItemSequences, Traced.outcome_bind_eq_error_iff] at h
    rcases h with hv | ⟨item, hitem, hrest⟩
    · exact ⟨[], v, vs, rfl, List.forall_mem_nil _, hv⟩
    · have hvs : (loadItemSequences limit depth place (index + 1) vs).outcome = .error failure := by
        simpa [Traced.outcome_bind_eq_error_iff, -Traced.outcome_bind] using hrest
      obtain ⟨before, w, after, rfl, hbefore, hw⟩ := ih hvs
      rw [Nat.add_right_comm, Nat.add_assoc] at hw
      exact ⟨v :: before, w, after, rfl, List.forall_mem_cons.2
        ⟨fun where' => ⟨item, outcome_loadSequence_of_place hitem where'⟩, hbefore⟩, hw⟩

/-- A fault at a member of an array, after members that are loaded. -/
theorem FoundBelow.item {p : Position} {fault : TreeFault} {before after : List Json} {v : Json}
    {member : Json → Position}
    (hstep : ∀ i, p.step? (.item i) = ((before ++ v :: after)[i]?).map member)
    (hbefore : ∀ w ∈ before, (member w).Loads limit)
    (h : FoundBelow limit (place ++ [.item before.length]) (member v) fault) :
    FoundBelow limit place p fault := by
  refine h.step (by simp [hstep]) ?_
  rintro index ⟨⟩ i hi
  refine ⟨member before[i], ?_, hbefore _ (List.getElem_mem hi)⟩
  rw [hstep, List.getElem?_append_left hi, List.getElem?_eq_getElem hi, Option.map_some]

/-- A fault among what stands for the children of a node. -/
theorem FoundBelow.children {fields : Fields} {kind : Kind} {q : Position} {fault : TreeFault}
    (hkind : Fields.kind? fields = some kind)
    (hq : kind.children? depth ((Fields.get? "children" fields).getD (.arr [])) = some q)
    (h : FoundBelow limit (place ++ [.children]) q fault) :
    FoundBelow limit place (.node depth (.obj fields)) fault := by
  refine h.step ?_ nofun
  rw [Position.step?, hkind, Option.bind_some, hq]

variable (h : ∀ {where' v fault},
  (loadSequence limit (depth + 1) where' v).outcome = .error (.malformed fault) →
    FoundBelow limit where' (.sequence (depth + 1) v) fault)

include h

/-- The fault of an array of items is the first one below it, if that holds of the sequences in
it. -/
theorem foundBelow_of_loadItemArray {v : Json} {fault : TreeFault}
    (hload : (loadItemArray limit depth place v).outcome = .error (.malformed fault)) :
    FoundBelow limit place (.items depth v) fault := by
  cases v with
  | arr vs =>
    obtain ⟨before, v, after, rfl, hbefore, hv⟩ := exists_of_loadItemSequences hload
    rw [Nat.zero_add] at hv
    exact FoundBelow.item (fun i => rfl) hbefore (h hv)
  | _ =>
    cases hload
    exact foundBelow_of_isAt rfl (.notItems (by simp [Json.type]))

theorem foundBelow_of_loadLabel {fields : Fields} {fault : TreeFault}
    (hload : (loadLabel limit depth place fields).outcome = .error (.malformed fault)) :
    FoundBelow limit (place ++ [.children])
      (.sequence (depth + 1) ((Fields.get? "children" fields).getD (.arr []))) fault := by
  induction fields with
  | nil => cases hload
  | cons f rest ih =>
    obtain ⟨k, v⟩ := f
    rw [loadLabel] at hload
    by_cases hk : k = "children"
    · rw [if_pos hk] at hload
      by_cases hv : v = .null
      · rw [if_pos hv] at hload
        cases hload
      · rw [if_neg hv, Traced.outcome_bind_eq_error_iff] at hload
        rw [Fields.get?, if_pos hk, Option.getD_some]
        simpa using hload.imp_left h
    · rw [if_neg hk] at hload
      rw [Fields.get?, if_neg hk]
      exact ih hload

/-- A fault that ends the reading of a node by a rule of its kind is the first one below the
node. -/
theorem foundBelow_of_fails {fields : Fields} {kind : Kind} (hkind : fields.kind? = some kind)
    {rule : FieldRule} (hrule : rule ∈ kind.rules) {fault : TreeFault}
    (hfails : rule.Fails limit depth place fields (.malformed fault)) :
    FoundBelow limit place (.node depth (.obj fields)) fault := by
  cases rule with
  | text name nullable =>
    cases nullable with
    | false =>
      obtain ⟨v, hfield, hv, ⟨⟩⟩ := exists_of_textField hfails
      exact foundBelow_of_isAt rfl (.notText hkind hrule hfield hv nofun)
    | true =>
      obtain ⟨v, hfield, hv, hnull, ⟨⟩⟩ := exists_of_optionalTextField hfails
      exact foundBelow_of_isAt rfl (.notText hkind hrule hfield hv fun _ => hnull)
  | integer name nullable =>
    cases nullable with
    | false =>
      obtain ⟨v, hfield, hv, rfl⟩ := exists_of_integerField hfails
      exact foundBelow_of_isAt rfl (.notInteger hkind hrule hfield hv nofun)
    | true =>
      obtain ⟨v, hfield, hv, hnull, rfl⟩ := exists_of_optionalIntegerField hfails
      exact foundBelow_of_isAt rfl (.notInteger hkind hrule hfield hv fun _ => hnull)
  | children =>
    rw [FieldRule.Fails, loadChildren_eq] at hfails
    refine FoundBelow.children hkind ?_ (h hfails)
    cases kind <;> simp [Kind.rules] at hrule <;> rfl
  | label =>
    refine FoundBelow.children hkind ?_ (foundBelow_of_loadLabel h hfails)
    cases kind <;> simp [Kind.rules] at hrule
    rfl
  | items =>
    rw [FieldRule.Fails, loadItems_eq] at hfails
    refine FoundBelow.children hkind ?_ (foundBelow_of_loadItemArray h hfails)
    cases kind <;> simp [Kind.rules] at hrule <;> rfl

/-- The fault of a node is the first one below it, whichever field it is found in. -/
theorem foundBelow_of_loadNode {v : Json} {fault : TreeFault}
    (hload : (loadNode limit depth place v).outcome = .error (.malformed fault)) :
    FoundBelow limit place (.node depth v) fault := by
  cases v with
  | obj fields =>
    cases hkind : Fields.kind? fields with
    | some kind =>
      obtain ⟨rule, hrule, hfails⟩ :=
        exists_rule_of_loadNode (Fields.get?_type_of_kind? hkind) hload
      exact foundBelow_of_fails h hkind hrule hfails
    | none =>
      -- A node of an unknown kind is loaded, so that there is no tag.
      unfold Fields.kind? at hkind
      rw [loadNode] at hload
      split at hload
      next tag htag =>
        simp only [htag] at hkind
        simp only [hkind] at hload
        cases hload
      next htag =>
        cases hload
        exact foundBelow_of_isAt rfl (.untagged htag)
  | str s => cases hload
  | _ =>
    cases hload
    exact foundBelow_of_isAt rfl (.notNode (by simp [Json.type]) (by simp [Json.type]))

end Sequences

/-- A fault that loading a sequence ends with is the first one below it. -/
theorem foundBelow_of_loadSequence {limit : Int} {depth : Nat} {place : Location} {v : Json}
    {fault : TreeFault}
    (hload : (loadSequence limit depth place v).outcome = .error (.malformed fault)) :
    FoundBelow limit place (.sequence depth v) fault := by
  induction depth using depth_induction limit generalizing place v fault with
  | beyond depth hdepth =>
    cases v with
    | arr vs =>
      rw [loadSequence, if_pos hdepth] at hload
      cases hload
      exact foundBelow_of_isAt rfl (.tooDeep hdepth)
    | _ =>
      cases hload
      exact foundBelow_of_isAt rfl (.notSequence (by simp [Json.type]))
  | within depth hdepth ih =>
    cases v with
    | arr vs =>
      rw [loadSequence, if_neg (Int.not_lt.2 hdepth)] at hload
      obtain ⟨before, v, after, rfl, hbefore, hv⟩ := exists_of_loadNodes hload
      rw [Nat.zero_add] at hv
      exact FoundBelow.item (fun i => rfl) hbefore (foundBelow_of_loadNode ih hv)
    | _ =>
      cases hload
      exact foundBelow_of_isAt rfl (.notSequence (by simp [Json.type]))

/-! ## Trees and documents -/

/-- A fault found from the root tells the way to itself. -/
theorem exists_isFirstFault {limit : Int} {p : Position} {fault : TreeFault}
    (h : FoundBelow limit [] p fault) :
    ∃ place, fault.place? = some place ∧
      fault.message = fault.opening ++ place.text ++ fault.closing ∧
      IsFirstFault limit p place fault := by
  obtain ⟨place, hplace, hfirst⟩ := h
  exact ⟨place, hplace, TreeFault.message_of_place? hplace, hfirst⟩

/-- Loading ends with the first fault of the data, and its message says where that is: the place
leads to a position at which the fault is what is wrong, and every node and every item before the
place, in an array on its way, is loaded without a fault. A document has no such place only if it is
an object that names no nodes. -/
theorem load_error_isFirstFault :
    (∀ limit data fault, (load limit data).outcome = .error (.malformed fault) →
      ∃ place, fault.place? = some place ∧
        fault.message = fault.opening ++ place.text ++ fault.closing ∧
        IsFirstFault limit (.sequence 0 data) place fault) ∧
    ∀ limit data fault, (loadDocument limit data).outcome = .error (.malformed fault) →
      (fault = .noNodes ∧ ∃ fields, data = .obj fields ∧ Fields.get? "nodes" fields = none) ∨
      ∃ place, fault.place? = some place ∧
        fault.message = fault.opening ++ place.text ++ fault.closing ∧
        IsFirstFault limit (.ofDocument data) place fault := by
  refine ⟨fun limit data fault h => exists_isFirstFault (foundBelow_of_loadSequence h),
    fun limit data fault h => ?_⟩
  cases data with
  | obj fields =>
    cases hnodes : Fields.get? "nodes" fields with
    | none =>
      rw [loadDocument, hnodes] at h
      cases h
      exact .inl ⟨rfl, fields, rfl, hnodes⟩
    | some v =>
      simp only [loadDocument, hnodes] at h
      rcases Traced.outcome_bind_eq_error_iff.1 h with h | ⟨nodes, -, ⟨⟩⟩
      have hstep : (Position.ofDocument (.obj fields)).step? .nodes = some (.sequence 0 v) := by
        rw [Position.ofDocument, Position.step?, hnodes, Option.map_some]
      have hfound : FoundBelow limit ([] ++ [.nodes]) (.sequence 0 v) fault :=
        foundBelow_of_loadSequence h
      exact .inr (exists_isFirstFault (hfound.step hstep (by rintro _ ⟨⟩)))
  | _ =>
    simp only [loadDocument] at h
    rcases Traced.outcome_bind_eq_error_iff.1 h with h | ⟨nodes, -, ⟨⟩⟩
    exact .inr (exists_isFirstFault (foundBelow_of_loadSequence h))

/-- The data of a list whose second item begins with a heading that has a text for its level. The
item, the list and the data all have other faults further on. -/
def faultyData : Json :=
  .arr [.str "a",
    .obj [("type", .str Kind.numberedList.tag), ("number", .bool true), ("children", .arr
      [.arr [.str "b"],
        .arr [.obj [("type", .str Kind.heading.tag), ("text", .int 5), ("level", .str "x")], .null],
        .str "c"])],
    .int 7]

/-- The first of many faults, in a sequence and in a document. -/
theorem load_error_isFirstFault_level :
    ((load 1 faultyData).outcome = .error (.malformed
        (.notInteger "level" [.item 1, .children, .item 1, .item 0] (.str "x"))) ∧
      IsFirstFault 1 (.sequence 0 faultyData) [.item 1, .children, .item 1, .item 0]
        (.notInteger "level" [.item 1, .children, .item 1, .item 0] (.str "x"))) ∧
    (loadDocument 0 (.obj [("nodes", faultyData)])).outcome = .error (.malformed
        (.tooDeep 0 [.nodes, .item 1, .children, .item 0])) ∧
      IsFirstFault 0 (.document [("nodes", faultyData)]) [.nodes, .item 1, .children, .item 0]
        (.tooDeep 0 [.nodes, .item 1, .children, .item 0]) ∧
      (TreeFault.tooDeep 0 [.nodes, .item 1, .children, .item 0]).message =
        "Tree nested deeper than 0 at $.nodes[1].children[0]" := by
  have hlevel : (load 1 faultyData).outcome = .error (.malformed
      (.notInteger "level" [.item 1, .children, .item 1, .item 0] (.str "x"))) := rfl
  have hdeep : (loadDocument 0 (.obj [("nodes", faultyData)])).outcome = .error (.malformed
      (.tooDeep 0 [.nodes, .item 1, .children, .item 0])) := rfl
  obtain ⟨-, ⟨⟩, -, hfirst⟩ := load_error_isFirstFault.1 1 faultyData _ hlevel
  rcases load_error_isFirstFault.2 0 _ _ hdeep with ⟨hno, -⟩ | ⟨-, ⟨⟩, -, hfirst'⟩
  · cases hno
  · exact ⟨⟨hlevel, hfirst⟩, hdeep, hfirst', rfl⟩

end TicketMarkup
