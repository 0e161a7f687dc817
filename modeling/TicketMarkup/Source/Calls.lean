import TicketMarkup.Source.Load

/-!
# The calls that loading makes

Loading goes through the data by calls: of a sequence, of each node in it, of the items of a list,
of each field that a kind reads, and of the record that a node of no kind leaves. They are made in
document order, the children of a node before its other fields, and end with the one that finds a
fault (`loadCalls`, `documentCalls`).

A stack may be used up when a call is made. Nothing on the way takes that for a fault of the data,
so that loading ends there (`loadOn`, `loadDocumentOn`), with the records that were left before.

Main statements: `onStack_of_forall`, where no call uses up the stack loading ends as it does
without a bound, and `outcome_onStack_of_exists`, where one does it ends as `exhausted`.
-/

namespace TicketMarkup

/-- A call that loading makes, with the location of what it is about. -/
inductive Call where
  | document
  | sequence (place : Location)
  | node (place : Location)
  /-- Of the items of a list. -/
  | items (place : Location)
  /-- Of a field of a node, and of what is wrong with it. -/
  | field (name : String) (place : Location)
  /-- Of the record of a node of unknown kind. -/
  | record (place : Location)
  deriving DecidableEq

/-- Whether a call leaves a record. -/
def Call.isRecord : Call → Bool
  | record _ => true
  | _ => false

/-- The calls of steps taken one after the other, up to the first that fails. -/
def callsInTurn {α : Type} (calls : α → List Call) (succeeds : α → Bool) : List α → List Call
  | [] => []
  | x :: rest => calls x ++ if succeeds x then callsInTurn calls succeeds rest else []

section Calls

variable (nested : Location → Json → List Call) (limit : Int) (depth : Nat) (place : Location)

/-- The calls of the items of a list, where `nested` has those of a sequence one deeper. -/
def itemCalls : Json → List Call
  | .arr items =>
    .items place ::
      callsInTurn (fun item => nested (place ++ [.item item.2]) item.1)
        (fun item => (loadSequence limit (depth + 1) (place ++ [.item item.2]) item.1).outcome.isOk)
        items.zipIdx
  | _ => [.items place]

/-- The calls of reading fields by a rule. -/
def FieldRule.calls (fields : Fields) : FieldRule → List Call
  | text name _ => [.field name place]
  | integer name _ => [.field name place]
  | children =>
    nested (place ++ [.children]) ((Fields.get? "children" fields).getD (.arr []))
  | label =>
    match Fields.get? "children" fields with
    | none => []
    | some .null => []
    | some v => nested (place ++ [.children]) v
  | items =>
    itemCalls nested limit depth (place ++ [.children])
      ((Fields.get? "children" fields).getD (.arr []))

/-- Whether fields are read by a rule without a fault. -/
def FieldRule.reads (fields : Fields) : FieldRule → Bool
  | text name false => (textField name place fields).outcome.isOk
  | text name true => (optionalTextField name place fields).outcome.isOk
  | integer name false => (integerField name 1 place fields).outcome.isOk
  | integer name true => (optionalIntegerField name 1 place fields).outcome.isOk
  | children => (loadChildren limit depth place fields).outcome.isOk
  | label => (loadLabel limit depth place fields).outcome.isOk
  | items => (loadItems limit depth place fields).outcome.isOk

/-- The calls of what the fields of a node say. -/
def fieldCalls (fields : Fields) : List Call :=
  match Fields.get? "type" fields with
  | some (.str tag) =>
    match Kind.ofTag? tag with
    | none => [.record place]
    | some k =>
      callsInTurn (FieldRule.calls nested limit depth place fields)
        (FieldRule.reads limit depth place fields) k.rules
  | _ => []

/-- The calls of a node. -/
def nodeCalls : Json → List Call
  | .obj fields => .node place :: fieldCalls nested limit depth place fields
  | _ => [.node place]

end Calls

/-- The calls of a sequence that stands at a depth, with so many levels of sequences within the
limit. -/
def sequenceCalls (limit : Int) : Nat → Nat → Location → Json → List Call
  | levels + 1, depth, place, .arr nodes =>
    .sequence place ::
      callsInTurn
        (fun node => nodeCalls (sequenceCalls limit levels (depth + 1)) limit depth
          (place ++ [.item node.2]) node.1)
        (fun node => (loadNode limit depth (place ++ [.item node.2]) node.1).outcome.isOk)
        nodes.zipIdx
  | _, _, place, _ => [.sequence place]

/-- The calls that loading a sequence of nodes makes. -/
def loadCalls (limit : Int) (data : Json) : List Call :=
  sequenceCalls limit (limit + 1).toNat 0 [] data

/-- The calls that loading a document makes. -/
def documentCalls (limit : Int) : Json → List Call
  | .obj fields =>
    match Fields.get? "nodes" fields with
    | none => [.document]
    | some v => .document :: sequenceCalls limit (limit + 1).toNat 0 [.nodes] v
  | v => .document :: loadCalls limit v

/-! ## Loading on a stack -/

/-- A step of loading on a stack that some of its calls use up. -/
def Loading.onStack {α : Type} (exhausted : Call → Bool) (calls : List Call) (x : Loading α) :
    Loading α :=
  match calls.findIdx? exhausted with
  | none => x
  | some made => ⟨x.records.take ((calls.take made).countP Call.isRecord), .error .exhausted⟩

/-- Loads a sequence of nodes on a stack that some calls use up. -/
def loadOn (exhausted : Call → Bool) (limit : Int) (data : Json) : Loading (List Node) :=
  (load limit data).onStack exhausted (loadCalls limit data)

/-- Loads a document on a stack that some calls use up. -/
def loadDocumentOn (exhausted : Call → Bool) (limit : Int) (data : Json) : Loading Document :=
  (loadDocument limit data).onStack exhausted (documentCalls limit data)

namespace Loading

variable {α : Type} {exhausted : Call → Bool} {calls : List Call}

theorem onStack_of_forall (h : ∀ call ∈ calls, exhausted call = false) (x : Loading α) :
    x.onStack exhausted calls = x := by
  rw [onStack, List.findIdx?_eq_none_iff.2 h]

theorem outcome_onStack_of_exists (h : ∃ call ∈ calls, exhausted call = true) (x : Loading α) :
    (x.onStack exhausted calls).outcome = .error .exhausted := by
  unfold onStack
  cases hmade : calls.findIdx? exhausted with
  | none =>
    obtain ⟨call, hcall, hexhausted⟩ := h
    rw [List.findIdx?_eq_none_iff.1 hmade call hcall] at hexhausted
    cases hexhausted
  | some made => rfl

theorem outcome_of_onStack_ok {x : Loading α} {a : α}
    (h : (x.onStack exhausted calls).outcome = .ok a) : x.outcome = .ok a := by
  unfold onStack at h
  split at h
  next => exact h
  next => cases h

end Loading

example : loadCalls 0 (.arr [.obj [("type", .str "bold")], .str "a"]) =
    [.sequence [], .node [.item 0], .sequence [.item 0, .children]] := by decide +kernel

end TicketMarkup
