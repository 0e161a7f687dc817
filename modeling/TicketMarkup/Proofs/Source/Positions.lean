import TicketMarkup.Proofs.Source.Tickets

/-!
# Positions in markup data

A location leads from a value down to one of its parts (`Json.at?`). Where the value is markup, what
it leads to has a part to play: it is a sequence of nodes nested to a depth, a node of one, or the
items of a list (`Position`), and `Position.follow?` goes from part to part. Both lead to the same
value (`Position.at?_of_follow?`).
-/

namespace TicketMarkup

/-! ## Locations -/

/-- The part of a value that a step leads to. An object that names no children has an empty sequence
of them. -/
def Json.step? : Json → Step → Option Json
  | .arr items, .item index => items[index]?
  | .obj fields, .nodes => Fields.get? "nodes" fields
  | .obj fields, .children => some ((Fields.get? "children" fields).getD (.arr []))
  | _, _ => none

/-- The part of a value that a location leads to. -/
def Json.at? : Json → Location → Option Json
  | v, [] => some v
  | v, step :: rest => (v.step? step).bind fun w => w.at? rest

/-! ## Positions -/

/-- A value in markup data, and what it stands for there. -/
inductive Position where
  /-- An object that holds the nodes of a document. -/
  | document (fields : Fields)
  /-- A sequence of nodes nested to a depth. -/
  | sequence (depth : Nat) (v : Json)
  /-- A node of a sequence nested to a depth. -/
  | node (depth : Nat) (v : Json)
  /-- The items of a list that stands in a sequence nested to a depth. -/
  | items (depth : Nat) (v : Json)

/-- What stands for the children of a node of a kind: a sequence one level deeper, or the items of a
list. Some kinds have no children. -/
def Kind.children? (depth : Nat) (v : Json) : Kind → Option Position
  | .bulletList => some (.items depth v)
  | .numberedList => some (.items depth v)
  | .quote => some (.sequence (depth + 1) v)
  | .bold => some (.sequence (depth + 1) v)
  | .italic => some (.sequence (depth + 1) v)
  | .strike => some (.sequence (depth + 1) v)
  | .link => some (.sequence (depth + 1) v)
  | _ => none

namespace Position

/-- The value at a position. -/
def value : Position → Json
  | document fields => .obj fields
  | sequence _ v => v
  | node _ v => v
  | items _ v => v

/-- The root of a document, which is an object or a sequence of nodes. -/
def ofDocument : Json → Position
  | .obj fields => document fields
  | v => sequence 0 v

/-- The position that a step leads to. -/
def step? : Position → Step → Option Position
  | document fields, .nodes => (Fields.get? "nodes" fields).map (sequence 0)
  | sequence depth (.arr vs), .item index => vs[index]?.map (node depth)
  | items depth (.arr vs), .item index => vs[index]?.map (sequence (depth + 1))
  | node depth (.obj fields), .children =>
    (Fields.kind? fields).bind
      (Kind.children? depth ((Fields.get? "children" fields).getD (.arr [])))
  | _, _ => none

/-- The position that a location leads to. -/
def follow? : Position → Location → Option Position
  | p, [] => some p
  | p, step :: rest => (p.step? step).bind fun q => q.follow? rest

theorem follow?_singleton (p : Position) (step : Step) : p.follow? [step] = p.step? step :=
  Option.bind_fun_some _

/-- A way is followed step by step. -/
theorem follow?_cons {p q : Position} {step : Step} (h : p.step? step = some q)
    (rest : Location) : p.follow? (step :: rest) = q.follow? rest := by
  rw [follow?, h, Option.bind_some]

/-- The children of a node are where its kind says, with the value that is there. -/
theorem value_children? {kind : Kind} {depth : Nat} {v : Json} {q : Position}
    (h : kind.children? depth v = some q) : q.value = v := by
  cases kind <;> cases h <;> rfl

/-- A step between positions is the same step between their values. -/
theorem step?_value {p q : Position} {step : Step} (h : p.step? step = some q) :
    p.value.step? step = some q.value := by
  unfold step? at h
  split at h
  next fields =>
    obtain ⟨v, hv, rfl⟩ := Option.map_eq_some_iff.1 h
    exact hv
  next depth vs index =>
    obtain ⟨v, hv, rfl⟩ := Option.map_eq_some_iff.1 h
    exact hv
  next depth vs index =>
    obtain ⟨v, hv, rfl⟩ := Option.map_eq_some_iff.1 h
    exact hv
  next depth fields =>
    obtain ⟨kind, -, hchildren⟩ := Option.bind_eq_some_iff.1 h
    rw [value_children? hchildren]
    rfl
  next => cases h

/-- A location leads to the value at the position that it leads to. -/
theorem at?_of_follow? {p q : Position} {place : Location} (h : p.follow? place = some q) :
    p.value.at? place = some q.value := by
  induction place generalizing p with
  | nil =>
    cases h
    rfl
  | cons step rest ih =>
    obtain ⟨next, hnext, hrest⟩ := Option.bind_eq_some_iff.1 h
    rw [Json.at?, step?_value hnext, Option.bind_some, ih hrest]

end Position

end TicketMarkup
