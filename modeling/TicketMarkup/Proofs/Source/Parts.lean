import TicketMarkup.Source.Node

/-!
# Induction on markup

A node holds sequences of nodes (`Node.sequences`), which are its children, the items of a list or
the label of a link, and the nodes of these are its parts (`Node.parts`). What holds of a node
whenever it holds of all its parts holds of every node (`Node.induction_on_parts`).
-/

namespace TicketMarkup.Node

/-- The sequences that stand in a node, one level down. -/
def sequences : Node → List (List Node)
  | list _ items => items
  | quote children => [children]
  | styled _ children => [children]
  | link _ label _ => label.toList
  | _ => []

/-- The values that identify what a node refers to. -/
def identifiers : Node → List Json
  | .comment ticket number _ => [ticket, number]
  | reference _ id _ => [id]
  | attachment id _ ticket => [id, ticket]
  | _ => []

/-- The nodes that stand in a node, one level down. -/
def parts : Node → List Node
  | list _ items => items.flatten
  | quote children => children
  | styled _ children => children
  | link _ label _ => label.getD []
  | _ => []

/-- The parts of a node are the nodes in its sequences. -/
theorem mem_parts {m n : Node} : m ∈ n.parts ↔ ∃ s ∈ n.sequences, m ∈ s := by
  cases n with
  | list first items => exact List.mem_flatten
  | link url label text => cases label <;> simp [parts, sequences]
  | _ => simp [parts, sequences]

/-- A part is smaller than the whole, so that recursion over parts ends. -/
theorem sizeOf_lt_of_mem_parts {m n : Node} (h : m ∈ n.parts) : sizeOf m < sizeOf n := by
  cases n with
  | list first items =>
    obtain ⟨item, hitem, hm⟩ := List.mem_flatten.1 h
    have := List.sizeOf_lt_of_mem hitem
    have := List.sizeOf_lt_of_mem hm
    simp only [list.sizeOf_spec]
    omega
  | quote children =>
    have := List.sizeOf_lt_of_mem (show m ∈ children from h)
    simp only [quote.sizeOf_spec]
    omega
  | styled style children =>
    have := List.sizeOf_lt_of_mem (show m ∈ children from h)
    simp only [styled.sizeOf_spec]
    omega
  | link url label text =>
    cases label with
    | none => cases h
    | some nodes =>
      have := List.sizeOf_lt_of_mem (show m ∈ nodes from h)
      simp only [link.sizeOf_spec, Option.some.sizeOf_spec]
      omega
  | _ => cases h

/-- What holds of a node if it holds of its parts holds of every node. -/
@[elab_as_elim]
theorem induction_on_parts {motive : Node → Prop}
    (step : ∀ n : Node, (∀ m ∈ n.parts, motive m) → motive n) (n : Node) : motive n :=
  step n fun m hm =>
    have := sizeOf_lt_of_mem_parts hm
    induction_on_parts step m
termination_by sizeOf n

end TicketMarkup.Node
