import TicketMarkup.Format.Basic

/-!
# What formatting writes

Formatting writes some values as texts: the first number of a list, and the values that make up the
address of a reference, which are those of the node and those of the context (`Node.written`). If an
integer in one of them is too long to be written there is no display tree (`format?`). Whatever is
formatted otherwise is what `format` gives.

Main statements: `format?_eq_ok_iff`, and `mem_written`, what a node writes is its own or is written
by a sequence in it.
-/

namespace TicketMarkup

/-- The values of its own that formatting a node writes, in a context. -/
def Node.ownWritten (ctx : Context) : Node → List Json
  | .list first _ => (first.map Json.int).toList
  | .comment ticket number _ => [ctx.base, ticket, number]
  | .reference _ id _ => [ctx.base, id]
  | .attachment id _ ticket => [ctx.base, attachmentTicket ctx ticket, id]
  | _ => []

mutual

/-- The values that formatting a node writes, in a context. -/
def Node.written (ctx : Context) : Node → List Json
  | .list first items => Node.ownWritten ctx (.list first items) ++ itemsWritten ctx items
  | .quote children => nodesWritten ctx children
  | .styled _ children => nodesWritten ctx children
  | .link _ label _ => labelWritten ctx label
  | n => n.ownWritten ctx

/-- The values that formatting a sequence writes. -/
def nodesWritten (ctx : Context) : List Node → List Json
  | [] => []
  | node :: rest => node.written ctx ++ nodesWritten ctx rest

/-- The values that formatting the label of a link writes. -/
def labelWritten (ctx : Context) : Option (List Node) → List Json
  | none => []
  | some nodes => nodesWritten ctx nodes

/-- The values that formatting the items of a list writes. -/
def itemsWritten (ctx : Context) : List (List Node) → List Json
  | [] => []
  | item :: rest => nodesWritten ctx item ++ itemsWritten ctx rest

end

/-- A sequence of nodes as paragraphs, if all that this takes can be written. -/
def format? (ctx : Context) (nodes : List Node) : Except NumeralFault (List Display) :=
  if (nodesWritten ctx nodes).all Json.isWritable then .ok (format ctx nodes)
  else .error .unwritable

variable {ctx : Context}

/-- What is formatted is what all nodes are formatted to, and there is something exactly if all
values can be written. -/
theorem format?_eq_ok_iff {nodes : List Node} {tree : List Display} :
    format? ctx nodes = .ok tree ↔
      (∀ v ∈ nodesWritten ctx nodes, v.isWritable = true) ∧ tree = format ctx nodes := by
  unfold format?
  split
  next h =>
    rw [Except.ok.injEq, eq_comm]
    exact (and_iff_right (List.all_eq_true.1 h)).symm
  next h => exact iff_of_false (by simp) fun hall => h (List.all_eq_true.2 hall.1)

theorem mem_nodesWritten {v : Json} {nodes : List Node} :
    v ∈ nodesWritten ctx nodes ↔ ∃ n ∈ nodes, v ∈ n.written ctx := by
  induction nodes with
  | nil => simp [nodesWritten]
  | cons n rest ih => simp [nodesWritten, ih]

theorem mem_itemsWritten {v : Json} {items : List (List Node)} :
    v ∈ itemsWritten ctx items ↔ ∃ item ∈ items, v ∈ nodesWritten ctx item := by
  induction items with
  | nil => simp [itemsWritten]
  | cons item rest ih => simp [itemsWritten, ih]

example : nodesWritten ⟨.int 7, .str "u"⟩ [.quote [.attachment (.str "f") "t" .null], .str "a"] =
    [.str "u", .int 7, .str "f"] := by rfl

end TicketMarkup
