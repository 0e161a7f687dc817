import TicketMarkup.Proofs.Source.Parts

/-!
# Well-formed markup

The types of nodes leave one thing open that data cannot say: a node of unknown kind could have the
tag of a kind, or a second tag among its fields. Well-formed nodes (`Node.WellFormed`) have neither,
at any level. A tree nests as deep as sequences stand in it within one another
(`sequenceNesting`); an empty sequence counts, a list without items has none.
-/

namespace TicketMarkup

namespace Node

/-- Whether a node, if it is of unknown kind, has a tag of no kind, and no other tag in its
fields. -/
def WellTagged : Node → Prop
  | unknown tag fields => Kind.ofTag? tag = none ∧ ∀ f ∈ fields, f.1 ≠ "type"
  | _ => True

/-- Whether a node and all nodes below it are well tagged. -/
inductive WellFormed : Node → Prop where
  | intro (n : Node) (tagged : n.WellTagged) (parts : ∀ m ∈ n.parts, WellFormed m) : WellFormed n

/-- A node is well formed if its tag is, and all in its sequences is. -/
theorem wellFormed_iff {n : Node} :
    n.WellFormed ↔ n.WellTagged ∧ ∀ s ∈ n.sequences, ∀ m ∈ s, m.WellFormed := by
  constructor
  · rintro ⟨_, tagged, parts⟩
    exact ⟨tagged, fun s hs m hm => parts m (mem_parts.2 ⟨s, hs, hm⟩)⟩
  · rintro ⟨tagged, hsequences⟩
    refine ⟨n, tagged, fun m hm => ?_⟩
    obtain ⟨s, hs, hms⟩ := mem_parts.1 hm
    exact hsequences s hs m hms

end Node

/-! ## Nesting -/

mutual

/-- The levels of sequences in a node. -/
def Node.nesting : Node → Nat
  | .list _ items => itemsNesting items
  | .quote children => sequenceNesting children + 1
  | .styled _ children => sequenceNesting children + 1
  | .link _ label _ => labelNesting label
  | _ => 0

/-- The levels of sequences below a sequence. -/
def sequenceNesting : List Node → Nat
  | [] => 0
  | node :: rest => max node.nesting (sequenceNesting rest)

/-- The levels of sequences in the label of a link. -/
def labelNesting : Option (List Node) → Nat
  | none => 0
  | some nodes => sequenceNesting nodes + 1

/-- The levels of sequences in the items of a list. -/
def itemsNesting : List (List Node) → Nat
  | [] => 0
  | item :: rest => max (sequenceNesting item + 1) (itemsNesting rest)

end

/-- A sequence is nested as deep as the deepest of its nodes. -/
theorem sequenceNesting_le_iff {nodes : List Node} {k : Nat} :
    sequenceNesting nodes ≤ k ↔ ∀ n ∈ nodes, n.nesting ≤ k := by
  induction nodes with
  | nil => simp [sequenceNesting]
  | cons n rest ih => rw [sequenceNesting, Nat.max_le, ih, List.forall_mem_cons]

theorem itemsNesting_le_iff {items : List (List Node)} {k : Nat} :
    itemsNesting items ≤ k ↔ ∀ s ∈ items, sequenceNesting s < k := by
  induction items with
  | nil => simp [itemsNesting]
  | cons item rest ih =>
    rw [itemsNesting, Nat.max_le, ih, List.forall_mem_cons, Nat.succ_le_iff]

/-- A node is nested one deeper than the deepest of its sequences. -/
theorem Node.nesting_le_iff {n : Node} {k : Nat} :
    n.nesting ≤ k ↔ ∀ s ∈ n.sequences, sequenceNesting s < k := by
  cases n with
  | list first items => exact itemsNesting_le_iff
  | link url label text =>
    cases label with
    | none => simp [nesting, labelNesting, sequences]
    | some nodes =>
      simp only [nesting, labelNesting, sequences, Option.toList_some, List.forall_mem_singleton,
        Nat.succ_le_iff]
  | quote | styled =>
    simp only [nesting, sequences, List.forall_mem_singleton, Nat.succ_le_iff]
  | _ => simp [nesting, sequences]

/-- A sequence has less levels below it than one more than the sequences in its nodes. -/
theorem sequenceNesting_lt_succ_iff {nodes : List Node} {k : Nat} :
    sequenceNesting nodes < k + 1 ↔ ∀ n ∈ nodes, ∀ s ∈ n.sequences, sequenceNesting s < k := by
  simp only [Nat.lt_succ_iff, sequenceNesting_le_iff, Node.nesting_le_iff]

end TicketMarkup
