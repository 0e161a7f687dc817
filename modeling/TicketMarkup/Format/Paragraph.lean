/-!
# Paragraphs

Siblings are grouped into paragraphs at the paragraph marks between them. A sequence with marks is
a list of options, `none` being a mark. Marks only separate: those at the ends, and several in a
row, make no empty group.

Main statements: `flatten_groups` (nothing but the marks is lost), `ne_nil_of_mem_groups` (no group
is empty) and `groups_append_mark` (a mark separates what stands before from what stands after).
-/

namespace TicketMarkup

variable {α : Type}

/-- A group as a list of groups, none if it is empty. -/
def closeGroup : List α → List (List α)
  | [] => []
  | group => [group]

/-- The groups of a sequence, the first of which has begun with `current`. -/
def groupsFrom (current : List α) : List (Option α) → List (List α)
  | [] => closeGroup current
  | none :: rest => closeGroup current ++ groupsFrom [] rest
  | some x :: rest => groupsFrom (current ++ [x]) rest

/-- The maximal runs without marks that are not empty. -/
def groups (leaves : List (Option α)) : List (List α) := groupsFrom [] leaves

/-- The members of a sequence without its marks. -/
def withoutMarks (leaves : List (Option α)) : List α := leaves.filterMap id

theorem withoutMarks_cons (leaf : Option α) (rest : List (Option α)) :
    withoutMarks (leaf :: rest) = leaf.toList ++ withoutMarks rest := by
  cases leaf <;> rfl

theorem flatten_closeGroup (group : List α) : (closeGroup group).flatten = group := by
  cases group <;> simp [closeGroup]

theorem ne_nil_of_mem_closeGroup {current group : List α} (h : group ∈ closeGroup current) :
    group ≠ [] := by
  cases current with
  | nil => simp [closeGroup] at h
  | cons x rest =>
    simp only [closeGroup, List.mem_singleton] at h
    simp [h]

/-- Grouping drops the marks and keeps all else in its order. -/
theorem flatten_groupsFrom (current : List α) (leaves : List (Option α)) :
    (groupsFrom current leaves).flatten = current ++ withoutMarks leaves := by
  induction leaves generalizing current with
  | nil => simp [groupsFrom, flatten_closeGroup, withoutMarks]
  | cons leaf rest ih =>
    cases leaf with
    | none => simp [groupsFrom, flatten_closeGroup, ih, withoutMarks]
    | some x => simp [groupsFrom, ih, withoutMarks]

/-- Nothing but the marks is lost. -/
theorem flatten_groups (leaves : List (Option α)) :
    (groups leaves).flatten = withoutMarks leaves :=
  flatten_groupsFrom [] leaves

/-- No group is empty. -/
theorem ne_nil_of_mem_groupsFrom {current group : List α} {leaves : List (Option α)}
    (h : group ∈ groupsFrom current leaves) : group ≠ [] := by
  induction leaves generalizing current with
  | nil => exact ne_nil_of_mem_closeGroup h
  | cons leaf rest ih =>
    cases leaf with
    | none =>
      rcases List.mem_append.1 h with h | h
      · exact ne_nil_of_mem_closeGroup h
      · exact ih h
    | some x => exact ih h

/-- No group is empty. -/
theorem ne_nil_of_mem_groups {group : List α} {leaves : List (Option α)}
    (h : group ∈ groups leaves) : group ≠ [] :=
  ne_nil_of_mem_groupsFrom h

/-- What stands before a mark and what stands behind it are grouped on their own. -/
theorem groupsFrom_append_mark (current : List α) (before after : List (Option α)) :
    groupsFrom current (before ++ none :: after) = groupsFrom current before ++ groups after := by
  induction before generalizing current with
  | nil => rfl
  | cons leaf rest ih =>
    cases leaf with
    | none => simp [groupsFrom, ih]
    | some x => simp [groupsFrom, ih]

/-- A mark separates what stands before it from what stands after it. -/
theorem groups_append_mark (before after : List (Option α)) :
    groups (before ++ none :: after) = groups before ++ groups after :=
  groupsFrom_append_mark [] before after

end TicketMarkup
