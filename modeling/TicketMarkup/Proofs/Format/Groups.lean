import TicketMarkup.Format.Paragraph

/-!
# Groups are the runs between marks

A sequence with marks is divided into groups so that nothing but the marks is lost, no group is
empty, and two members share a group exactly if no mark stands between them (`IsGrouping`). Only
`groups` does this (`isGrouping_iff`).

The group that holds a member is found by the place of the member in all the groups (`groupAt`),
which is the number of members before it in the sequence. Its number is that of the groups that end
before the member (`endedGroups`): a mark ends a group if one has begun.
-/

namespace TicketMarkup

variable {α β : Type}

/-- The number of the group that holds a member, by the place of the member in all the groups. -/
def groupAt : List (List α) → Nat → Nat
  | [], _ => 0
  | group :: rest, i => if i < group.length then 0 else groupAt rest (i - group.length) + 1

/-- The groups that end in a sequence, where a group may have begun before it. -/
def endedGroups : Bool → List (Option α) → Nat
  | _, [] => 0
  | begun, none :: rest => (if begun then 1 else 0) + endedGroups false rest
  | _, some _ :: rest => endedGroups true rest

/-- Whether groups divide a sequence at its marks. -/
structure IsGrouping (leaves : List (Option α)) (gs : List (List α)) : Prop where
  flatten : gs.flatten = withoutMarks leaves
  ne_nil : ∀ g ∈ gs, g ≠ []
  /-- Two members share a group exactly if no mark stands between them. -/
  together : ∀ a x b y c, leaves = a ++ some x :: (b ++ some y :: c) →
    (groupAt gs (withoutMarks a).length = groupAt gs (withoutMarks (a ++ some x :: b)).length ↔
      none ∉ b)

@[simp] theorem withoutMarks_none_cons (rest : List (Option α)) :
    withoutMarks (none :: rest) = withoutMarks rest := rfl

@[simp] theorem withoutMarks_some_cons (x : α) (rest : List (Option α)) :
    withoutMarks (some x :: rest) = x :: withoutMarks rest := rfl

theorem withoutMarks_append (a b : List (Option α)) :
    withoutMarks (a ++ b) = withoutMarks a ++ withoutMarks b :=
  List.filterMap_append

/-- Marks may be dropped before or after the leaves are changed. -/
theorem withoutMarks_map (f : α → β) (leaves : List (Option α)) :
    withoutMarks (leaves.map (Option.map f)) = (withoutMarks leaves).map f := by
  simp [withoutMarks, List.filterMap_map, List.map_filterMap]

/-- Leaves may be grouped before or after they are changed. -/
theorem groupsFrom_map (f : α → β) (current : List α) (leaves : List (Option α)) :
    groupsFrom (current.map f) (leaves.map (Option.map f)) =
      (groupsFrom current leaves).map (List.map f) := by
  have hclose : ∀ group : List α, closeGroup (group.map f) = (closeGroup group).map (List.map f) :=
    fun group => by cases group <;> rfl
  induction leaves generalizing current with
  | nil => exact hclose current
  | cons leaf rest ih =>
    cases leaf with
    | none =>
      rw [List.map_cons, Option.map_none, groupsFrom, groupsFrom, List.map_append, hclose]
      exact congrArg _ (ih [])
    | some x =>
      rw [List.map_cons, Option.map_some, groupsFrom, groupsFrom, ← ih, List.map_append]
      rfl

/-- Groups are found without looking at what the members are. -/
theorem groups_map (f : α → β) (leaves : List (Option α)) :
    groups (leaves.map (Option.map f)) = (groups leaves).map (List.map f) :=
  groupsFrom_map f [] leaves

/-! ## Places in groups -/

theorem groupAt_of_lt {group : List α} {i : Nat} (h : i < group.length) (rest : List (List α)) :
    groupAt (group :: rest) i = 0 := by
  rw [groupAt, if_pos h]

theorem groupAt_length_add (group : List α) (rest : List (List α)) (i : Nat) :
    groupAt (group :: rest) (group.length + i) = groupAt rest i + 1 := by
  rw [groupAt, if_neg (by omega), Nat.add_sub_cancel_left]

theorem groupAt_closeGroup_append (current : List α) (gs : List (List α)) (i : Nat) :
    groupAt (closeGroup current ++ gs) (current.length + i) =
      (if !current.isEmpty then 1 else 0) + groupAt gs i := by
  cases current with
  | nil => simp [closeGroup]
  | cons x rest =>
    have hclose : closeGroup (x :: rest) = [x :: rest] := rfl
    rw [hclose, List.singleton_append, groupAt_length_add, Nat.add_comm]
    rfl

theorem groupAt_closeGroup_of_lt {current : List α} {i : Nat} (h : i < current.length)
    (gs : List (List α)) : groupAt (closeGroup current ++ gs) i = 0 := by
  cases current with
  | nil => simp at h
  | cons x rest => exact groupAt_of_lt h gs

/-- What a group has begun with stays in it. -/
theorem groupAt_groupsFrom_of_lt {current : List α} {i : Nat} (h : i < current.length)
    (leaves : List (Option α)) : groupAt (groupsFrom current leaves) i = 0 := by
  induction leaves generalizing current with
  | nil => simpa [groupsFrom] using groupAt_closeGroup_of_lt h []
  | cons leaf rest ih =>
    cases leaf with
    | none => exact groupAt_closeGroup_of_lt h _
    | some x =>
      refine ih ?_
      rw [List.length_append]
      omega

/-- As many groups come before a member as end before it. -/
theorem groupAt_groupsFrom (current : List α) (a : List (Option α)) (x : α)
    (c : List (Option α)) :
    groupAt (groupsFrom current (a ++ some x :: c)) (current.length + (withoutMarks a).length) =
      endedGroups (!current.isEmpty) a := by
  induction a generalizing current with
  | nil =>
    rw [List.nil_append, groupsFrom]
    exact groupAt_groupsFrom_of_lt (by simp [withoutMarks]) c
  | cons leaf rest ih =>
    cases leaf with
    | none =>
      have hrest := ih []
      rw [List.length_nil, Nat.zero_add, List.isEmpty_nil, Bool.not_true] at hrest
      rw [List.cons_append, groupsFrom, endedGroups, withoutMarks_none_cons,
        groupAt_closeGroup_append, hrest]
    | some y =>
      have hplace : current.length + (withoutMarks (some y :: rest)).length =
          (current ++ [y]).length + (withoutMarks rest).length := by
        rw [withoutMarks_some_cons, List.length_append, List.length_cons, List.length_singleton]
        omega
      have hbegun : (!(current ++ [y]).isEmpty) = true := by simp
      rw [List.cons_append, groupsFrom, hplace, ih, endedGroups, hbegun]

/-- Groups that ended before a leaf, counted in two parts. -/
theorem endedGroups_append (begun : Bool) (a : List (Option α)) (x : α) (b : List (Option α)) :
    endedGroups begun (a ++ some x :: b) = endedGroups begun a + endedGroups true b := by
  induction a generalizing begun with
  | nil => simp [endedGroups]
  | cons leaf rest ih =>
    cases leaf with
    | none =>
      rw [List.cons_append, endedGroups, endedGroups, ih]
      omega
    | some y => rw [List.cons_append, endedGroups, endedGroups, ih]

/-- A group that has begun goes on until the next mark. -/
theorem endedGroups_true_eq_zero_iff {leaves : List (Option α)} :
    endedGroups true leaves = 0 ↔ none ∉ leaves := by
  induction leaves with
  | nil => simp [endedGroups]
  | cons leaf rest ih =>
    cases leaf with
    | none => simp [endedGroups]
    | some x => simpa [endedGroups] using ih

/-- A leaf stands in the group whose number is that of the groups ended before it. -/
theorem groupAt_groups (a : List (Option α)) (x : α) (c : List (Option α)) :
    groupAt (groups (a ++ some x :: c)) (withoutMarks a).length = endedGroups false a := by
  simpa [groups] using groupAt_groupsFrom [] a x c

/-- Grouping groups as is asked for. -/
theorem isGrouping_groups (leaves : List (Option α)) : IsGrouping leaves (groups leaves) where
  flatten := flatten_groups leaves
  ne_nil _ hg := ne_nil_of_mem_groups hg
  together := by
    rintro a x b y c rfl
    have hy := groupAt_groups (a ++ some x :: b) y c
    rw [List.append_assoc, List.cons_append] at hy
    rw [hy, groupAt_groups, endedGroups_append, ← endedGroups_true_eq_zero_iff]
    omega

/-! ## There is one division only -/

/-- The first member shares its group with all the members of the first group, so this is not
longer than a first group that shares in the same way. -/
theorem length_le_of_groupAt_iff {g g' : List α} {rest rest' : List (List α)} {n : Nat}
    (hpos : 0 < g.length) (hpos' : 0 < g'.length) (hn : g'.length ≤ n)
    (h : ∀ j, 0 < j → j < n → (groupAt (g :: rest) 0 = groupAt (g :: rest) j ↔
      groupAt (g' :: rest') 0 = groupAt (g' :: rest') j)) : g'.length ≤ g.length := by
  refine Nat.not_lt.1 fun hlt => ?_
  have hnext : groupAt (g :: rest) g.length = groupAt rest 0 + 1 := groupAt_length_add g rest 0
  have hshare := h g.length hpos (by omega)
  rw [groupAt_of_lt hpos, groupAt_of_lt hpos', groupAt_of_lt hlt, hnext] at hshare
  exact absurd (hshare.2 rfl) (by omega)

/-- Groups without empty ones are determined by their members in order and by which of these
share a group. -/
theorem eq_of_groupAt_iff {gs hs : List (List α)} (hgs : ∀ g ∈ gs, g ≠ []) (hhs : ∀ h ∈ hs, h ≠ [])
    (hflat : gs.flatten = hs.flatten)
    (h : ∀ i j, i < j → j < gs.flatten.length →
      (groupAt gs i = groupAt gs j ↔ groupAt hs i = groupAt hs j)) : gs = hs := by
  induction gs generalizing hs with
  | nil =>
    cases hs with
    | nil => rfl
    | cons g rest =>
      rw [List.flatten_nil, List.flatten_cons] at hflat
      exact absurd (List.append_eq_nil_iff.1 hflat.symm).1 (hhs g List.mem_cons_self)
  | cons g rest ih =>
    obtain ⟨hg, hrest⟩ := List.forall_mem_cons.1 hgs
    cases hs with
    | nil =>
      rw [List.flatten_nil, List.flatten_cons] at hflat
      exact absurd (List.append_eq_nil_iff.1 hflat).1 hg
    | cons g' rest' =>
      obtain ⟨hg', hrest'⟩ := List.forall_mem_cons.1 hhs
      have hpos := List.length_pos_iff.2 hg
      have hpos' := List.length_pos_iff.2 hg'
      have hlength : (g :: rest).flatten.length = g.length + rest.flatten.length := by simp
      have hlength' : (g :: rest).flatten.length = g'.length + rest'.flatten.length := by
        simp [hflat]
      have hle : g'.length ≤ g.length :=
        length_le_of_groupAt_iff hpos hpos' (by omega) fun j hj hjn => h 0 j hj hjn
      have hge : g.length ≤ g'.length :=
        length_le_of_groupAt_iff hpos' hpos (by omega) fun j hj hjn => (h 0 j hj hjn).symm
      obtain ⟨rfl, hflat'⟩ := List.append_inj hflat (Nat.le_antisymm hge hle)
      refine congrArg _ (ih hrest hrest' hflat' fun i j hij hj => ?_)
      have hshare := h (g.length + i) (g.length + j) (by omega) (by omega)
      simpa only [groupAt_length_add, Nat.add_right_cancel_iff] using hshare

/-- Every place in a sequence without its marks is that of a member. -/
theorem exists_member_at {leaves : List (Option α)} {i : Nat}
    (h : i < (withoutMarks leaves).length) :
    ∃ a x c, leaves = a ++ some x :: c ∧ (withoutMarks a).length = i := by
  induction leaves generalizing i with
  | nil => simp [withoutMarks] at h
  | cons leaf rest ih =>
    cases leaf with
    | none =>
      obtain ⟨a, x, c, rfl, hi⟩ := ih h
      exact ⟨none :: a, x, c, rfl, hi⟩
    | some y =>
      cases i with
      | zero => exact ⟨[], y, rest, rfl, rfl⟩
      | succ i =>
        have hlt : i < (withoutMarks rest).length := by simpa [withoutMarks] using h
        obtain ⟨a, x, c, rfl, hi⟩ := ih hlt
        exact ⟨some y :: a, x, c, rfl, by simp [withoutMarks] at hi ⊢; omega⟩

/-- Two divisions agree on which members share a group. -/
theorem IsGrouping.unique {leaves : List (Option α)} {gs hs : List (List α)}
    (hgs : IsGrouping leaves gs) (hhs : IsGrouping leaves hs) : gs = hs := by
  refine eq_of_groupAt_iff hgs.ne_nil hhs.ne_nil (hgs.flatten.trans hhs.flatten.symm) ?_
  intro i j hij hj
  rw [hgs.flatten] at hj
  obtain ⟨a, x, rest, rfl, rfl⟩ := exists_member_at (Nat.lt_trans hij hj)
  rw [withoutMarks_append, withoutMarks_some_cons, List.length_append, List.length_cons] at hj
  obtain ⟨b, y, c, rfl, hb⟩ :=
    exists_member_at (show j - (withoutMarks a).length - 1 < (withoutMarks rest).length by omega)
  have hplace : (withoutMarks (a ++ some x :: b)).length = j := by
    rw [withoutMarks_append, withoutMarks_some_cons, List.length_append, List.length_cons]
    omega
  rw [← hplace, hgs.together a x b y c rfl, hhs.together a x b y c rfl]

/-- Groups divide a sequence at its marks exactly if they are those that `groups` finds. -/
theorem isGrouping_iff {leaves : List (Option α)} {gs : List (List α)} :
    IsGrouping leaves gs ↔ gs = groups leaves :=
  ⟨fun h => h.unique (isGrouping_groups leaves), fun h => h ▸ isGrouping_groups leaves⟩

end TicketMarkup
