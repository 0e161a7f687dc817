import TicketMarkup.Format.Basic
import TicketMarkup.Proofs.Format.Groups

/-!
# Siblings in paragraphs and in inline content

The two ways to format siblings agree (`Layout`). Inline content has one formatted node for every
sibling that is no paragraph break, in order. The paragraphs hold the same nodes in the same order,
none of them is empty, and two siblings stand in one paragraph exactly if no paragraph break stands
between them. Breaks inside of the siblings make no difference.
-/

namespace TicketMarkup

/-- How siblings stand in paragraphs and in inline content, where `leafOf` formats a sibling. -/
structure Layout {ν δ : Type} (isBreak : ν → Bool) (leafOf : ν → Option δ) (siblings : List ν)
    (paragraphs : List (List δ)) (inline : List δ) : Prop where
  flatten : paragraphs.flatten = inline
  formatted : inline.map some = (siblings.filter fun n => !isBreak n).map leafOf
  ne_nil : ∀ p ∈ paragraphs, p ≠ []
  /-- Two siblings that are no breaks share a paragraph exactly if no break stands between them. The
  place of what a sibling is formatted to is the number of siblings before it that are no breaks. -/
  together : ∀ a n b m c, siblings = a ++ n :: (b ++ m :: c) →
    isBreak n = false → isBreak m = false →
    (groupAt paragraphs (a.countP fun k => !isBreak k) =
        groupAt paragraphs ((a ++ n :: b).countP fun k => !isBreak k) ↔
      ∀ k ∈ b, isBreak k = false)

section

variable {ν δ : Type} {isBreak : ν → Bool} {leafOf : ν → Option δ} {siblings : List ν}

/-- Leaves without the marks are those of the siblings that are no breaks. -/
theorem map_some_withoutMarks_map
    (h : ∀ n ∈ siblings, (leafOf n = none ↔ isBreak n = true)) :
    (withoutMarks (siblings.map leafOf)).map some =
      (siblings.filter fun n => !isBreak n).map leafOf := by
  induction siblings with
  | nil => rfl
  | cons n rest ih =>
    obtain ⟨hn, hrest⟩ := List.forall_mem_cons.1 h
    cases hleaf : leafOf n with
    | none =>
      rw [List.map_cons, hleaf, withoutMarks_none_cons, ih hrest,
        List.filter_cons_of_neg (by simp [hn.1 hleaf])]
    | some d =>
      have hbreak : isBreak n = false := by
        rw [← Bool.not_eq_true, ← hn, hleaf]
        simp
      rw [List.map_cons, hleaf, withoutMarks_some_cons, List.map_cons, ih hrest,
        List.filter_cons_of_pos (by simp [hbreak]), List.map_cons, hleaf]

theorem length_withoutMarks_map (h : ∀ n ∈ siblings, (leafOf n = none ↔ isBreak n = true)) :
    (withoutMarks (siblings.map leafOf)).length = siblings.countP fun n => !isBreak n := by
  have hlength := congrArg List.length (map_some_withoutMarks_map h)
  rwa [List.length_map, List.length_map, ← List.countP_eq_length_filter] at hlength

theorem none_mem_map_iff (h : ∀ n ∈ siblings, (leafOf n = none ↔ isBreak n = true)) :
    none ∉ siblings.map leafOf ↔ ∀ n ∈ siblings, isBreak n = false := by
  rw [List.mem_map, not_exists]
  refine forall_congr' fun n => ?_
  rw [not_and]
  refine forall_congr' fun hn => ?_
  rw [h n hn, Bool.not_eq_true]

/-- Siblings are laid out by grouping what they are formatted to, if that is a mark exactly for
breaks. -/
theorem layout_groups (h : ∀ n ∈ siblings, (leafOf n = none ↔ isBreak n = true)) :
    Layout isBreak leafOf siblings (groups (siblings.map leafOf))
      (withoutMarks (siblings.map leafOf)) where
  flatten := flatten_groups _
  formatted := map_some_withoutMarks_map h
  ne_nil _ hp := ne_nil_of_mem_groups hp
  together := by
    rintro a n b m c rfl hn hm
    simp only [List.forall_mem_append, List.forall_mem_cons] at h
    obtain ⟨ha, hnleaf, hb, hmleaf, -⟩ := h
    obtain ⟨x, hx⟩ : ∃ x, leafOf n = some x :=
      Option.ne_none_iff_exists'.1 fun hnone => by simp [hnleaf.1 hnone] at hn
    obtain ⟨y, hy⟩ : ∃ y, leafOf m = some y :=
      Option.ne_none_iff_exists'.1 fun hnone => by simp [hmleaf.1 hnone] at hm
    have htogether := (isGrouping_groups ((a ++ n :: (b ++ m :: c)).map leafOf)).together
      (a.map leafOf) x (b.map leafOf) y (c.map leafOf) (by simp [hx, hy])
    have hupto : ∀ k ∈ a ++ n :: b, (leafOf k = none ↔ isBreak k = true) := by
      simpa only [List.forall_mem_append, List.forall_mem_cons] using ⟨ha, hnleaf, hb⟩
    have hplace := length_withoutMarks_map hupto
    rw [List.map_append, List.map_cons, hx] at hplace
    rwa [length_withoutMarks_map ha, hplace, none_mem_map_iff hb] at htogether

end

/-- Only a paragraph break is formatted to a mark. -/
theorem format_eq_none_iff (ctx : Context) (n : Node) :
    n.format ctx = none ↔ n.isBreak = true := by
  cases n <;> simp [Node.format, Node.isBreak]

/-- Nodes formatted as paragraphs and as inline content. -/
theorem layout_format (ctx : Context) (nodes : List Node) :
    ∃ paragraphs, format ctx nodes = paragraphs.map (Display.plain "p") ∧
      Layout Node.isBreak (Node.format ctx) nodes paragraphs (formatInline ctx nodes) := by
  refine ⟨groups (leaves ctx nodes), rfl, ?_⟩
  rw [formatInline, leaves_eq_map]
  exact layout_groups fun n _ => format_eq_none_iff ctx n

end TicketMarkup
