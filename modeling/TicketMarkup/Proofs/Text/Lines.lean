import TicketMarkup.Text.Lines

/-!
# Lines of texts put together

A line feed between two texts keeps their lines apart (`lines_append_newline`). So lines that are
joined by line feeds are the lines of the whole (`lines_join`), and a text that is joined to others,
by one line feed or by several, keeps its lines, one after the other (`lines_infix_join`).
-/

namespace TicketMarkup.Text

/-- A text without separators is one piece. -/
theorem split_of_notMem {sep : Char} {s : List Char} (h : sep ∉ s) : split sep s = [s] := by
  induction s with
  | nil => rfl
  | cons c s ih =>
    obtain ⟨hc, hs⟩ := not_or.1 (mt List.mem_cons.2 h)
    simp [split, Ne.symm hc, ih hs]

theorem lines_newline_cons (s : List Char) : lines ('\n' :: s) = [] :: lines s := rfl

/-- A line feed divides the lines before it from those after it. -/
theorem lines_append_newline (s t : List Char) :
    lines (s ++ '\n' :: t) = lines s ++ lines t := by
  induction s with
  | nil => rfl
  | cons c s ih =>
    by_cases hc : c = '\n'
    · subst hc
      rw [List.cons_append, lines_newline_cons, lines_newline_cons, ih, List.cons_append]
    · obtain ⟨first, rest, hlines⟩ := List.exists_cons_of_ne_nil (lines_ne_nil s)
      rw [hlines] at ih
      unfold lines at ih hlines ⊢
      simp [split, hc, ih, hlines]

/-- No line has a line feed in it. -/
theorem notMem_of_mem_lines {s line : List Char} (h : line ∈ lines s) : '\n' ∉ line :=
  notMem_of_mem_split h

/-- Lines that are put together are the lines of what they make. -/
theorem lines_join {ls : List (List Char)} (h : ∀ l ∈ ls, '\n' ∉ l) (hne : ls ≠ []) :
    lines (join ['\n'] ls) = ls := by
  induction ls with
  | nil => exact absurd rfl hne
  | cons l rest ih =>
    obtain ⟨hl, hrest⟩ := List.forall_mem_cons.1 h
    have hline : lines l = [l] := split_of_notMem hl
    by_cases hnil : rest = []
    · rw [hnil, join_singleton, hline]
    · rw [join_cons_of_ne_nil _ _ hnil, List.append_assoc, List.singleton_append,
        lines_append_newline, hline, ih hrest hnil, List.singleton_append]

/-- The lines of texts that are joined by line feeds are the lines of each, in order. -/
theorem lines_join_eq_flatMap {pieces : List (List Char)} (h : pieces ≠ []) :
    lines (join ['\n'] pieces) = pieces.flatMap lines := by
  induction pieces with
  | nil => exact absurd rfl h
  | cons piece rest ih =>
    by_cases hnil : rest = []
    · subst hnil
      simp
    · rw [join_cons_of_ne_nil _ _ hnil, List.append_assoc, List.singleton_append,
        lines_append_newline, ih hnil, List.flatMap_cons]

/-- Line feeds in front leave the lines at the end. -/
theorem lines_suffix_newlines_append (n : Nat) (s : List Char) :
    lines s <:+ lines (List.replicate n '\n' ++ s) := by
  induction n with
  | zero => exact List.suffix_refl _
  | succ n ih =>
    rw [List.replicate_succ, List.cons_append, lines_newline_cons]
    exact ih.trans (List.suffix_cons _ _)

/-- A text that is joined to others by line feeds keeps its lines. -/
theorem lines_infix_join (n : Nat) {s : List Char} {pieces : List (List Char)} (h : s ∈ pieces) :
    lines s <:+: lines (join (List.replicate (n + 1) '\n') pieces) := by
  induction pieces with
  | nil => cases h
  | cons piece rest ih =>
    by_cases hnil : rest = []
    · subst hnil
      rw [List.mem_singleton.1 h]
      exact List.infix_refl _
    · rw [join_cons_of_ne_nil _ _ hnil, List.replicate_succ, List.append_assoc, List.cons_append,
        lines_append_newline]
      rcases List.mem_cons.1 h with rfl | h
      · exact (List.prefix_append _ _).isInfix
      · have hrest := (lines_suffix_newlines_append n (join (List.replicate (n + 1) '\n') rest))
        rw [List.replicate_succ] at hrest
        have hsuffix := hrest.trans (List.suffix_append (lines piece) _)
        exact (ih h).trans hsuffix.isInfix

/-- A text that has the lines of another one that is not empty is not empty. -/
theorem ne_nil_of_infix_lines {s t : List Char} (hs : s ≠ []) (h : lines s <:+: lines t) :
    t ≠ [] := by
  rintro rfl
  obtain ⟨first, rest, hlines⟩ := List.exists_cons_of_ne_nil (lines_ne_nil s)
  have hlength : (lines s).length ≤ 1 := h.length_le
  have hmem : ∀ line ∈ lines s, line = [] := fun line hline =>
    List.mem_singleton.1 (h.subset hline)
  rw [hlines] at hlength hmem
  have hrest : rest = [] := List.eq_nil_of_length_eq_zero (by simpa using hlength)
  refine hs ?_
  rw [← join_lines s, hlines, hrest, hmem first List.mem_cons_self, join_singleton]

end TicketMarkup.Text
