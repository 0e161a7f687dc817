import TicketMarkup.Text.Blank
import TicketMarkup.Text.Lines

/-!
# Visible characters

The characters of a text that are no blanks. A text is kept in another one (`Kept`) if its visible
characters occur in the other one, in order. Taking blanks off the ends of a text keeps it
(`kept_strip`), a separator between texts keeps them (`kept_join`), and so do the lines of a text
(`kept_lines`).
-/

namespace TicketMarkup.Text

/-- The characters of a text that are no blanks, in order. -/
def visible (s : List Char) : List Char := s.filter fun c => !isBlank c

/-- Whether the visible characters of a text occur in another one, in order. -/
def Kept (s t : List Char) : Prop := (visible s).Sublist (visible t)

@[simp] theorem visible_nil : visible [] = [] := rfl

@[simp] theorem visible_append (s t : List Char) : visible (s ++ t) = visible s ++ visible t :=
  List.filter_append ..

/-- What is visible is part of the text, in its order. -/
theorem visible_sublist (s : List Char) : (visible s).Sublist s := List.filter_sublist

/-- Nothing is visible in blanks. -/
theorem visible_eq_nil {s : List Char} (h : ∀ c ∈ s, isBlank c = true) : visible s = [] :=
  List.filter_eq_nil_iff.2 fun c hc => by simp [h c hc]

/-- Stripping keeps all that is visible. -/
theorem visible_strip (s : List Char) : visible (strip s) = visible s := by
  obtain ⟨l, r, hl, hr, h⟩ := exists_of_strip s
  rw [h, visible_append, visible_append, visible_eq_nil hl, visible_eq_nil hr, List.nil_append,
    List.append_nil, ← h]

namespace Kept

variable {s t u v : List Char}

theorem of_sublist (h : s.Sublist t) : Kept s t := h.filter _

/-- Texts that show the same keep what is visible in each other. -/
theorem of_visible_eq (h : visible s = visible t) : Kept s t :=
  show (visible s).Sublist (visible t) from h ▸ List.Sublist.refl _

theorem refl (s : List Char) : Kept s s := List.Sublist.refl _

theorem trans (h : Kept s t) (h' : Kept t u) : Kept s u := List.Sublist.trans h h'

/-- What two texts keep is kept where they are put together. -/
theorem append (h : Kept s t) (h' : Kept u v) : Kept (s ++ u) (t ++ v) := by
  unfold Kept
  rw [visible_append, visible_append]
  exact List.Sublist.append h h'

/-- What is kept in a part of a text is kept in the text. -/
theorem within (h : Kept s t) (before after : List Char) : Kept s (before ++ t ++ after) :=
  h.trans (of_sublist ((List.sublist_append_right _ _).trans (List.sublist_append_left _ _)))

/-- The visible characters of a text that is kept occur in the other one, in order. -/
theorem sublist (h : Kept s t) : (visible s).Sublist t := List.Sublist.trans h (visible_sublist t)

end Kept

theorem kept_nil (t : List Char) : Kept [] t := List.nil_sublist _

theorem kept_strip (s : List Char) : Kept s (strip s) := .of_visible_eq (visible_strip s).symm

/-- Texts are kept when they are joined. -/
theorem kept_join (sep : List Char) (parts : List (List Char)) :
    Kept parts.flatten (join sep parts) := by
  induction parts with
  | nil => exact Kept.refl []
  | cons part rest ih =>
    cases rest with
    | nil => simpa using Kept.refl part
    | cons next rest =>
      rw [join_cons_cons, List.flatten_cons, List.append_assoc]
      refine (Kept.refl part).append (ih.trans ?_)
      exact Kept.of_sublist (List.sublist_append_right _ _)

/-- What each part keeps is kept where the parts are put together. -/
theorem kept_flatten_map {f : List Char → List Char} {parts : List (List Char)}
    (h : ∀ part ∈ parts, Kept part (f part)) : Kept parts.flatten (parts.map f).flatten := by
  induction parts with
  | nil => exact Kept.refl []
  | cons part rest ih =>
    obtain ⟨hpart, hrest⟩ := List.forall_mem_cons.1 h
    exact hpart.append (ih hrest)

/-- Line feeds are blanks, so nothing visible is lost with them. -/
theorem visible_join_lineFeed (parts : List (List Char)) :
    visible (join ['\n'] parts) = visible parts.flatten := by
  induction parts with
  | nil => rfl
  | cons part rest ih =>
    cases rest with
    | nil => simp
    | cons next rest =>
      have hsep : visible ['\n'] = [] := by decide
      rw [join_cons_cons, List.flatten_cons, visible_append, visible_append, ih, visible_append,
        hsep, List.append_nil]

/-- The lines of a text hold all that is visible in it. -/
theorem kept_lines (s : List Char) : Kept s (lines s).flatten :=
  .of_visible_eq (by rw [← visible_join_lineFeed, join_lines])

end TicketMarkup.Text
