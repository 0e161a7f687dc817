/-!
# Lines

A text as the pieces between the places where a character stands, and pieces put together with a
separator between them. The lines of a text are its pieces between the line feeds.

Main statements: `join_split`, cutting a text into pieces loses nothing, and `join_lines`, the
same of lines.
-/

namespace TicketMarkup.Text

/-- The texts in order, with `sep` between each two neighbours. -/
def join (sep : List Char) : List (List Char) → List Char
  | [] => []
  | [s] => s
  | s :: t :: r => s ++ sep ++ join sep (t :: r)

/-- The pieces of a text between the places where `sep` stands: one more than there are places. -/
def split (sep : Char) : List Char → List (List Char)
  | [] => [[]]
  | c :: s =>
    if c = sep then [] :: split sep s
    else
      match split sep s with
      | [] => [[c]]
      | l :: r => (c :: l) :: r

/-- The pieces between the line feeds. -/
def lines (s : List Char) : List (List Char) := split '\n' s

@[simp] theorem join_nil (sep : List Char) : join sep [] = [] := rfl

@[simp] theorem join_singleton (sep s : List Char) : join sep [s] = s := rfl

@[simp] theorem join_cons_cons (sep s t : List Char) (r : List (List Char)) :
    join sep (s :: t :: r) = s ++ sep ++ join sep (t :: r) := rfl

/-- Even an empty text is cut into one piece. -/
theorem split_ne_nil (sep : Char) : ∀ s : List Char, split sep s ≠ []
  | [] => by simp [split]
  | c :: s => by
    unfold split
    split
    · simp
    · split <;> simp

/-- Every text has a line. -/
theorem lines_ne_nil (s : List Char) : lines s ≠ [] := split_ne_nil '\n' s

theorem join_cons_of_ne_nil (sep s : List Char) {r : List (List Char)} (h : r ≠ []) :
    join sep (s :: r) = s ++ sep ++ join sep r := by
  cases r with
  | nil => exact absurd rfl h
  | cons t r => rfl

/-- The pieces of a text, joined by the character that was cut at, are the text. -/
theorem join_split (sep : Char) : ∀ s : List Char, join [sep] (split sep s) = s
  | [] => rfl
  | c :: s => by
    have ih := join_split sep s
    unfold split
    split
    next h => rw [join_cons_of_ne_nil _ _ (split_ne_nil sep s), ih, h]; rfl
    next h =>
      split
      next h' => exact absurd h' (split_ne_nil sep s)
      next l r h' =>
        rw [h'] at ih
        cases r with
        | nil => simpa using ih
        | cons t r => simpa using ih

/-- The lines of a text, joined by line feeds, are the text. -/
theorem join_lines (s : List Char) : join ['\n'] (lines s) = s := join_split '\n' s

/-- No piece holds the character that was cut at. -/
theorem notMem_of_mem_split {sep : Char} {s l : List Char} (h : l ∈ split sep s) : sep ∉ l := by
  induction s generalizing l with
  | nil => simp_all [split]
  | cons c s ih =>
    unfold split at h
    split at h
    next =>
      rcases List.mem_cons.1 h with rfl | h
      · simp
      · exact ih h
    next hc =>
      split at h
      next h' => exact absurd h' (split_ne_nil sep s)
      next l' r h' =>
        rcases List.mem_cons.1 h with rfl | h
        · have := ih (h' ▸ List.mem_cons_self)
          simp [this, Ne.symm hc]
        · exact ih (h' ▸ List.mem_cons_of_mem _ h)

end TicketMarkup.Text
