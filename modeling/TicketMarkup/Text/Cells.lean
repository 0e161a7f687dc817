import TicketMarkup.Text.CellWidth

/-!
# Cells of a text

How many cells of a terminal a text takes. It is not always the sum over its characters: a joiner
draws the next character into the one before it, and a selector asks for the emoji form of the
character before it. Between two characters that take cells of their own a text can be cut.

Main statements: `cells_append` (a text is measured from left to right), `cells_eq_of_plain`
(without joiners and selectors it is a sum) and `cells_cut` (a text that is cut to a width takes
that width, unless it took less before or begins with a joiner).
-/

namespace TicketMarkup.Text

/-- Draws the character after it into the one before it. -/
def joiner : Char := '\u200d'

/-- Asks for the emoji form of the character before it. -/
def emojiSelector : Char := '\ufe0f'

theorem cellWidth_joiner : cellWidth joiner = 0 := by decide +kernel

theorem cellWidth_emojiSelector : cellWidth emojiSelector = 0 := by decide +kernel

theorem cellWidth_space : cellWidth ' ' = 1 := cellWidth_of_ascii (by decide) (by decide)

/-- What the text before a character means for the cells that the character adds. -/
structure CellContext where
  /-- A selector widens the last character that took cells. -/
  widens : Bool
  /-- A joiner stands right before. -/
  joined : Bool
  deriving DecidableEq

namespace CellContext

/-- Where a text begins. -/
def start : CellContext := ⟨false, false⟩

/-- The cells that a character adds. -/
def width (x : CellContext) (c : Char) : Nat :=
  if x.joined then 0
  else if c = emojiSelector then (if x.widens then 1 else 0)
  else cellWidth c

/-- What a character leaves to the one after it. A selector counts once, and a character that takes
no cell is passed over. -/
def next (x : CellContext) (c : Char) : CellContext :=
  if x.joined then ⟨x.widens, false⟩
  else if c = joiner then ⟨x.widens, true⟩
  else if c = emojiSelector then ⟨false, false⟩
  else if cellWidth c = 0 then x
  else ⟨covers widenable c.toNat, false⟩

/-- What a text leaves to the character after it. -/
def after (x : CellContext) (s : List Char) : CellContext := s.foldl next x

/-- The cells that a text adds. -/
def cells : CellContext → List Char → Nat
  | _, [] => 0
  | x, c :: s => x.width c + (x.next c).cells s

/-- Of two joiners in a row the second joins nothing. -/
theorem joined_next (x : CellContext) (c : Char) :
    (x.next c).joined = (!x.joined && c == joiner) := by
  unfold next
  cases hj : x.joined
  · by_cases h : c = joiner
    · simp [h]
    · by_cases hs : c = emojiSelector
      · simp [hs, show emojiSelector ≠ joiner by decide]
      · by_cases hw : cellWidth c = 0 <;> simp [h, hs, hw, hj]
  · simp

/-- A text takes the cells of its first part and those of the rest as it is read after that. -/
theorem cells_append (x : CellContext) (s t : List Char) :
    x.cells (s ++ t) = x.cells s + (x.after s).cells t := by
  induction s generalizing x with
  | nil => simp [cells, after]
  | cons c s ih => simp [cells, after, ih, Nat.add_assoc]

/-- Spaces take a cell each. -/
theorem cells_replicate_space {x : CellContext} (h : x.joined = false) (n : Nat) :
    x.cells (List.replicate n ' ') = n := by
  induction n generalizing x with
  | zero => rfl
  | succ n ih =>
    have hw : x.width ' ' = 1 := by
      simp [width, h, show ' ' ≠ emojiSelector by decide, cellWidth_space]
    have hj : (x.next ' ').joined = false := by
      simp [joined_next, show ' ' ≠ joiner by decide]
    rw [List.replicate_succ, cells, hw, ih hj, Nat.add_comm]

end CellContext

/-- The cells that a text takes. -/
def cells (s : List Char) : Nat := CellContext.start.cells s

/-- Without joiners and selectors the widths of the characters add up. -/
theorem cells_eq_of_plain {s : List Char} (h : ∀ c ∈ s, c ≠ joiner ∧ c ≠ emojiSelector) :
    cells s = (s.map cellWidth).foldr (· + ·) 0 := by
  suffices ∀ x : CellContext, x.joined = false →
      x.cells s = (s.map cellWidth).foldr (· + ·) 0 from this _ rfl
  induction s with
  | nil => exact fun _ _ => rfl
  | cons c s ih =>
    intro x hx
    obtain ⟨hj, hs⟩ := h c List.mem_cons_self
    have hn : (x.next c).joined = false := by simp [CellContext.joined_next, hj]
    rw [CellContext.cells, ih (fun c hc => h c (List.mem_cons_of_mem _ hc)) _ hn]
    simp [CellContext.width, hx, hs]

/-! ## Cutting -/

/-- Divides a text before each character that takes cells of its own. What stands before the first
such character comes first; `joined` says that a joiner stands before the text. -/
def clusters (joined : Bool) : List Char → List Char × List (List Char)
  | [] => ([], [])
  | c :: s =>
    let r := clusters (!joined && c == joiner) s
    if joined || cellWidth c == 0 then (c :: r.1, r.2) else ([], (c :: r.1) :: r.2)

/-- Clusters are the text cut into pieces. -/
theorem append_flatten_clusters (joined : Bool) (s : List Char) :
    (clusters joined s).1 ++ (clusters joined s).2.flatten = s := by
  induction s generalizing joined with
  | nil => rfl
  | cons c s ih =>
    have := ih (!joined && c == joiner)
    unfold clusters
    split <;> simpa using this

/-- The clusters that have room in a number of cells. A cluster with room for its half only leaves
a space. -/
def takeClusters (room : Nat) : List (List Char) → List Char
  | [] => []
  | c :: r =>
    if cells c ≤ room then c ++ takeClusters (room - cells c) r else List.replicate room ' '

/-- The beginning of a text that has room in a number of cells. A joiner in front has nothing to
draw a character into, so a text can be cut before the character after it. -/
def cut (room : Nat) (s : List Char) : List Char :=
  let front := if s.head? = some joiner then 1 else 0
  let r := clusters false (s.drop front)
  s.take front ++ r.1 ++ takeClusters room r.2

namespace CellContext

/-- What is joined to the character before the text takes no cells. -/
theorem cells_fst_clusters {x : CellContext} (h : x.widens = false) (s : List Char) :
    x.cells (clusters x.joined s).1 = 0 := by
  induction s generalizing x with
  | nil => rfl
  | cons c s ih =>
    unfold clusters
    split
    next hc =>
      have hw : x.width c = 0 ∧ (x.next c).widens = false := by
        simp only [Bool.or_eq_true, beq_iff_eq] at hc
        rcases hc with hc | hc
        · simp [width, next, hc, h]
        · unfold width next
          repeat' split
          all_goals simp_all
      have := ih hw.2
      rw [joined_next] at this
      simpa [cells, hw.1] using this
    next => rfl

/-- Clusters are taken as long as there is room, and a space fills half of a wide one. -/
theorem cells_takeClusters (x : CellContext) (room : Nat) (s : List Char) :
    x.cells ((clusters x.joined s).1 ++ takeClusters room (clusters x.joined s).2) =
      min (x.cells s) (x.cells (clusters x.joined s).1 + room) := by
  induction s generalizing x room with
  | nil => simp [clusters, takeClusters, cells]
  | cons c s ih =>
    have ih := ih (x.next c)
    rw [joined_next] at ih
    unfold clusters
    split
    next => simp [cells, ih, Nat.add_min_add_left, Nat.add_assoc]
    next hc =>
      simp only [Bool.or_eq_true, beq_iff_eq, not_or, Bool.not_eq_true] at hc
      obtain ⟨hj, hw⟩ := hc
      have hc : c ≠ joiner := fun e => hw (e ▸ cellWidth_joiner)
      have hs : c ≠ emojiSelector := fun e => hw (e ▸ cellWidth_emojiSelector)
      have hn : start.next c = x.next c := by simp [next, hj, hc, hs, hw, start]
      have hwidth : start.width c = x.width c := by simp [width, hj, hs, start]
      generalize hr : clusters (!x.joined && c == joiner) s = r at ih
      have hcells : Text.cells (c :: r.1) = x.width c + (x.next c).cells r.1 := by
        rw [Text.cells, cells, hn, hwidth]
      simp only [List.nil_append, takeClusters, cells, Nat.zero_add]
      split
      next hroom =>
        rw [List.cons_append, cells, ih]
        omega
      next hroom =>
        rw [cells_replicate_space hj]
        have h₀ := ih 0
        rw [cells_append] at h₀
        omega

end CellContext

/-- A text that is cut takes all the room, or all its cells if these are fewer. -/
theorem cells_cut (room : Nat) {s : List Char} (hs : s.head? ≠ some joiner) :
    cells (cut room s) = min (cells s) room := by
  have h := CellContext.cells_takeClusters .start room s
  rw [CellContext.cells_fst_clusters rfl, Nat.zero_add] at h
  rwa [cut, if_neg hs]

example : cells ['❤', '\ufe0f'] = 2 ∧ cells ['👩', '\u200d', '👧'] = 2 := by decide +kernel
example : cut 2 ['a', '日'] = ['a', ' '] := by decide +kernel

end TicketMarkup.Text
