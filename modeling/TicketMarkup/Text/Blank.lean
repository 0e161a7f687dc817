/-!
# Blanks

The characters that count as white space at the ends of a text, and the removal of them.
`strip` is what the text renderer applies to a run of inline content, and a tree file whose
text is all blanks holds no tree.

Main statements: `strip_eq_nil_iff` (only blanks are removed whole), `exists_of_strip` (what is
removed is blank on both sides) and `isBlank_of_isWhitespace` (core's class is contained).
-/

namespace TicketMarkup.Text

/-- A blank is a Unicode white space character or one of the four separators U+001C to U+001F. -/
def isBlank (c : Char) : Bool :=
  let n := c.toNat
  (0x09 ≤ n && n ≤ 0x0D) || (0x1C ≤ n && n ≤ 0x20) || n == 0x85 || n == 0xA0 || n == 0x1680 ||
    (0x2000 ≤ n && n ≤ 0x200A) || n == 0x2028 || n == 0x2029 || n == 0x202F || n == 0x205F ||
    n == 0x3000

/-- White space in the sense of `Char.isWhitespace` is blank. -/
theorem isBlank_of_isWhitespace {c : Char} (h : c.isWhitespace = true) : isBlank c = true := by
  simp only [Char.isWhitespace, Bool.or_eq_true, decide_eq_true_eq] at h
  rcases h with ((rfl | rfl) | rfl) | rfl <;> decide

/-- The text without the blanks it starts with. -/
def stripStart (s : List Char) : List Char := s.dropWhile isBlank

/-- The text without the blanks it ends with. -/
def stripEnd (s : List Char) : List Char := (s.reverse.dropWhile isBlank).reverse

/-- The text without the blanks at its two ends. -/
def strip (s : List Char) : List Char := stripEnd (stripStart s)

/-- Whether a text holds nothing but blanks. -/
def isAllBlank (s : List Char) : Bool := s.all isBlank

theorem isBlank_of_mem_takeWhile {s : List Char} {c : Char} (h : c ∈ s.takeWhile isBlank) :
    isBlank c = true :=
  List.all_eq_true.1 List.all_takeWhile c h

theorem dropWhile_eq_nil_iff {α : Type} {p : α → Bool} {l : List α} :
    l.dropWhile p = [] ↔ ∀ x ∈ l, p x = true := by
  induction l with
  | nil => simp
  | cons a l ih =>
    cases h : p a <;> simp [h, ih]

/-- The text splits at its front into blanks and the rest. -/
theorem exists_of_stripStart (s : List Char) :
    ∃ l, (∀ c ∈ l, isBlank c = true) ∧ s = l ++ stripStart s :=
  ⟨s.takeWhile isBlank, fun _ h => isBlank_of_mem_takeWhile h, by
    simp [stripStart, List.takeWhile_append_dropWhile]⟩

/-- Only blanks are stripped at the end. -/
theorem exists_of_stripEnd (s : List Char) :
    ∃ r, (∀ c ∈ r, isBlank c = true) ∧ s = stripEnd s ++ r := by
  obtain ⟨l, hl, h⟩ := exists_of_stripStart s.reverse
  refine ⟨l.reverse, fun c hc => hl c (List.mem_reverse.1 hc), ?_⟩
  have := congrArg List.reverse h
  simpa [stripEnd, stripStart] using this

/-- What `strip` removes is blank, and it stood at the two ends. -/
theorem exists_of_strip (s : List Char) :
    ∃ l r, (∀ c ∈ l, isBlank c = true) ∧ (∀ c ∈ r, isBlank c = true) ∧ s = l ++ strip s ++ r := by
  obtain ⟨l, hl, h⟩ := exists_of_stripStart s
  obtain ⟨r, hr, h'⟩ := exists_of_stripEnd (stripStart s)
  refine ⟨l, r, hl, hr, ?_⟩
  rw [List.append_assoc]
  exact h.trans (congrArg (l ++ ·) h')

/-- Nothing is left of a text exactly if it is all blank. -/
theorem strip_eq_nil_iff {s : List Char} : strip s = [] ↔ isAllBlank s = true := by
  simp only [strip, stripEnd, stripStart, List.reverse_eq_nil_iff, isAllBlank, List.all_eq_true,
    dropWhile_eq_nil_iff, List.mem_reverse]
  constructor
  · intro h c hc
    rcases List.mem_append.1 (List.takeWhile_append_dropWhile (p := isBlank) (l := s) ▸ hc) with
      hc | hc
    · exact isBlank_of_mem_takeWhile hc
    · exact h c hc
  · exact fun h c hc => h c ((List.dropWhile_sublist _).subset hc)

end TicketMarkup.Text
