import TicketMarkup.Display.Markdown

/-!
# Steps of writing plain text

What the steps that a text with markup is written in do when they succeed: each node of a sequence
is written, as a piece of text, as a block, as a part of a paragraph or as an item of a list, and
then the rest of the sequence (`inlines_cons_eq_ok_iff` and its like).
-/

namespace TicketMarkup.Markdown

open Text

/-- Two steps succeed exactly if the first does and the second on what it gives. -/
theorem bind_eq_ok_iff {α β : Type} {x : Except NumeralFault α} {f : α → Except NumeralFault β}
    {b : β} : (x >>= f) = .ok b ↔ ∃ a, x = .ok a ∧ f a = .ok b := by
  cases x <;> simp [bind, Except.bind]

theorem exists_bind_iff {α β : Type} {x : Except NumeralFault α} {f : α → Except NumeralFault β} :
    (∃ b, (x >>= f) = .ok b) ↔ ∃ a, x = .ok a ∧ ∃ b, f a = .ok b := by
  cases x <;> simp [bind, Except.bind]

@[simp] theorem pure_eq_ok_iff {α : Type} {a b : α} :
    (pure a : Except NumeralFault α) = .ok b ↔ a = b := by
  simp [pure, Except.pure]

section Sequences

variable {d : Display} {ds : List Display}

theorem inlines_cons_eq_ok_iff {s : List Char} :
    inlines (d :: ds) = .ok s ↔
      ∃ a, inline d = .ok a ∧ ∃ b, inlines ds = .ok b ∧ a ++ b = s := by
  simp only [inlines, bind_eq_ok_iff, pure_eq_ok_iff]

theorem blocks_cons_eq_ok_iff {parts : List (List Char)} :
    blocks (d :: ds) = .ok parts ↔
      ∃ a, inline d = .ok a ∧ ∃ rest, blocks ds = .ok rest ∧ asBlock d a :: rest = parts := by
  simp only [blocks, bind_eq_ok_iff, pure_eq_ok_iff]

/-- A block in a paragraph ends the run of other content before it. -/
theorem paragraphParts_cons_of_block {pending : List Char} {parts : List (List Char)}
    (h : isBlock d = true) :
    paragraphParts pending (d :: ds) = .ok parts ↔
      ∃ a, inline d = .ok a ∧
        ∃ rest, paragraphParts [] ds = .ok rest ∧ strip pending :: asBlock d a :: rest = parts := by
  simp only [paragraphParts, h, if_true, bind_eq_ok_iff, pure_eq_ok_iff]

/-- What is no block goes on with the run of content before it. -/
theorem paragraphParts_cons_of_not_block {pending : List Char} {parts : List (List Char)}
    (h : isBlock d = false) :
    paragraphParts pending (d :: ds) = .ok parts ↔
      ∃ a, inline d = .ok a ∧ paragraphParts (pending ++ a) ds = .ok parts := by
  simp only [paragraphParts, h, Bool.false_eq_true, if_false, bind_eq_ok_iff]

/-- A list is written from its first item on, and the next number is one higher. -/
theorem listItems_cons_eq_ok_iff {number : Option Int} {items : List (List Char)} :
    listItems number (d :: ds) = .ok items ↔
      ∃ mark, bullet number = .ok mark ∧ ∃ body, itemBody d = .ok body ∧
        ∃ rest, listItems (number.map (· + 1)) ds = .ok rest ∧
          itemText mark body :: rest = items := by
  simp only [listItems, bind_eq_ok_iff, pure_eq_ok_iff]

end Sequences

section Lists

variable {attrs : List (String × String)} {items : List Display} {s : List Char}

/-- The number in the attributes of a list is read even if its items are not numbered. -/
theorem inline_ul_eq_ok_iff :
    inline (.element "ul" attrs items) = .ok s ↔
      ∃ first, startNumber attrs = .ok first ∧
        ∃ written, listItems none items = .ok written ∧ join ['\n'] written = s := by
  simp only [inline, TagRole.ofTag, bind_eq_ok_iff, pure_eq_ok_iff]

/-- A numbered list is written from its first number on. -/
theorem inline_ol_eq_ok_iff :
    inline (.element "ol" attrs items) = .ok s ↔
      ∃ first, startNumber attrs = .ok first ∧
        ∃ written, listItems (some first) items = .ok written ∧ join ['\n'] written = s := by
  simp only [inline, TagRole.ofTag, bind_eq_ok_iff, pure_eq_ok_iff]

end Lists

end TicketMarkup.Markdown
