import TicketMarkup.Text.Printable

/-!
# Quoted text

A text in quotes, as messages show it: single quotes, unless the text holds a single quote and
no double one. The backslash and the quote in use are written after a backslash, three controls
by a letter, and any other character that is not printable by its code point.

Main statement: `quotedChars_of_plain`, a text of characters that need no escape stands between
single quotes as it is.
-/

namespace TicketMarkup.Text

/-- The last `width` hexadecimal digits of a number. -/
def hexDigits (width n : Nat) : List Char :=
  (List.range width).reverse.map fun i => Nat.digitChar (n / Nat.pow 16 i % 16)

/-- The quote that a quoted text uses. -/
def quoteMark (s : List Char) : Char :=
  if s.contains '\'' && !s.contains '"' then '"' else '\''

/-- One character between the quotes `quote`. -/
def escapeChar (quote c : Char) : List Char :=
  if c = '\\' || c = quote then ['\\', c]
  else if c = '\n' then ['\\', 'n']
  else if c = '\r' then ['\\', 'r']
  else if c = '\t' then ['\\', 't']
  else if isPrintable c then [c]
  else if c.toNat < 0x100 then '\\' :: 'x' :: hexDigits 2 c.toNat
  else if c.toNat < 0x10000 then '\\' :: 'u' :: hexDigits 4 c.toNat
  else '\\' :: 'U' :: hexDigits 8 c.toNat

/-- A text in quotes. -/
def quotedChars (s : List Char) : List Char :=
  quoteMark s :: s.flatMap (escapeChar (quoteMark s)) ++ [quoteMark s]

/-- A text in quotes. -/
def quoted (s : String) : String := String.ofList (quotedChars s.toList)

/-- A text of characters that need no escape stands between single quotes as it is. -/
theorem quotedChars_of_plain {s : List Char}
    (h : ∀ c ∈ s, c ≠ '\\' ∧ c ≠ '\'' ∧ isPrintable c = true) (hn : '\n' ∉ s) (hr : '\r' ∉ s)
    (ht : '\t' ∉ s) : quotedChars s = '\'' :: s ++ ['\''] := by
  have hq : quoteMark s = '\'' := by
    have : '\'' ∉ s := fun hm => (h _ hm).2.1 rfl
    simp [quoteMark, this]
  have : s.flatMap (escapeChar '\'') = s := by
    clear hq
    induction s with
    | nil => rfl
    | cons c r ih =>
      obtain ⟨h1, h2, h3⟩ := h c (by simp)
      simp only [List.mem_cons, not_or] at hn hr ht
      rw [List.flatMap_cons, ih (fun d hd => h d (by simp [hd])) hn.2 hr.2 ht.2]
      simp [escapeChar, h1, h2, h3, Ne.symm hn.1, Ne.symm hr.1, Ne.symm ht.1]
  simp [quotedChars, hq, this]

example : quoted "it's" = "\"it's\"" := by decide +kernel
example : quoted "a\nb\x00" = "'a\\nb\\x00'" := by decide +kernel

end TicketMarkup.Text
