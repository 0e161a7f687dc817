/-!
# Characters and texts

A property of characters is given by the ranges of the code points that have it, in order. Every
script with decimal digits has its ten digits in a row, from zero to nine (Unicode 14, general
category Nd); a numeral may be written in any of them. Texts and sequences of texts are ordered part
by part: at the first place where they differ, by the code points that stand there, and a beginning
comes before the whole.

Main statements: `digitValue?_lt` (a digit is worth less than ten), and `listLe_refl` and
`listLe_append` (a sequence comes before what it begins).
-/

namespace TicketMarkup.Text

/-! ## Ranges of code points -/

/-- The code points from a first one to a last one, both included. -/
abbrev CodeRange := Nat × Nat

/-- Whether a code point lies in one of the ranges. -/
def covers (ranges : List CodeRange) (n : Nat) : Bool :=
  ranges.any fun r => r.1 ≤ n && n ≤ r.2

theorem covers_eq_true_iff {ranges : List CodeRange} {n : Nat} :
    covers ranges n = true ↔ ∃ r ∈ ranges, r.1 ≤ n ∧ n ≤ r.2 := by
  simp [covers, List.any_eq_true]

/-! ## Decimal digits -/

/-- The code points of the digits zero, in order. -/
def digitZeros : List Nat :=
  [0x30, 0x660, 0x6F0, 0x7C0, 0x966, 0x9E6, 0xA66, 0xAE6,
   0xB66, 0xBE6, 0xC66, 0xCE6, 0xD66, 0xDE6, 0xE50, 0xED0,
   0xF20, 0x1040, 0x1090, 0x17E0, 0x1810, 0x1946, 0x19D0, 0x1A80,
   0x1A90, 0x1B50, 0x1BB0, 0x1C40, 0x1C50, 0xA620, 0xA8D0, 0xA900,
   0xA9D0, 0xA9F0, 0xAA50, 0xABF0, 0xFF10, 0x104A0, 0x10D30, 0x11066,
   0x110F0, 0x11136, 0x111D0, 0x112F0, 0x11450, 0x114D0, 0x11650, 0x116C0,
   0x11730, 0x118E0, 0x11950, 0x11C50, 0x11D50, 0x11DA0, 0x16A60, 0x16AC0,
   0x16B50, 0x1D7CE, 0x1D7D8, 0x1D7E2, 0x1D7EC, 0x1D7F6, 0x1E140, 0x1E2F0,
   0x1E950, 0x1FBF0]

/-- What a decimal digit is worth. -/
def digitValue? (c : Char) : Option Nat :=
  (digitZeros.find? fun z => z ≤ c.toNat && c.toNat < z + 10).map (c.toNat - ·)

theorem digitValue?_lt {c : Char} {d : Nat} (h : digitValue? c = some d) : d < 10 := by
  obtain ⟨z, hz, rfl⟩ := Option.map_eq_some_iff.1 h
  have := List.find?_some hz
  simp only [Bool.and_eq_true, decide_eq_true_eq] at this
  omega

/-! ## Order -/

/-- Whether a list comes before another or is equal, where `before` orders what differs. -/
def listLe {α : Type} [DecidableEq α] (before : α → α → Bool) : List α → List α → Bool
  | [], _ => true
  | _ :: _, [] => false
  | a :: s, b :: t => if a = b then listLe before s t else before a b

/-- Whether a text comes before another or is equal. -/
def le (s t : String) : Bool := listLe (fun c d => c.toNat < d.toNat) s.toList t.toList

theorem listLe_append {α : Type} [DecidableEq α] (before : α → α → Bool) (s t : List α) :
    listLe before s (s ++ t) = true := by
  induction s with
  | nil => rfl
  | cons a s ih => simp [listLe, ih]

theorem listLe_refl {α : Type} [DecidableEq α] (before : α → α → Bool) (s : List α) :
    listLe before s s = true := by
  simpa using listLe_append before s []

example : le "B" "a" = true ∧ le "a" "B" = false ∧ le "a" "a.b" = true := by decide +kernel

end TicketMarkup.Text
