import TicketMarkup.Number.Numeral

/-!
# Whole numbers

Integers as settings and options write them. `readWhole` is more lenient than `read` in what may
stand around the figures: zeros in front, with underscores among them, and a fraction of zeros. It
is stricter in the figures themselves, which have to be ASCII digits. The digit limit counts the
figures that are left.

Main statements: `dropZeros_of_ne` (what begins with neither a zero nor an underscore is kept) and
`dropFraction_of_notMem` (what has no point has no fraction).
-/

namespace TicketMarkup.Numeral

/-- A blank that may stand around a whole number: a Unicode white space character. -/
def isWhiteSpace (c : Char) : Bool := Text.isBlank c && !(0x1C ≤ c.toNat && c.toNat ≤ 0x1F)

/-- A number without the zeros in front of it and the underscores among them. The last character
is kept, and so is one before a point. -/
def dropZeros : List Char → List Char
  | [] => []
  | [c] => [c]
  | c :: d :: s => if (c = '0' || c = '_') && d ≠ '.' then dropZeros (d :: s) else c :: d :: s

theorem dropZeros_of_ne {c : Char} (s : List Char) (h₀ : c ≠ '0') (h₁ : c ≠ '_') :
    dropZeros (c :: s) = c :: s := by
  cases s <;> simp [dropZeros, h₀, h₁]

/-- A number without its fraction, which has to be of zeros, and of one at least. -/
def dropFraction (s : List Char) : Option (List Char) :=
  match s.dropWhile (· ≠ '.') with
  | [] => some s
  | _ :: zeros =>
    if zeros ≠ [] && zeros.all (· = '0') then some (s.takeWhile (· ≠ '.')) else none

theorem dropFraction_of_notMem {s : List Char} (h : '.' ∉ s) : dropFraction s = some s := by
  have : s.dropWhile (· ≠ '.') = [] :=
    Text.dropWhile_eq_nil_iff.2 fun c hc => by
      have : c ≠ '.' := fun he => h (he ▸ hc)
      simpa using this
  simp only [dropFraction, this]

/-- The number that figures stand for: digits, no zero in front of others, and not too many. -/
def ofFigures (figures : List Char) : Option Nat :=
  if figures ≠ [] && figures.all Char.isDigit && (figures.head? ≠ some '0' || figures.length = 1) &&
      figures.length ≤ digitLimit then
    some (Nat.ofDigitChars 10 figures 0)
  else none

/-- Reads a whole number. It starts with one sign at most and then with a digit; where the sign is
no minus, a minus may follow the zeros in front. -/
def readWhole (s : String) : Option Int :=
  let unpadded := ((s.toList.dropWhile isWhiteSpace).reverse.dropWhile isWhiteSpace).reverse
  let (negative, body) := splitSign unpadded
  if (body.head?.map Char.isDigit).getD false then
    match dropFraction (dropZeros body) with
    | none => none
    | some grouped =>
      if isGrouped false grouped then
        match negative, grouped.filter (· ≠ '_') with
        | false, '-' :: figures => (ofFigures figures).map fun n => -(n : Int)
        | false, figures => (ofFigures figures).map fun n => (n : Int)
        | true, figures => (ofFigures figures).map fun n => -(n : Int)
      else none
  else none

example : readWhole " -007 " = some (-7) ∧ readWhole "1_0.00" = some 10 := by decide +kernel
example : readWhole "0__7" = some 7 ∧ readWhole "+0-2" = some (-2) := by decide +kernel
example : readWhole "000.0" = some 0 ∧ readWhole "00" = some 0 := by decide +kernel
example : readWhole "1.5" = none ∧ readWhole "" = none ∧ readWhole "0x10" = none := by
  decide +kernel
example : readWhole "5." = none ∧ readWhole "1__0" = none ∧ readWhole "0_" = none := by
  decide +kernel

end TicketMarkup.Numeral
