import TicketMarkup.Number.Binary64

/-!
# The shortest decimal of a binary number

A binary floating-point number is written with the fewest digits that read back as the same
number, and of the decimals with so few digits as the nearest, a tie going to the even digit.
`shortest` finds these digits in exact arithmetic: it tries one digit, two digits and so on, and of
each grid only the two neighbours of the number. `text` then lays the digits out.

Main statement: `mem_interval_of_shortest`, the decimal found rounds to the number.
-/

namespace TicketMarkup.Binary64

/-- A decimal `digits * 10 ^ exponent`. -/
structure Decimal where
  digits : Nat
  exponent : Int
  deriving DecidableEq, Repr

/-! ## The reals that round to a number -/

/-- The reals that round to a number: those between `low / den` and `high / den`, the ends
included if `closed`. The number itself is `mid / den`. -/
structure Interval where
  low : Nat
  mid : Nat
  high : Nat
  den : Nat
  closed : Bool

/-- The interval of `significand * 2 ^ exponent`. Below a power of two the numbers are twice as
dense, so that the lower end is nearer. -/
def interval (significand : Nat) (exponent : Int) : Interval :=
  let below := if significand = Nat.pow 2 52 ∧ minExponent < exponent then 1 else 2
  let unit := exponent - 2
  let factor := Nat.pow 2 unit.toNat
  { low := (4 * significand - below) * factor
    mid := 4 * significand * factor
    high := (4 * significand + 2) * factor
    den := Nat.pow 2 (-unit).toNat
    closed := significand % 2 = 0 }

/-- Whether the decimal lies in the interval. -/
def Interval.holds (i : Interval) (d : Decimal) : Bool :=
  let num := d.digits * Nat.pow 10 d.exponent.toNat * i.den
  let den := Nat.pow 10 (-d.exponent).toNat
  if i.closed then i.low * den ≤ num && num ≤ i.high * den
  else i.low * den < num && num < i.high * den

/-! ## The search -/

/-- The exponent of the first decimal digit of `num / den`. -/
def leadingExponent (num den : Nat) : Int :=
  if den ≤ num then ((Nat.toDigits 10 (num / den)).length : Int) - 1
  else
    match (List.range 400).find? fun j => den ≤ num * Nat.pow 10 j with
    | some j => -(j : Int)
    | none => -400

/-- The multiple of `10 ^ exponent` below or at the middle of the interval, and the one above, the
nearer first. Of two equally near ones the even one comes first. -/
def neighbours (i : Interval) (exponent : Int) : List Decimal :=
  let num := i.mid * Nat.pow 10 (-exponent).toNat
  let den := i.den * Nat.pow 10 exponent.toNat
  let q := num / den
  let rest := 2 * (num % den)
  if rest < den || rest = den && q % 2 = 0 then [⟨q, exponent⟩, ⟨q + 1, exponent⟩]
  else [⟨q + 1, exponent⟩, ⟨q, exponent⟩]

/-- The decimal of fewest digits in the interval, of those the nearest to its middle. -/
def Interval.shortest (i : Interval) : Option Decimal :=
  let lead := leadingExponent i.mid i.den
  ((List.range 17).flatMap fun n : Nat => neighbours i (lead - (n : Int))).find? i.holds

theorem mem_interval_of_shortest {i : Interval} {d : Decimal} (h : i.shortest = some d) :
    i.holds d = true :=
  List.find?_some h

/-! ## The layout -/

/-- How a decimal is laid out: without exponent if the exponent of the first digit is between
`lowest` and `highest`, and else with an exponent of at least `exponentDigits` digits. -/
structure Layout where
  lowest : Int
  highest : Int
  exponentDigits : Nat

/-- Numbers from 0.0001 up to sixteen digits before the point are written without exponent. -/
def layout : Layout := ⟨-4, 15, 2⟩

/-- A digit sequence and the exponent of its first digit, laid out. -/
def Layout.apply (l : Layout) (figures : List Char) (lead : Int) : List Char :=
  if l.lowest ≤ lead && lead ≤ l.highest then
    if lead < 0 then '0' :: '.' :: List.replicate (-lead - 1).toNat '0' ++ figures
    else
      let before := lead.toNat + 1
      let whole := figures.take before ++ List.replicate (before - figures.length) '0'
      let part := figures.drop before
      whole ++ '.' :: (if part.isEmpty then ['0'] else part)
  else
    let power := Nat.toDigits 10 lead.natAbs
    figures.take 1 ++ (if figures.length ≤ 1 then [] else '.' :: figures.drop 1) ++
      'e' :: (if lead < 0 then '-' else '+') ::
      List.replicate (l.exponentDigits - power.length) '0' ++ power

/-- A decimal laid out; zeros at its end are not written. -/
def Decimal.text (l : Layout) (d : Decimal) : List Char :=
  let all := Nat.toDigits 10 d.digits
  let figures := (all.reverse.dropWhile (· = '0')).reverse
  l.apply (if figures.isEmpty then ['0'] else figures) (d.exponent + all.length - 1)

/-- A number as text: the shortest decimal that reads back, or a name. -/
def text : Binary64 → String
  | .nan => "nan"
  | .infinite negative => if negative then "-inf" else "inf"
  | .finite negative significand exponent =>
    let sign := if negative then ['-'] else []
    let body :=
      if significand = 0 then "0.0".toList
      else
        match (interval significand exponent).shortest with
        | some d => d.text layout
        | none => "0.0".toList
    String.ofList (sign ++ body)

example : (ofDecimal false 1 (-1)).text = "0.1" := by decide +kernel
example : (ofDecimal false 1 16).text = "1e+16" := by decide +kernel
example : (ofDecimal true 1 (-5)).text = "-1e-05" := by decide +kernel
example : (ofDecimal false 123456789 0).text = "123456789.0" := by decide +kernel
example : (ofDecimal false 93709759177298375 (-3)).text = "93709759177298.38" := by decide +kernel
example : (ofDecimal false 5 (-324)).text = "5e-324" := by decide +kernel

end TicketMarkup.Binary64
