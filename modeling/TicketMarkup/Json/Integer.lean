import TicketMarkup.Json.Basic
import TicketMarkup.Number.Numeral

/-!
# Integers from values

A field that holds an integer may be given as an integer, as a binary number, whose fraction is cut
off, or as a text that is an integer numeral.

Main statements: `toInteger_float_eq_ok_iff` and `toInteger_str_eq_ok_iff`, which integers numbers
and texts stand for, and `toInteger_eq_infinite_iff`, only an infinite number is refused in the
second way.
-/

namespace TicketMarkup.Json

/-- Why a value is no integer. -/
inductive IntegerFault where
  /-- The value is of a type without integers, or its text is no numeral, or it is no number. -/
  | refused
  /-- The value is infinite. -/
  | infinite
  deriving DecidableEq, Repr

/-- The integer that a value stands for. -/
def toInteger : Json → Except IntegerFault Int
  | .int n => .ok n
  | .bool b => .ok (if b then 1 else 0)
  | .float (.infinite _) => .error .infinite
  | .float x =>
    match x.truncate? with
    | some n => .ok n
    | none => .error .refused
  | .str s =>
    match Numeral.read s with
    | .ok n => .ok n
    | .error _ => .error .refused
  | _ => .error .refused

theorem toInteger_float_eq_ok_iff {x : Binary64} {n : Int} :
    (float x).toInteger = .ok n ↔ x.truncate? = some n := by
  cases x <;> simp [toInteger, Binary64.truncate?]

theorem toInteger_str_eq_ok_iff {s : String} {n : Int} :
    (str s).toInteger = .ok n ↔ Numeral.read s = .ok n := by
  unfold toInteger
  cases h : Numeral.read s <;> simp [h]

theorem toInteger_eq_infinite_iff {v : Json} :
    v.toInteger = .error .infinite ↔ ∃ negative, v = .float (.infinite negative) := by
  cases v with
  | float x =>
    cases x with
    | infinite negative => simp [toInteger]
    | nan => simp [toInteger, Binary64.truncate?]
    | finite negative significand exponent => simp [toInteger, Binary64.truncate?]
  | str s =>
    unfold toInteger
    split <;> simp_all
    split <;> simp
  | _ => simp [toInteger]

end TicketMarkup.Json
