import TicketMarkup.Number.Binary64
import TicketMarkup.Number.Numeral

/-!
# How large numbers are

The numbers that can be written are those less than `Numeral.bound`, ten to the digit limit, and
every number that is read is one of them (`Numeral.exists_write?_iff`, `Numeral.natAbs_lt_of_read`).
A number that is read from a decimal with a fraction or an exponent has a significand of 53 bits and
an exponent of at most 971 (`Binary64.wellFormed_ofDecimal`), so that its integer part is far below
the bound.
-/

namespace TicketMarkup

/-! ## Numerals -/

namespace Numeral

/-- The least natural number that has too many digits to be written. -/
def bound : Nat := Nat.pow 10 digitLimit

theorem length_digits_le_pow_iff {n k : Nat} (hk : 0 < k) :
    (digits n).length ≤ k ↔ n < Nat.pow 10 k :=
  Nat.length_toDigits_le_iff (by decide) hk

/-- An integer has no more digits than are written exactly if it is below the bound. -/
theorem length_digits_le_iff {n : Nat} : (digits n).length ≤ digitLimit ↔ n < bound := by
  delta bound
  exact length_digits_le_pow_iff (by decide)

/-- An integer is written exactly if it is below the bound. -/
theorem exists_write?_iff {n : Int} : (∃ s, write? n = .ok s) ↔ n.natAbs < bound := by
  rw [← length_digits_le_iff]
  constructor
  · rintro ⟨s, hs⟩
    exact (write?_eq_ok_iff.1 hs).1
  · intro h
    exact ⟨write n, write?_eq_ok_iff.2 ⟨h, rfl⟩⟩

/-- Digits, read on from a number, add at most one unit of it. -/
theorem ofDigitChars_lt {figures : List Char} (h : ∀ c ∈ figures, c.isDigit = true) (n : Nat) :
    Nat.ofDigitChars 10 figures n < (n + 1) * Nat.pow 10 figures.length := by
  induction figures generalizing n with
  | nil => simp
  | cons c rest ih =>
    obtain ⟨hc, hrest⟩ := List.forall_mem_cons.1 h
    have hdigit : c.toNat - '0'.toNat ≤ 9 := by
      have := toNat_of_isDigit hc
      have hzero : '0'.toNat = 48 := rfl
      omega
    have hpow : Nat.pow 10 (rest.length + 1) = 10 * Nat.pow 10 rest.length := Nat.pow_succ'
    rw [Nat.ofDigitChars_cons, List.length_cons, hpow, ← Nat.mul_assoc]
    refine Nat.lt_of_lt_of_le (ih hrest _) (Nat.mul_le_mul_right _ ?_)
    omega

theorem ofDigitChars_lt_pow {figures : List Char} {k : Nat}
    (h : ∀ c ∈ figures, c.isDigit = true) (hk : figures.length ≤ k) :
    Nat.ofDigitChars 10 figures 0 < Nat.pow 10 k := by
  have hvalue := ofDigitChars_lt h 0
  rw [Nat.zero_add, Nat.one_mul] at hvalue
  exact Nat.lt_of_lt_of_le hvalue (Nat.pow_le_pow_right (by decide) hk)

/-- Digits that are not too many stand for a number below the bound. -/
theorem ofDigitChars_lt_bound {figures : List Char} (h : ∀ c ∈ figures, c.isDigit = true)
    (hlength : figures.length ≤ digitLimit) : Nat.ofDigitChars 10 figures 0 < bound := by
  delta bound
  exact ofDigitChars_lt_pow h hlength

/-- The figures of a numeral, without the underscores among them, are digits. -/
theorem isDigit_of_mem_figures {body : List Char} {c : Char}
    (h : c ∈ (body.takeWhile isDigitOrGroup).filter (· ≠ '_')) : c.isDigit = true := by
  obtain ⟨hmem, hne⟩ := List.mem_filter.1 h
  have hrun : isDigitOrGroup c = true := List.all_eq_true.1 List.all_takeWhile c hmem
  simpa [isDigitOrGroup, of_decide_eq_true hne] using hrun

/-- A number that is read is less than the bound. -/
theorem natAbs_lt_of_read {s : String} {n : Int} (h : read s = .ok n) : n.natAbs < bound := by
  simp only [read] at h
  generalize hbody : splitSign ((s.toList.map asciiChar).dropWhile isPadding) = body at h
  split at h
  · cases h
  split at h
  · cases h
  next hlength =>
    split at h
    · rw [Except.ok.injEq] at h
      have hlt := ofDigitChars_lt_bound (fun c hc => isDigit_of_mem_figures hc)
        (Nat.not_lt.1 hlength)
      subst h
      split
      · rwa [Int.natAbs_neg, Int.natAbs_natCast]
      · rwa [Int.natAbs_natCast]
    · cases h

/-- The text of a number is read back exactly if the number is less than the bound. -/
theorem read_text_eq_ok_iff {n m : Int} : read (text n) = .ok m ↔ n.natAbs < bound ∧ m = n := by
  rw [read_text, ← length_digits_le_iff]
  split
  next h => simp [h, eq_comm]
  next h => simp [h]

theorem two_pow_le_ten_pow {k m : Nat} (h : k ≤ m) : Nat.pow 2 k ≤ Nat.pow 10 m :=
  Nat.le_trans (Nat.pow_le_pow_left (by decide) k) (Nat.pow_le_pow_right (by decide) h)

theorem two_pow_le_bound {k : Nat} (h : k ≤ digitLimit) : Nat.pow 2 k ≤ bound := by
  delta bound
  exact two_pow_le_ten_pow h

end Numeral

/-! ## Binary numbers -/

namespace Binary64

/-- Whether a finite number is in the range of its format. -/
def WellFormed : Binary64 → Prop
  | finite _ significand exponent =>
    significand < Nat.pow 2 53 ∧ minExponent ≤ exponent ∧ exponent ≤ maxExponent
  | _ => True

/-- Rounding adds at most one. -/
theorem roundDiv_le_succ (num den : Nat) : roundDiv num den ≤ num / den + 1 := by
  unfold roundDiv
  dsimp only
  split
  · omega
  · split <;> omega

theorem scale_eq (num den : Nat) (exponent : Int) :
    scale num den exponent =
      (num * Nat.pow 2 (-exponent).toNat, den * Nat.pow 2 exponent.toNat) := by
  unfold scale
  split
  · rw [show (-exponent).toNat = 0 by omega]
    simp
  · rw [show exponent.toNat = 0 by omega]
    simp

/-- How large a scaled quotient is, by the binary logarithms of its two parts. -/
theorem scale_div_lt {num den k : Nat} {exponent : Int} (hden : den ≠ 0)
    (h : (Nat.log2 num : Int) + 1 ≤ Nat.log2 den + exponent + k) :
    (scale num den exponent).1 / (scale num den exponent).2 < Nat.pow 2 k := by
  have hnum : num * 2 ^ (-exponent).toNat < 2 ^ (Nat.log2 num + 1 + (-exponent).toNat) := by
    rw [Nat.pow_add]
    exact Nat.mul_lt_mul_of_pos_right Nat.lt_log2_self (Nat.two_pow_pos _)
  have hdenominator :
      2 ^ (Nat.log2 den + exponent.toNat + k) ≤ den * 2 ^ exponent.toNat * 2 ^ k := by
    rw [Nat.pow_add, Nat.pow_add]
    exact Nat.mul_le_mul_right _ (Nat.mul_le_mul_right _ (Nat.log2_self_le hden))
  have hexponents : 2 ^ (Nat.log2 num + 1 + (-exponent).toNat) ≤
      2 ^ (Nat.log2 den + exponent.toNat + k) :=
    Nat.pow_le_pow_right (by decide) (by omega)
  rw [scale_eq]
  exact Nat.div_lt_of_lt_mul (Nat.lt_of_lt_of_le hnum (Nat.le_trans hexponents hdenominator))

/-- The number nearest to a ratio is in the range of the format: the quotient has at most 54 bits
under the exponent that is tried first, and else 53 bits under the next. -/
theorem wellFormed_ofRatio (negative : Bool) {num den : Nat} (hden : den ≠ 0) :
    (ofRatio negative num den).WellFormed := by
  simp only [ofRatio]
  generalize hguess : max ((Nat.log2 num : Int) - Nat.log2 den - 53) minExponent = guess
  generalize hexponent : (if Nat.pow 2 53 ≤
    (scale num den guess).1 / (scale num den guess).2 then guess + 1 else guess) = exponent
  have hmin : minExponent ≤ exponent := by
    split at hexponent <;> omega
  have hquotient : (scale num den exponent).1 / (scale num den exponent).2 < Nat.pow 2 53 := by
    split at hexponent
    · exact scale_div_lt hden (by omega)
    next h =>
      rw [← hexponent]
      exact Nat.not_le.1 h
  have hrounded := roundDiv_le_succ (scale num den exponent).1 (scale num den exponent).2
  generalize roundDiv (scale num den exponent).1 (scale num den exponent).2 = significand
    at hrounded ⊢
  have hpow : Nat.pow 2 52 < Nat.pow 2 53 := by decide
  by_cases hcarry : significand = Nat.pow 2 53
  · simp only [if_pos hcarry]
    split
    · trivial
    · exact ⟨hpow, by omega, by omega⟩
  · simp only [if_neg hcarry]
    split
    · trivial
    · exact ⟨by omega, hmin, by omega⟩

/-- The number next to a decimal is well formed. -/
theorem wellFormed_ofDecimal (negative : Bool) (digits : Nat) (exponent : Int) :
    (ofDecimal negative digits exponent).WellFormed := by
  unfold ofDecimal
  dsimp only
  split
  · exact ⟨by decide, by decide, by decide⟩
  split
  · trivial
  split
  · exact wellFormed_ofRatio negative (by decide)
  · exact wellFormed_ofRatio negative (Nat.pos_iff_ne_zero.1 (Nat.pow_pos (by decide)))

/-- The integer part of a number is less than two to the bits of its significand and its
exponent. -/
theorem natAbs_truncate?_lt {negative : Bool} {significand bits top : Nat} {exponent n : Int}
    (hsignificand : significand < Nat.pow 2 bits) (htop : exponent ≤ top)
    (h : (finite negative significand exponent).truncate? = some n) :
    n.natAbs < Nat.pow 2 (bits + top) := by
  simp only [truncate?, Option.some.injEq] at h
  generalize hmagnitude : (if 0 ≤ exponent then significand * Nat.pow 2 exponent.toNat
    else significand / Nat.pow 2 (-exponent).toNat) = magnitude at h
  have hle : magnitude ≤ significand * 2 ^ exponent.toNat := by
    rw [← hmagnitude]
    split
    · exact Nat.le_refl _
    · exact Nat.le_trans (Nat.div_le_self _ _) (Nat.le_mul_of_pos_right _ (Nat.two_pow_pos _))
  have hnatAbs : n.natAbs = magnitude := by
    subst h
    split <;> simp
  calc n.natAbs ≤ significand * 2 ^ exponent.toNat := hnatAbs ▸ hle
    _ ≤ significand * 2 ^ top :=
      Nat.mul_le_mul_left _ (Nat.pow_le_pow_right (by decide) (by omega))
    _ < 2 ^ bits * 2 ^ top := Nat.mul_lt_mul_of_pos_right hsignificand (Nat.two_pow_pos _)
    _ = 2 ^ (bits + top) := (Nat.pow_add 2 bits top).symm

/-- A number with an integer part that has too many digits is not of the format. -/
theorem natAbs_lt_bound_of_truncate? {x : Binary64} (hx : x.WellFormed) {n : Int}
    (h : x.truncate? = some n) : n.natAbs < Numeral.bound := by
  cases x with
  | finite negative significand exponent =>
    obtain ⟨hsignificand, -, hmax⟩ := hx
    have htop : exponent ≤ maxExponent.toNat := by omega
    have hlt := natAbs_truncate?_lt hsignificand htop h
    exact Nat.lt_of_lt_of_le hlt (Numeral.two_pow_le_bound (by decide))
  | _ => simp [truncate?] at h

end Binary64

end TicketMarkup
