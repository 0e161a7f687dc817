import TicketMarkup.Json.Token

/-!
# Halves of surrogate pairs

A JSON string may write 16-bit units by number. Two units that are the halves of a surrogate pair
are one character; a half that stands alone is no character, and a text that has it cannot be
encoded. `loneHalves` finds such halves in a JSON text, from left to right and escape by escape, and
`standIn` puts characters for private use in their place, which show where each of them comes to
stand in what is made of the text.

Main statements: `halfOf?_standInFor`, a half is known by the character in its place, and
`standInFrom_eq_self`, a text without halves that stand alone is kept.
-/

namespace TicketMarkup.Json

/-- Whether a unit is the first half of a surrogate pair. -/
def isHighHalf (n : Nat) : Bool := 0xD800 ≤ n && n < 0xDC00

/-- Whether a unit is the second half of a surrogate pair. -/
def isLowHalf (n : Nat) : Bool := 0xDC00 ≤ n && n < 0xE000

/-- The unit that the escape at the front of a text writes by number. -/
def unitAt? : List Char → Option Nat
  | '\\' :: 'u' :: a :: b :: c :: d :: _ => hexUnit? a b c d
  | _ => none

/-- The characters of an escape by number. -/
def unitWidth : Nat := 6

/-- Whether the escape at the front of a text begins a pair. -/
def pairAt (s : List Char) : Bool :=
  (unitAt? s).any isHighHalf && (unitAt? (s.drop unitWidth)).any isLowHalf

/-- The half without the other one that the escape at the front of a text writes. -/
def loneHalfAt? (s : List Char) : Option Nat :=
  if pairAt s then none else (unitAt? s).filter fun n => isHighHalf n || isLowHalf n

/-- The characters that belong together at the front of a text: an escape, two that are a pair, or a
character. -/
def widthAt (s : List Char) : Nat :=
  if pairAt s then 2 * unitWidth
  else if (unitAt? s).isSome then unitWidth
  else if s.head? = some '\\' then 2
  else 1

/-- The halves that stand alone in a text, after `skip` characters that belong to what was
before. -/
def loneHalvesFrom (skip : Nat) : List Char → List Nat
  | [] => []
  | c :: rest =>
    match skip with
    | skip + 1 => loneHalvesFrom skip rest
    | 0 => (loneHalfAt? (c :: rest)).toList ++ loneHalvesFrom (widthAt (c :: rest) - 1) rest

/-- The halves of surrogate pairs that stand alone in a JSON text. -/
def loneHalves (s : List Char) : List Nat := loneHalvesFrom 0 s

/-- Whether a half of a surrogate pair stands alone in a JSON text. -/
def hasLoneHalf (s : List Char) : Bool := !(loneHalves s).isEmpty

/-! ## In their place -/

/-- The first of the characters that stand for halves, one for each. -/
def firstStandIn : Nat := 0x10F800

/-- The character that stands for a half. -/
def standInFor (half : Nat) : Char := Char.ofNat (firstStandIn + (half - 0xD800))

/-- The half that a character stands for. -/
def halfOf? (c : Char) : Option Nat :=
  if firstStandIn ≤ c.toNat then some (0xD800 + (c.toNat - firstStandIn)) else none

/-- A text with characters in the place of halves that stand alone, after `keep` characters that are
kept and `skip` that are not. -/
def standInFrom (keep skip : Nat) : List Char → List Char
  | [] => []
  | c :: rest =>
    match keep, skip with
    | keep + 1, skip => c :: standInFrom keep skip rest
    | 0, skip + 1 => standInFrom 0 skip rest
    | 0, 0 =>
      match loneHalfAt? (c :: rest) with
      | some half => standInFor half :: standInFrom 0 (unitWidth - 1) rest
      | none => c :: standInFrom (widthAt (c :: rest) - 1) 0 rest

/-- A JSON text with characters in the place of halves that stand alone. -/
def standIn (s : List Char) : List Char := standInFrom 0 0 s

example : loneHalves "[\"\\ud800\\ud83d\\ude00\\\\udc00\\udc01\"]".toList = [0xD800, 0xDC01] := by
  decide +kernel

/-- A half is known by the character in its place. -/
theorem halfOf?_standInFor {half : Nat} (h : isHighHalf half || isLowHalf half) :
    halfOf? (standInFor half) = some half := by
  have hbounds : 0xD800 ≤ half ∧ half < 0xE000 := by
    simp only [isHighHalf, isLowHalf, Bool.or_eq_true, Bool.and_eq_true, decide_eq_true_eq] at h
    omega
  have hvalid : (firstStandIn + (half - 0xD800)).isValidChar := by
    right
    simp only [firstStandIn]
    omega
  have hcode : (standInFor half).toNat = firstStandIn + (half - 0xD800) := by
    rw [standInFor, Char.ofNat, dif_pos hvalid]
    rfl
  rw [halfOf?, hcode, if_pos (Nat.le_add_right _ _), Nat.add_sub_cancel_left,
    Nat.add_sub_cancel' hbounds.1]

/-- A text without halves that stand alone is kept. -/
theorem standInFrom_eq_self {keep : Nat} {s : List Char} (h : loneHalvesFrom keep s = []) :
    standInFrom keep 0 s = s := by
  induction s generalizing keep with
  | nil => rfl
  | cons c rest ih =>
    cases keep with
    | succ keep => exact congrArg (c :: ·) (ih h)
    | zero =>
      rw [loneHalvesFrom, List.append_eq_nil_iff] at h
      have hnone : loneHalfAt? (c :: rest) = none := by simpa using h.1
      rw [standInFrom, hnone]
      exact congrArg (c :: ·) (ih h.2)

end TicketMarkup.Json
