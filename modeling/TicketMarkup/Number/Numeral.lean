import TicketMarkup.Text.Basic
import TicketMarkup.Text.Blank
import TicketMarkup.Text.Quoted

/-!
# Integer numerals

Integers written in base ten. `read` accepts a numeral in the digits of any script, with blanks
around it, one sign, and single underscores between digits. Numerals of more than `digitLimit`
digits are neither read nor written (`write?`), which keeps the cost of a conversion bounded.

Main statements: `read_text` (the text of a number is read back, unless it has too many digits) and
`write?_eq_ok_iff` (exactly the numbers of at most `digitLimit` digits can be written).
-/

namespace TicketMarkup

/-- Why a numeral was not read or written. -/
inductive NumeralFault where
  /-- The text is no integer numeral. -/
  | malformed (text : String)
  /-- The numeral has more digits than are read. -/
  | tooLong (digits : Nat)
  /-- The number has more digits than are written. -/
  | unwritable
  deriving DecidableEq, Repr

namespace Numeral

open Text

/-- The most digits that a numeral may have. -/
def digitLimit : Nat := 4300

/-! ## Writing -/

/-- The decimal digits of a natural number. -/
def digits (n : Nat) : List Char := Nat.toDigits 10 n

/-- An integer in decimal, with a minus sign if it is negative. -/
def write : Int → List Char
  | .ofNat n => digits n
  | .negSucc n => '-' :: digits (n + 1)

/-- An integer as a text. -/
def text (n : Int) : String := String.ofList (write n)

/-- An integer in decimal, if it does not have too many digits. -/
def write? (n : Int) : Except NumeralFault (List Char) :=
  if (digits n.natAbs).length ≤ digitLimit then .ok (write n) else .error .unwritable

/-- An integer is written exactly if it does not have too many digits. -/
theorem write?_eq_ok_iff {n : Int} {s : List Char} :
    write? n = .ok s ↔ (digits n.natAbs).length ≤ digitLimit ∧ s = write n := by
  unfold write?
  split
  next h => simp only [h, Except.ok.injEq, true_and, eq_comm]
  next h => simp only [h, reduceCtorEq, false_and]

/-! ## Reading -/

/-- A blank between an ASCII numeral and the ends of its text. -/
def isPadding (c : Char) : Bool :=
  c = ' ' || (0x09 ≤ c.toNat && c.toNat ≤ 0x0D)

/-- A character of a numeral in ASCII: other scripts' digits become ASCII digits, other blanks
spaces, and what else is not ASCII becomes a character that no numeral has. -/
def asciiChar (c : Char) : Char :=
  if c.toNat < 0x7F then c
  else if isBlank c then ' '
  else
    match digitValue? c with
    | some d => Nat.digitChar d
    | none => '?'

/-- Splits a sign off: whether it is a minus, and the rest. -/
def splitSign : List Char → Bool × List Char
  | '+' :: s => (false, s)
  | '-' :: s => (true, s)
  | s => (false, s)

/-- Whether underscores stand only between two digits. The first argument says whether the
character before is a digit. -/
def isGrouped : Bool → List Char → Bool
  | afterDigit, [] => afterDigit
  | afterDigit, c :: s => if c = '_' then afterDigit && isGrouped false s else isGrouped true s

/-- Whether the character is a digit or an underscore. -/
def isDigitOrGroup (c : Char) : Bool := c.isDigit || c = '_'

/-- Reads an integer numeral. -/
def read (s : String) : Except NumeralFault Int :=
  let unpadded := (s.toList.map asciiChar).dropWhile isPadding
  let (negative, body) := splitSign unpadded
  let run := body.takeWhile isDigitOrGroup
  let rest := body.dropWhile isDigitOrGroup
  let figures := run.filter (· ≠ '_')
  if !isGrouped false run then .error (.malformed s)
  else if digitLimit < figures.length then .error (.tooLong figures.length)
  else if rest.all isPadding then
    let n : Nat := Nat.ofDigitChars 10 figures 0
    .ok (if negative then -(n : Int) else n)
  else .error (.malformed s)

/-! ## What is written is read back -/

theorem isDigit_of_mem_digits {n : Nat} {c : Char} (h : c ∈ digits n) : c.isDigit = true :=
  Nat.isDigit_of_mem_toDigits (by decide) (by decide) h

theorem toNat_of_isDigit {c : Char} (h : c.isDigit = true) : 48 ≤ c.toNat ∧ c.toNat ≤ 57 := by
  simp only [Char.isDigit, Bool.and_eq_true, decide_eq_true_eq] at h
  exact ⟨UInt32.le_iff_toNat_le.1 h.1, UInt32.le_iff_toNat_le.1 h.2⟩

theorem asciiChar_of_isDigit {c : Char} (h : c.isDigit = true) : asciiChar c = c := by
  have := toNat_of_isDigit h
  simp [asciiChar, show c.toNat < 0x7F by omega]

theorem isPadding_of_isDigit {c : Char} (h : c.isDigit = true) : isPadding c = false := by
  have hn := toNat_of_isDigit h
  have : c ≠ ' ' := by rintro rfl; simp at h
  simp [isPadding, this]
  omega

theorem ne_underscore_of_isDigit {c : Char} (h : c.isDigit = true) : c ≠ '_' := by
  rintro rfl; simp at h

/-- Digits without underscores are well grouped. -/
theorem isGrouped_of_isDigit {s : List Char} (h : ∀ c ∈ s, c.isDigit = true) :
    ∀ b, isGrouped b s = (b || s != []) := by
  induction s with
  | nil => simp [isGrouped]
  | cons c s ih =>
    intro b
    have hc := ne_underscore_of_isDigit (h c (by simp))
    simp [isGrouped, hc, ih (fun d hd => h d (by simp [hd])) true]

/-- The part of a numeral after the sign, when it is all digits. -/
theorem read_digits {d : List Char} (h : ∀ c ∈ d, c.isDigit = true) :
    d.takeWhile isDigitOrGroup = d ∧ d.dropWhile isDigitOrGroup = [] ∧
      d.filter (· ≠ '_') = d := by
  have h1 : ∀ c ∈ d, isDigitOrGroup c = true := fun c hc => by simp [isDigitOrGroup, h c hc]
  refine ⟨?_, dropWhile_eq_nil_iff.2 h1, ?_⟩
  · have := List.takeWhile_append_dropWhile (p := isDigitOrGroup) (l := d)
    rwa [dropWhile_eq_nil_iff.2 h1, List.append_nil] at this
  · exact List.filter_eq_self.2 fun c hc => by simpa using ne_underscore_of_isDigit (h c hc)

theorem splitSign_of_isDigit {c : Char} {s : List Char} (h : c.isDigit = true) :
    splitSign (c :: s) = (false, c :: s) := by
  unfold splitSign
  split
  · simp_all
  · simp_all
  · rfl

/-- Digits, with a minus sign or none before them, are read unless there are too many. -/
theorem read_figures {figures : List Char} (h : ∀ c ∈ figures, c.isDigit = true)
    (hne : figures ≠ []) (neg : Bool) :
    read (String.ofList ((if neg then ['-'] else []) ++ figures)) =
      if figures.length ≤ digitLimit then
        .ok (if neg then -(Nat.ofDigitChars 10 figures 0 : Int) else Nat.ofDigitChars 10 figures 0)
      else .error (.tooLong figures.length) := by
  obtain ⟨h1, h2, h3⟩ := read_digits h
  have hmap : figures.map asciiChar = figures :=
    (List.map_congr_left fun c hc => asciiChar_of_isDigit (h c hc)).trans (List.map_id' _)
  have hg : isGrouped false figures = true := by simp [isGrouped_of_isDigit h, hne]
  have hsplit : splitSign ((((if neg then ['-'] else []) ++ figures).map asciiChar).dropWhile
      isPadding) = (neg, figures) := by
    cases neg with
    | true =>
      have : asciiChar '-' = '-' := by decide
      have hp : isPadding '-' = false := by decide
      simp [this, hp, hmap, splitSign]
    | false =>
      obtain ⟨c, s, hcs⟩ := List.exists_cons_of_ne_nil hne
      have hc : c.isDigit = true := h c (by simp [hcs])
      simp only [Bool.false_eq_true, if_false, List.nil_append, hmap]
      rw [hcs, List.dropWhile_cons_of_neg (by simp [isPadding_of_isDigit hc])]
      exact splitSign_of_isDigit hc
  simp only [read, String.toList_ofList, hsplit, h1, h2, h3, hg]
  by_cases hlength : figures.length ≤ digitLimit
  · simp [hlength, Nat.not_lt.2 hlength]
  · simp [hlength, Nat.not_le.1 hlength]

/-- What is written for an integer is read as that integer, or refused as too long. -/
theorem read_ofList_digits (n : Nat) (neg : Bool) :
    read (String.ofList ((if neg then ['-'] else []) ++ digits n)) =
      if (digits n).length ≤ digitLimit then .ok (if neg then -(n : Int) else n)
      else .error (.tooLong (digits n).length) := by
  have hvalue : Nat.ofDigitChars 10 (digits n) 0 = n := Nat.ofDigitChars_ten_toDigits
  rw [read_figures (fun _ => isDigit_of_mem_digits) Nat.toDigits_ne_nil, hvalue]

/-- The text of a number is read back, unless it has too many digits. -/
theorem read_text (n : Int) :
    read (text n) =
      if (digits n.natAbs).length ≤ digitLimit then .ok n
      else .error (.tooLong (digits n.natAbs).length) := by
  cases n with
  | ofNat n => exact read_ofList_digits n false
  | negSucc n => exact read_ofList_digits (n + 1) true

end Numeral

/-- The wording of a fault. At most 200 characters of the quoted text are shown. -/
def NumeralFault.message : NumeralFault → String
  | .malformed s =>
    "invalid literal for int() with base 10: " ++
      String.ofList ((Text.quotedChars s.toList).take 200)
  | .tooLong n =>
    "Exceeds the limit (4300 digits) for integer string conversion: value has " ++
      Numeral.text n ++ " digits; use sys.set_int_max_str_digits() to increase the limit"
  | .unwritable =>
    "Exceeds the limit (4300 digits) for integer string conversion; " ++
      "use sys.set_int_max_str_digits() to increase the limit"

end TicketMarkup
