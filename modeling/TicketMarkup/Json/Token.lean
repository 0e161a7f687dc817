import TicketMarkup.Json.Basic
import TicketMarkup.Number.Numeral

/-!
# JSON tokens

The words of a JSON text with their positions. A word that is begun but not well formed is a token
too, one that carries its fault, so that a fault is reported only where a reader of values reaches
it. A character that begins no word is a mark of its own, which no reader accepts.

A string is made of characters, and half of a surrogate pair is none. A half that was written
without the other one is read as the replacement character (`joinParts`), so that a string has as
many characters as its text writes; where such a half stands is said of the text (`loneHalves`).

`tokens` reads a text from left to right; `wordAt` says which word begins at a place and how many
characters it has.

Main statement: `position_mem_tokens`, the positions of the tokens lie in the text.
-/

namespace TicketMarkup.Json

/-- What a JSON text has, or lacks, at a position. -/
inductive Complaint where
  | expectingValue
  | expectingName
  | expectingColon
  | expectingComma
  | unterminatedString
  | controlCharacter
  | badEscape
  | badUnicodeEscape
  | extraData
  | byteOrderMark
  deriving DecidableEq, Repr

/-- The wording of a complaint. -/
def Complaint.text : Complaint → String
  | .expectingValue => "Expecting value"
  | .expectingName => "Expecting property name enclosed in double quotes"
  | .expectingColon => "Expecting ':' delimiter"
  | .expectingComma => "Expecting ',' delimiter"
  | .unterminatedString => "Unterminated string starting at"
  | .controlCharacter => "Invalid control character at"
  | .badEscape => "Invalid \\escape"
  | .badUnicodeEscape => "Invalid \\uXXXX escape"
  | .extraData => "Extra data"
  | .byteOrderMark => "Unexpected UTF-8 BOM (decode using utf-8-sig)"

/-- Why a text is no JSON value. Positions count characters. -/
inductive DecodeFault where
  | malformed (complaint : Complaint) (position : Nat)
  /-- An integer is too long to be read. -/
  | numeral (fault : NumeralFault)
  deriving DecidableEq, Repr

/-- A word of a JSON text. -/
inductive Token where
  /-- A bracket, a brace, a comma or a colon, or a character that begins no word. -/
  | mark (c : Char)
  | text (s : Except DecodeFault String)
  | scalar (v : Except DecodeFault Json)

/-! ## Strings -/

/-- The value of a hexadecimal digit. -/
def hexValue? (c : Char) : Option Nat :=
  if c.isDigit then some (c.toNat - '0'.toNat)
  else if 'a' ≤ c && c ≤ 'f' then some (c.toNat - 'a'.toNat + 10)
  else if 'A' ≤ c && c ≤ 'F' then some (c.toNat - 'A'.toNat + 10)
  else none

/-- The number that four hexadecimal digits write. -/
def hexUnit? (a b c d : Char) : Option Nat := do
  let a ← hexValue? a
  let b ← hexValue? b
  let c ← hexValue? c
  let d ← hexValue? d
  return ((a * 16 + b) * 16 + c) * 16 + d

/-- A piece of a string: a character as it stands, or a 16-bit unit that was written by number. -/
inductive StringPart where
  | char (c : Char)
  | unit (n : Nat)

/-- The character that an escape letter stands for. -/
def escapeLetter? : Char → Option Char
  | '"' => some '"'
  | '\\' => some '\\'
  | '/' => some '/'
  | 'b' => some '\x08'
  | 'f' => some '\x0c'
  | 'n' => some '\n'
  | 'r' => some '\r'
  | 't' => some '\t'
  | _ => none

/-- Puts a piece of `width` characters before what follows it. -/
def addPart (part : StringPart) (width : Nat) :
    Except DecodeFault (List StringPart × Nat) → Except DecodeFault (List StringPart × Nat)
  | .ok (parts, n) => .ok (part :: parts, n + width)
  | .error fault => .error fault

/-- Reads a string from the position after its opening quote, which stands at `start`: its pieces
and the number of characters up to and with the closing quote. An escape by number is read only
if a character follows its four digits. -/
def stringParts (start position : Nat) : List Char → Except DecodeFault (List StringPart × Nat)
  | [] => .error (.malformed .unterminatedString start)
  | '"' :: _ => .ok ([], 1)
  | ['\\'] => .error (.malformed .unterminatedString start)
  | '\\' :: 'u' :: a :: b :: c :: d :: e :: rest =>
    match hexUnit? a b c d with
    | some n => addPart (.unit n) 6 (stringParts start (position + 6) (e :: rest))
    | none => .error (.malformed .badUnicodeEscape (position + 1))
  | '\\' :: 'u' :: _ => .error (.malformed .badUnicodeEscape (position + 1))
  | '\\' :: c :: rest =>
    match escapeLetter? c with
    | some d => addPart (.char d) 2 (stringParts start (position + 2) rest)
    | none => .error (.malformed .badEscape position)
  | c :: rest =>
    if c.toNat < 0x20 then .error (.malformed .controlCharacter position)
    else addPart (.char c) 1 (stringParts start (position + 1) rest)

/-- The characters of the pieces: two units that are the halves of a surrogate pair are one
character, and a half without its other half is the replacement character. -/
def joinParts : List StringPart → List Char
  | [] => []
  | .char c :: rest => c :: joinParts rest
  | .unit high :: .unit low :: rest =>
    if 0xD800 ≤ high && high < 0xDC00 && 0xDC00 ≤ low && low < 0xE000 then
      Char.ofNat (0x10000 + (high - 0xD800) * 0x400 + (low - 0xDC00)) :: joinParts rest
    else
      (if 0xD800 ≤ high && high < 0xE000 then '\ufffd' else Char.ofNat high) ::
        joinParts (.unit low :: rest)
  | .unit n :: rest =>
    (if 0xD800 ≤ n && n < 0xE000 then '\ufffd' else Char.ofNat n) :: joinParts rest

/-! ## Numbers -/

/-- The digits at the front of a text. -/
def leadingDigits (s : List Char) : List Char := s.takeWhile Char.isDigit

/-- The fraction at the front of a text, a point and digits, if there is one. -/
def fraction : List Char → List Char
  | '.' :: s => if (leadingDigits s).isEmpty then [] else '.' :: leadingDigits s
  | _ => []

/-- The exponent at the front of a text, a letter, a sign and digits, if there is one. -/
def exponentPart : List Char → List Char
  | e :: s =>
    if e = 'e' || e = 'E' then
      let sign :=
        match s with
        | '+' :: _ => ['+']
        | '-' :: _ => ['-']
        | _ => []
      let power := leadingDigits (s.drop sign.length)
      if power.isEmpty then [] else e :: sign ++ power
    else []
  | [] => []

/-- The integer part of a number at the front of a text: a zero, or digits that start with none. -/
def integerPart : List Char → List Char
  | '0' :: _ => ['0']
  | s => leadingDigits s

/-- The number that a sign, an integer part, a fraction and an exponent write. -/
def numberValue (negative : Bool) (whole part power : List Char) : Except DecodeFault Json :=
  if part.isEmpty && power.isEmpty then
    match Numeral.read (String.ofList ((if negative then ['-'] else []) ++ whole)) with
    | .ok n => .ok (.int n)
    | .error fault => .error (.numeral fault)
  else
    let places := part.drop 1
    let (down, figures) := Numeral.splitSign (power.drop 1)
    let shift : Int := Nat.ofDigitChars 10 figures 0
    let exponent := (if down then -shift else shift) - places.length
    .ok (.float (Binary64.ofDecimal negative (Nat.ofDigitChars 10 (whole ++ places) 0) exponent))

/-- The number at the front of a text and its width. -/
def numberAt (s : List Char) : Option (Except DecodeFault Json × Nat) :=
  let sign :=
    match s with
    | '-' :: _ => ['-']
    | _ => []
  let s := s.drop sign.length
  let whole := integerPart s
  if whole.isEmpty then none
  else
    let part := fraction (s.drop whole.length)
    let power := exponentPart (s.drop (whole.length + part.length))
    some (numberValue (!sign.isEmpty) whole part power,
      sign.length + whole.length + part.length + power.length)

/-! ## Words -/

/-- The words that are written by name. -/
def names : List (List Char × Json) :=
  [("null".toList, .null), ("true".toList, .bool true), ("false".toList, .bool false),
    ("NaN".toList, .float .nan), ("Infinity".toList, .float (.infinite false)),
    ("-Infinity".toList, .float (.infinite true))]

/-- Whether the character may stand between words. -/
def isSpace (c : Char) : Bool := c = ' ' || c = '\t' || c = '\n' || c = '\r'

/-- The word that begins with `c` at a position and goes on with `rest`, and its width. -/
def wordAt (position : Nat) (c : Char) (rest : List Char) : Token × Nat :=
  if c = '"' then
    match stringParts position (position + 1) rest with
    | .ok (parts, n) => (.text (.ok (String.ofList (joinParts parts))), n + 1)
    | .error fault => (.text (.error fault), 1)
  else
    match names.find? fun name => name.1.isPrefixOf (c :: rest) with
    | some (name, v) => (.scalar (.ok v), name.length)
    | none =>
      match numberAt (c :: rest) with
      | some (v, n) => (.scalar v, n)
      | none => (.mark c, 1)

/-- The words of a text that begins at a position, after `skip` characters that belong to the word
before. -/
def tokensFrom (skip position : Nat) : List Char → List (Nat × Token)
  | [] => []
  | c :: rest =>
    match skip with
    | skip + 1 => tokensFrom skip (position + 1) rest
    | 0 =>
      if isSpace c then tokensFrom 0 (position + 1) rest
      else
        let (word, width) := wordAt position c rest
        (position, word) :: tokensFrom (width - 1) (position + 1) rest

/-- The words of a text with their positions. -/
def tokens (s : List Char) : List (Nat × Token) := tokensFrom 0 0 s

theorem position_lt_of_mem_tokensFrom {skip position : Nat} {s : List Char} {t : Nat × Token}
    (h : t ∈ tokensFrom skip position s) : position ≤ t.1 ∧ t.1 < position + s.length := by
  induction s generalizing skip position with
  | nil => simp [tokensFrom] at h
  | cons c rest ih =>
    simp only [List.length_cons]
    unfold tokensFrom at h
    split at h
    · have := ih h; omega
    · split at h
      · have := ih h; omega
      · rcases List.mem_cons.1 h with rfl | h
        · simp
        · have := ih h; omega

/-- The positions of the tokens lie in the text. -/
theorem position_mem_tokens {s : List Char} {t : Nat × Token} (h : t ∈ tokens s) :
    t.1 < s.length := by
  simpa using (position_lt_of_mem_tokensFrom h).2

end TicketMarkup.Json
