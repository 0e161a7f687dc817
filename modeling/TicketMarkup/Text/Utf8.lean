/-!
# UTF-8

Files hold octets; a tree file is UTF-8. `decode` reads the octets one at a time and stops at the
first that no UTF-8 text has in its place, with the position where the character begins.
`encode` is the inverse. `unifyLineEnds` is what reading a text file does to its line ends.

Main statement: `decode_of_ascii`, octets below 0x80 are characters of their own.
-/

namespace TicketMarkup.Text

/-- Why octets are no UTF-8 text. Positions count octets. -/
inductive Utf8Fault where
  /-- The octet at the position begins no character. -/
  | badStart (position : Nat) (octet : UInt8)
  /-- The character that begins at the position is broken off after `seen` octets. -/
  | badContinuation (position seen : Nat) (octet : UInt8)
  /-- The text ends within the character that begins at the position, after `seen` octets. -/
  | unexpectedEnd (position seen : Nat) (octet : UInt8)
  deriving DecidableEq, Repr

/-- The wording of a fault. -/
def Utf8Fault.message (fault : Utf8Fault) : String :=
  let place (position seen : Nat) (octet : UInt8) : String :=
    if seen = 1 then
      "byte 0x" ++
        String.ofList [Nat.digitChar (octet.toNat / 16), Nat.digitChar (octet.toNat % 16)] ++
        " in position " ++ toString position
    else
      "bytes in position " ++ toString position ++ "-" ++ toString (position + seen - 1)
  let reason :=
    match fault with
    | .badStart p o => place p 1 o ++ ": invalid start byte"
    | .badContinuation p n o => place p n o ++ ": invalid continuation byte"
    | .unexpectedEnd p n o => place p n o ++ ": unexpected end of data"
  "'utf-8' codec can't decode " ++ reason

/-- A character that is being read: where it began and with which octet, how many octets were read
and are owed, the bounds of the next one, and the value so far. -/
structure PartialChar where
  position : Nat
  octet : UInt8
  seen : Nat
  owed : Nat
  low : UInt8
  high : UInt8
  value : Nat

/-- What the first octet of a character says: the character itself, or what is still owed. -/
def startChar (position : Nat) (b : UInt8) : Except Utf8Fault (Char ⊕ PartialChar) :=
  let lead (owed : Nat) (low high : UInt8) (value : Nat) : Except Utf8Fault (Char ⊕ PartialChar) :=
    .ok (.inr ⟨position, b, 1, owed, low, high, value⟩)
  if b < 0x80 then .ok (.inl (Char.ofNat b.toNat))
  else if b < 0xC2 then .error (.badStart position b)
  else if b < 0xE0 then lead 1 0x80 0xBF (b.toNat - 0xC0)
  else if b = 0xE0 then lead 2 0xA0 0xBF 0
  else if b = 0xED then lead 2 0x80 0x9F 0xD
  else if b < 0xF0 then lead 2 0x80 0xBF (b.toNat - 0xE0)
  else if b = 0xF0 then lead 3 0x90 0xBF 0
  else if b < 0xF4 then lead 3 0x80 0xBF (b.toNat - 0xF0)
  else if b = 0xF4 then lead 3 0x80 0x8F 4
  else .error (.badStart position b)

/-- One more octet of a character. -/
def PartialChar.next (p : PartialChar) (b : UInt8) : Except Utf8Fault (Char ⊕ PartialChar) :=
  if p.low ≤ b && b ≤ p.high then
    let value := p.value * 64 + (b.toNat - 0x80)
    if p.owed = 1 then .ok (.inl (Char.ofNat value))
    else
      .ok (.inr { p with seen := p.seen + 1, owed := p.owed - 1, low := 0x80, high := 0xBF,
                         value := value })
  else .error (.badContinuation p.position p.seen p.octet)

/-- The characters of the octets from a position on, `open?` being the character begun before. -/
def decodeFrom (position : Nat) (open? : Option PartialChar) :
    List UInt8 → Except Utf8Fault (List Char)
  | [] =>
    match open? with
    | none => .ok []
    | some p => .error (.unexpectedEnd p.position p.seen p.octet)
  | b :: rest =>
    match (match open? with | none => startChar position b | some p => p.next b) with
    | .error fault => .error fault
    | .ok (.inr p) => decodeFrom (position + 1) (some p) rest
    | .ok (.inl c) =>
      match decodeFrom (position + 1) none rest with
      | .error fault => .error fault
      | .ok s => .ok (c :: s)

/-- The characters that the octets encode. -/
def decode (octets : List UInt8) : Except Utf8Fault (List Char) := decodeFrom 0 none octets

/-- The octets that encode a text. -/
def encode (s : String) : List UInt8 := s.toUTF8.data.toList

/-- Line ends as a text file has them when it is read: a carriage return, with or without a line
feed after it, is a line feed. -/
def unifyLineEnds : List Char → List Char
  | [] => []
  | '\r' :: '\n' :: s => '\n' :: unifyLineEnds s
  | '\r' :: s => '\n' :: unifyLineEnds s
  | c :: s => c :: unifyLineEnds s

/-- A text without the byte order mark that it may begin with. -/
def dropMark : List Char → List Char
  | '\ufeff' :: s => s
  | s => s

theorem decodeFrom_of_ascii {octets : List UInt8} (h : ∀ b ∈ octets, b < 0x80) (position : Nat) :
    decodeFrom position none octets = .ok (octets.map fun b => Char.ofNat b.toNat) := by
  induction octets generalizing position with
  | nil => rfl
  | cons b rest ih =>
    have hb : b < 0x80 := h b (by simp)
    rw [decodeFrom]
    simp only [startChar, hb, if_true, ih (fun x hx => h x (by simp [hx])) (position + 1),
      List.map_cons]

/-- Octets below 0x80 are characters of their own. -/
theorem decode_of_ascii {octets : List UInt8} (h : ∀ b ∈ octets, b < 0x80) :
    decode octets = .ok (octets.map fun b => Char.ofNat b.toNat) :=
  decodeFrom_of_ascii h 0

example : (decode (encode "é😀€")).toOption = some "é😀€".toList := by decide +kernel
example : decode [0x5B, 0xC3] = .error (.unexpectedEnd 1 1 0xC3) := by rfl
example : decode [0xE2, 0x82, 0x41] = .error (.badContinuation 0 2 0xE2) := by rfl

end TicketMarkup.Text
