import TicketMarkup.Json.Token

/-!
# Decoding JSON

A JSON text is read word by word. The reader's state says what may come next and holds the
containers that are open, innermost first; a word either moves it on or is a fault at the word's
position. A text that ends too early is at fault at its end. Of several faults the first in the
text is reported.

Decoding takes two things for granted. There is stack for any nesting; how deep the reader goes
before it ends is `openings`, from which a machine says whether its stack is used up. And a string
is made of characters, so that a half of a surrogate pair that stands alone is read as the
replacement character; which texts have one is said by `hasLoneHalf`.

Main statement: `decode_of_byteOrderMark`, a text may not start with a byte order mark.
-/

namespace TicketMarkup.Json

/-- A container that is open: an array with the items so far, the last one first, or an object
with the fields so far and the key whose value is being read. -/
inductive Frame where
  | items (done : List Json)
  | fields (done : Fields) (key : String)

/-- What the reader is waiting for, inside the open containers. -/
inductive ReaderState where
  /-- A value. -/
  | value (frames : List Frame)
  /-- The first item of an array, or its end. -/
  | firstItem (frames : List Frame)
  /-- The first key of an object, or its end. -/
  | firstKey (frames : List Frame)
  /-- A key, after the fields read so far. -/
  | key (frames : List Frame) (done : Fields)
  /-- The colon after a key. -/
  | colon (frames : List Frame) (done : Fields) (key : String)
  /-- What follows a complete value. -/
  | after (frames : List Frame) (value : Json)

namespace ReaderState

/-- What is missing when the wait is in vain. -/
def complaint : ReaderState → Complaint
  | value _ => .expectingValue
  | firstItem _ => .expectingValue
  | firstKey _ => .expectingName
  | key _ _ => .expectingName
  | colon _ _ _ => .expectingColon
  | after [] _ => .extraData
  | after (_ :: _) _ => .expectingComma

/-- The state after a word that begins a value, if it does. -/
def beginValue (frames : List Frame) : Token → Option (Except DecodeFault ReaderState)
  | .mark '[' => some (.ok (firstItem frames))
  | .mark '\x7b' => some (.ok (firstKey frames))
  | .mark _ => none
  | .text s => some (s.map fun s => after frames (.str s))
  | .scalar v => some (v.map fun v => after frames v)

/-- The state after a word, if the word may stand here. -/
def next? : ReaderState → Token → Option (Except DecodeFault ReaderState)
  | value frames, t => beginValue frames t
  | firstItem frames, .mark ']' => some (.ok (after frames (.arr [])))
  | firstItem frames, t => beginValue (.items [] :: frames) t
  | firstKey frames, .mark '\x7d' => some (.ok (after frames (.obj [])))
  | firstKey frames, .text s => some (s.map fun s => colon frames [] s)
  | firstKey _, _ => none
  | key frames done, .text s => some (s.map fun s => colon frames done s)
  | key _ _, _ => none
  | colon frames done k, .mark ':' => some (.ok (value (.fields done k :: frames)))
  | colon _ _ _, _ => none
  | after (.items done :: frames) v, .mark ',' => some (.ok (value (.items (v :: done) :: frames)))
  | after (.items done :: frames) v, .mark ']' =>
    some (.ok (after frames (.arr (v :: done).reverse)))
  | after (.fields done k :: frames) v, .mark ',' =>
    some (.ok (key frames (Fields.insert k v done)))
  | after (.fields done k :: frames) v, .mark '\x7d' =>
    some (.ok (after frames (.obj (Fields.insert k v done))))
  | after _ _, _ => none

/-- The state after a word at a position. -/
def next (state : ReaderState) (position : Nat) (t : Token) : Except DecodeFault ReaderState :=
  match state.next? t with
  | some r => r
  | none => .error (.malformed state.complaint position)

/-- Reads the words of a text of a length. -/
def run (length : Nat) : ReaderState → List (Nat × Token) → Except DecodeFault Json
  | after [] v, [] => .ok v
  | state, [] => .error (.malformed state.complaint length)
  | state, (position, t) :: rest =>
    match state.next position t with
    | .ok state => run length state rest
    | .error fault => .error fault

end ReaderState

/-- The value that a JSON text writes. -/
def decode (s : List Char) : Except DecodeFault Json :=
  if s.head? = some '\ufeff' then .error (.malformed .byteOrderMark 0)
  else ReaderState.run s.length (.value []) (tokens s)

/-! ## Nesting -/

/-- How many containers are open and whether the last one is an object, right after it was
opened. -/
def ReaderState.opening? : ReaderState → Option (Nat × Bool)
  | firstItem frames => some (frames.length + 1, false)
  | firstKey frames => some (frames.length + 1, true)
  | _ => none

/-- The containers that words open, from a state on, up to the word that is at fault. -/
def openingsFrom : ReaderState → List (Nat × Token) → List (Nat × Bool)
  | _, [] => []
  | state, (position, t) :: rest =>
    match state.next position t with
    | .ok state => state.opening?.toList ++ openingsFrom state rest
    | .error _ => []

/-- The containers that are opened while a text is decoded, in order: how many are open then, and
whether it is an object. -/
def openings (s : List Char) : List (Nat × Bool) :=
  if s.head? = some '\ufeff' then [] else openingsFrom (.value []) (tokens s)

/-! ## Faults -/

/-- Where a position lies in a text: the line and the column, both counted from one. -/
def lineAndColumn (s : List Char) (position : Nat) : Nat × Nat :=
  let before := s.take position
  (before.count '\n' + 1, (before.reverse.takeWhile (· ≠ '\n')).length + 1)

/-- The wording of a fault of a text. -/
def DecodeFault.message (s : List Char) : DecodeFault → String
  | .malformed complaint position =>
    let (line, column) := lineAndColumn s position
    complaint.text ++ ": line " ++ toString line ++ " column " ++ toString column ++
      " (char " ++ toString position ++ ")"
  | .numeral fault => fault.message

example : openings "[\x7b\"a\":[]\x7d,[".toList =
    [(1, false), (2, true), (3, false), (2, false)] := by
  decide +kernel

theorem decode_of_byteOrderMark (s : List Char) :
    decode ('\ufeff' :: s) = .error (.malformed .byteOrderMark 0) := by
  simp [decode]

end TicketMarkup.Json
