import TicketMarkup.Json.Basic
import TicketMarkup.Number.Numeral
import TicketMarkup.Number.Shortest
import TicketMarkup.Text.Lines

/-!
# Values as text

How a JSON value stands in a link, an attribute or a message. `text` is the bare form: a string is
itself, and an identifier in a URL is written so. `quoted` is the form inside a container and
in messages, where strings are quoted. Both write integers of any length; whether each of them is
short enough to be written in decimal is told by `isWritable`.

Main statements: `text_eq_quoted`, the two differ on strings only, and `areWritable_eq_all`.
-/

namespace TicketMarkup.Json

mutual

/-- A value with its strings in quotes. -/
def quotedText : Json → List Char
  | .null => "None".toList
  | .bool b => if b then "True".toList else "False".toList
  | .int n => Numeral.write n
  | .float x => x.text.toList
  | .str s => Text.quotedChars s.toList
  | .arr items => '[' :: Text.join ", ".toList (itemTexts items) ++ [']']
  | .obj fields => '\x7b' :: Text.join ", ".toList (fieldTexts fields) ++ ['\x7d']

/-- The items of an array, each as `quotedText` writes it. -/
def itemTexts : List Json → List (List Char)
  | [] => []
  | v :: rest => quotedText v :: itemTexts rest

/-- The fields of an object: the quoted key, a colon, and the value. -/
def fieldTexts : List (String × Json) → List (List Char)
  | [] => []
  | (k, v) :: rest =>
    (Text.quotedChars k.toList ++ ':' :: ' ' :: quotedText v) :: fieldTexts rest

end

/-- A value as text; a string is itself. -/
def text : Json → String
  | .str s => s
  | v => String.ofList (quotedText v)

/-- A value as text with its strings in quotes. -/
def quoted (v : Json) : String := String.ofList v.quotedText

mutual

/-- Whether every integer in a value can be written. -/
def isWritable : Json → Bool
  | .int n => (Numeral.write? n).isOk
  | .arr items => areWritable items
  | .obj fields => fieldsWritable fields
  | _ => true

/-- Whether every integer in the items of an array can be written. -/
def areWritable : List Json → Bool
  | [] => true
  | v :: rest => isWritable v && areWritable rest

/-- Whether every integer in the fields of an object can be written. -/
def fieldsWritable : List (String × Json) → Bool
  | [] => true
  | (_, v) :: rest => isWritable v && fieldsWritable rest

end

theorem areWritable_eq_all (items : List Json) : areWritable items = items.all isWritable := by
  induction items with
  | nil => rfl
  | cons v rest ih => rw [areWritable, ih, List.all_cons]

theorem fieldsWritable_eq_all (fields : List (String × Json)) :
    fieldsWritable fields = fields.all fun f => f.2.isWritable := by
  induction fields with
  | nil => rfl
  | cons f rest ih => rw [fieldsWritable, ih, List.all_cons]

theorem text_eq_quoted {v : Json} (h : v.type ≠ .str) : v.text = v.quoted := by
  cases v <;> first | rfl | exact absurd rfl h

example : (Json.arr [.int 1, .str "a", .null, .obj [("k", .bool true)]]).text =
    "[1, 'a', None, \x7b'k': True\x7d]" := by decide +kernel

end TicketMarkup.Json
