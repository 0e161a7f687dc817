import TicketMarkup.Json.Display
import TicketMarkup.Source.Node

/-!
# Drafts

A draft is a node put together by hand, whose fields were never checked: a field may hold any
value, a text or any other value may stand where a sequence of nodes belongs, and a sequence may
have members that are no nodes at all. Formatting and dumping take drafts as far as they go, and
fail at the first part that they cannot make anything of (`DraftFault`).

Main statement: `field_of_get?`, a field has the value that it was given.
-/

namespace TicketMarkup

mutual

/-- A node put together by hand. -/
inductive Draft where
  /-- Inline text. -/
  | str (s : String)
  /-- Something that is no node, with the name of its class. -/
  | foreign (className : String)
  /-- A node of unknown kind, whose tag may be any value. -/
  | unknown (tag : Json)
  /-- A node of a kind with some fields and with its sequences of nodes: the items of a list, the
  children of other kinds, and none for a link without label. -/
  | node (kind : Kind) (fields : Fields) (content : List DraftSequence)

/-- A sequence of drafts, or what stands in its place. -/
inductive DraftSequence where
  /-- A text, which is a sequence of characters to those who ask for its members. -/
  | text (s : String)
  | nodes (members : List Draft)
  /-- A value that is no sequence. -/
  | value (v : Json)

end

instance : Inhabited Draft := ⟨.str ""⟩

instance : Inhabited DraftSequence := ⟨.text ""⟩

/-- Why a draft cannot be formatted or dumped. -/
inductive DraftFault where
  /-- The level of a heading is no number. -/
  | levelNotNumber (type : JsonType)
  /-- A value stands where nodes belong and is no sequence. -/
  | notSequence (type : JsonType)
  /-- Something that is no node has no data. -/
  | notNode (className : String)
  /-- A value stands where a display node belongs, and has no plain text. -/
  | notDisplay (type : JsonType)
  /-- The plain text of a child of an element is no text. -/
  | notText (index : Nat) (type : JsonType)
  deriving DecidableEq, Repr

/-- The wording of a fault. -/
def DraftFault.message : DraftFault → String
  | levelNotNumber type =>
    "'<' not supported between instances of '" ++ type.word ++ "' and 'int'"
  | notSequence type => "'" ++ type.word ++ "' object is not iterable"
  | notNode className => "'" ++ className ++ "' object has no attribute 'type'"
  | notDisplay type => "'" ++ type.word ++ "' object has no attribute 'plain_text'"
  | notText index type =>
    "sequence item " ++ Numeral.text index ++ ": expected str instance, " ++ type.word ++ " found"

namespace Draft

/-- A field of a draft, with the value that it has if it is not given. -/
def field (name : String) (default : Json) (fields : Fields) : Json :=
  (Fields.get? name fields).getD default

theorem field_of_get? {name : String} {fields : Fields} {v : Json}
    (h : Fields.get? name fields = some v) (default : Json) : field name default fields = v := by
  simp [field, h]

/-- The field that holds the text of a draft. -/
def text (fields : Fields) : Json := field "text" (.str "") fields

end Draft

end TicketMarkup
