import TicketMarkup.Display.Basic
import TicketMarkup.Format.Paragraph
import TicketMarkup.Json.Display
import TicketMarkup.Source.Node

/-!
# Formatting

A tree of markup nodes becomes a display tree. A sequence is formatted node by node and then, where
blocks may stand, grouped into paragraphs; in a run of inline content the paragraph breaks are
dropped. References become links into the tracker of the context, and an attachment that names no
ticket belongs to the ticket of the context.

A context is what formatting a text depends on besides the text: the ticket that the text belongs to
and the address of the tracker. Both may be any value; null stands for no ticket.

Formatting leaves records of the nodes of unknown kinds and of dropped breaks (`Node.records`). It
never fails, which takes two things for granted: that there is stack for any depth, and that every
integer can be written in decimal, while `Numeral.write?` writes none that is too long. An integer
in an identifier or in a context can be too long only if it was not read from a text; whether one is
written is told by `format?`.

Main statements: `Context.ofFields_nil`, without fields a context is the empty one; `leaves_eq_map`,
`leaves_append` and `itemElements_eq_map`, sequences are formatted node by node.
-/

namespace TicketMarkup

/-! ## Contexts -/

/-- The context of a text. -/
structure Context where
  ticket : Json
  /-- The address of the tracker. -/
  base : Json
  deriving DecidableEq

namespace Context

/-- The address of the tracker unless another is given. -/
def defaultBase : String := "https://core.trac.wordpress.org"

/-- The context that belongs to no ticket. -/
def empty : Context := ⟨.null, .str defaultBase⟩

/-- The context that some fields describe. An address that is not given, or is empty, is the
default; other fields are not looked at. -/
def ofFields (fields : Fields) : Context :=
  let base := (Fields.get? "trac_url" fields).getD .null
  ⟨(Fields.get? "ticket" fields).getD .null, if base.isTruthy then base else .str defaultBase⟩

/-- Without fields a context is the empty one. -/
theorem ofFields_nil : ofFields [] = empty := rfl

/-- The address of something in the tracker. -/
def address (ctx : Context) (path : String) : String := ctx.base.text ++ "/" ++ path

end Context

/-! ## Display nodes of the kinds -/

/-- A formatted node, or `none` for a paragraph break. -/
abbrev Leaf := Option Display

/-- The tag of a heading: its level, at least one and at most six. -/
def headingTag (level : Int) : String := "h" ++ Numeral.text (max 1 (min 6 level))

/-- The tag of emphasised content. -/
def Style.displayTag : Style → String
  | .bold => "strong"
  | .italic => "em"
  | .strike => "strike"

/-- The part of the tracker that a target lies in. -/
def Target.folder : Target → String
  | .ticket => "ticket"
  | .commit => "changeset"

/-- A link into the tracker of the context. -/
def trackerLink (ctx : Context) (path text : String) : Display :=
  .element "a" [("href", ctx.address path)] [.text text]

/-- Where a comment on a ticket lies in the tracker. -/
def commentPath (ticket comment : Json) : String :=
  "ticket/" ++ ticket.text ++ "#comment-" ++ comment.text

/-- Where a ticket or a commit lies in the tracker. -/
def Target.path (target : Target) (id : Json) : String := target.folder ++ "/" ++ id.text

/-- The ticket that an attachment belongs to: its own, else that of the context, else zero. -/
def attachmentTicket (ctx : Context) (ticket : Json) : Json :=
  if ticket ≠ .null then ticket else if ctx.ticket ≠ .null then ctx.ticket else .int 0

/-- Where a file attached to a ticket lies in the tracker. -/
def attachmentPath (ctx : Context) (ticket id : Json) : String :=
  "attachment/ticket/" ++ (attachmentTicket ctx ticket).text ++ "/" ++ id.text

/-- A link to a comment on a ticket. -/
def commentLink (ctx : Context) (ticket comment : Json) (text : String) : Display :=
  trackerLink ctx (commentPath ticket comment) text

/-- A link to a ticket or a commit. -/
def referenceLink (ctx : Context) (target : Target) (id : Json) (text : String) : Display :=
  trackerLink ctx (target.path id) text

/-- A link to a file attached to a ticket. -/
def attachmentLink (ctx : Context) (id : Json) (text : String) (ticket : Json) : Display :=
  trackerLink ctx (attachmentPath ctx ticket id) text

/-- An image without alternative text. -/
def imageElement (url : String) : Display := .element "img" [("alt", ""), ("src", url)] []

/-- A list whose items are given, numbered from a number if there is one. -/
def listElement (first : Option String) (items : List Display) : Display :=
  match first with
  | none => .element "ul" [] items
  | some first => .element "ol" [("start", first)] items

/-- The visible placeholder of something of an unknown kind. -/
def unknownElement (tag : String) : Display :=
  .element "span" [("class", "unknown-node")] [.text ("Unknown type " ++ tag)]

/-! ## Sequences -/

/-- The paragraphs of a sequence of formatted nodes. -/
def paragraphs (leaves : List Leaf) : List Display := (groups leaves).map (Display.plain "p")

mutual

/-- A node formatted in a context. -/
def Node.format (ctx : Context) : Node → Leaf
  | .str s => some (.text s)
  | .heading level text => some (.plain (headingTag level) [.text text])
  | .list first items => some (listElement (first.map Numeral.text) (itemElements ctx items))
  | .quote children => some (.plain "blockquote" (paragraphs (leaves ctx children)))
  | .preformatted text language => some (.codeBlock text language)
  | .styled style children => some (.plain style.displayTag (withoutMarks (leaves ctx children)))
  | .code text => some (.plain "code" [.text text])
  | .rule => some (.plain "hr" [])
  | .lineBreak => some (.plain "br" [])
  | .link url label text => some (.element "a" [("href", url)] (labelNodes ctx text label))
  | .comment ticket comment text => some (commentLink ctx ticket comment text)
  | .reference target id text => some (referenceLink ctx target id text)
  | .mention user => some (.userLink user)
  | .attachment id text ticket => some (attachmentLink ctx id text ticket)
  | .image url => some (imageElement url)
  | .paragraphBreak => none
  | .text s => some (.text s)
  | .unknown tag _ => some (unknownElement tag)

/-- The nodes of a sequence, each formatted. -/
def leaves (ctx : Context) : List Node → List Leaf
  | [] => []
  | node :: rest => node.format ctx :: leaves ctx rest

/-- The content of a link: its label, or its text if it has no label. -/
def labelNodes (ctx : Context) (text : String) : Option (List Node) → List Display
  | none => [.text text]
  | some nodes => withoutMarks (leaves ctx nodes)

/-- The items of a list, each with its paragraphs. -/
def itemElements (ctx : Context) : List (List Node) → List Display
  | [] => []
  | item :: rest => .plain "li" (paragraphs (leaves ctx item)) :: itemElements ctx rest

end

/-- A sequence of nodes as paragraphs. -/
def format (ctx : Context) (nodes : List Node) : List Display := paragraphs (leaves ctx nodes)

/-- A sequence of nodes as inline content, without its paragraph breaks. -/
def formatInline (ctx : Context) (nodes : List Node) : List Display :=
  withoutMarks (leaves ctx nodes)

/-- A sequence is formatted node by node. -/
theorem leaves_eq_map (ctx : Context) (nodes : List Node) :
    leaves ctx nodes = nodes.map (Node.format ctx) := by
  induction nodes with
  | nil => rfl
  | cons node rest ih => simp [leaves, ih]

/-- Two sequences one after the other are formatted one after the other. -/
theorem leaves_append (ctx : Context) (a b : List Node) :
    leaves ctx (a ++ b) = leaves ctx a ++ leaves ctx b := by
  simp [leaves_eq_map]

/-- Each item of a list is an element with the item formatted as a text of its own. -/
theorem itemElements_eq_map (ctx : Context) (items : List (List Node)) :
    itemElements ctx items = items.map fun item => Display.plain "li" (format ctx item) := by
  induction items with
  | nil => rfl
  | cons item rest ih => simp [itemElements, ih, format]

/-! ## Records -/

/-- What formatting leaves a record of. -/
inductive FormatRecord where
  /-- Something of an unknown kind. -/
  | unknownKind (tag : Json)
  /-- Paragraph breaks in inline content. -/
  | droppedBreaks (count : Nat)
  deriving DecidableEq

/-- The wording of a record. -/
def FormatRecord.message : FormatRecord → String
  | unknownKind tag => "Unknown node type " ++ tag.quoted
  | droppedBreaks count =>
    "Dropped " ++ String.ofList (Nat.toDigits 10 count) ++ " paragraph marker(s) in inline content"

/-- Whether a node is a paragraph break. -/
def Node.isBreak : Node → Bool
  | .paragraphBreak => true
  | _ => false

/-- The record of the paragraph breaks that inline content drops. -/
def breakRecords (nodes : List Node) : List FormatRecord :=
  match nodes.countP Node.isBreak with
  | 0 => []
  | n + 1 => [.droppedBreaks (n + 1)]

mutual

/-- The records that formatting a node leaves, in order. -/
def Node.records : Node → List FormatRecord
  | .list _ items => itemRecords items
  | .quote children => nodeRecords children
  | .styled _ children => nodeRecords children ++ breakRecords children
  | .link _ label _ => labelRecords label
  | .unknown tag _ => [.unknownKind (.str tag)]
  | _ => []

/-- The records of the nodes of a sequence, in order. -/
def nodeRecords : List Node → List FormatRecord
  | [] => []
  | node :: rest => node.records ++ nodeRecords rest

/-- The records of the label of a link. -/
def labelRecords : Option (List Node) → List FormatRecord
  | none => []
  | some nodes => nodeRecords nodes ++ breakRecords nodes

/-- The records of the items of a list, in order. -/
def itemRecords : List (List Node) → List FormatRecord
  | [] => []
  | item :: rest => nodeRecords item ++ itemRecords rest

end

/-- The records that formatting a sequence as inline content leaves. -/
def inlineRecords (nodes : List Node) : List FormatRecord := nodeRecords nodes ++ breakRecords nodes

end TicketMarkup
