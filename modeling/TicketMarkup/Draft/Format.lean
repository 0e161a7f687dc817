import TicketMarkup.Draft.Display
import TicketMarkup.Format.Basic
import TicketMarkup.Traced

/-!
# Formatting drafts

Drafts are formatted as nodes are (`TicketMarkup.Format.Basic`), with the values of their fields as
they are. A text in place of a sequence formats to that text alone, without a paragraph.

Main statement: `format_str`, a text is formatted to itself in every context.
-/

namespace TicketMarkup

/-- A formatted draft, or `none` for a paragraph break. -/
abbrev DraftLeaf := Option DraftDisplay

/-- A step of formatting. -/
abbrev Formatting := Traced FormatRecord DraftFault

namespace Draft

/-! ## Display nodes of the kinds -/

/-- The tag of a heading: its level as it is written if it lies between one and six, and else the
nearer of the two. -/
def levelTag : Json → Except DraftFault String
  | .int n => .ok (headingTag n)
  | .bool _ => .ok (headingTag 1)
  | .float x =>
    .ok (if x.ltInt 6 then (if x.gtInt 1 then "h" ++ x.text else headingTag 1) else headingTag 6)
  | v => .error (.levelNotNumber v.type)

/-- A link into the tracker of the context. -/
def link (ctx : Context) (path : String) (text : Json) : DraftDisplay :=
  .element "a" [("href", .str (ctx.address path))] [.value text]

/-- Leaves a record of something of an unknown kind, and shows its placeholder. -/
def placeholder (tag : Json) : Formatting DraftDisplay := do
  Traced.leave (.unknownKind tag)
  return .ofDisplay (unknownElement tag.text)

/-! ## Sequences -/

/-- The paragraphs of a sequence of formatted drafts. -/
def paragraphs (leaves : List DraftLeaf) : List DraftDisplay := (groups leaves).map (.plain "p")

/-- A sequence of formatted drafts as inline content: its paragraph breaks are dropped, and a
record says how many. -/
def withoutBreaks (leaves : List DraftLeaf) : Formatting (List DraftDisplay) :=
  match leaves.countP Option.isNone with
  | 0 => return withoutMarks leaves
  | n + 1 => do
    Traced.leave (.droppedBreaks (n + 1))
    return withoutMarks leaves

/-- The members of a value that stands where inline content belongs. -/
def inlineMembers : List Json → Formatting (List DraftDisplay)
  | [] => return []
  | .str s :: rest => do
    let more ← inlineMembers rest
    return .text s :: more
  | v :: rest => do
    let first ← placeholder (.str v.type.word)
    let more ← inlineMembers rest
    return first :: more

/-- A value that stands where inline content belongs. A text stands alone; of an object the names
of the fields count. -/
def inlineValue : Json → Formatting (List DraftDisplay)
  | .str s => return [.text s]
  | .arr items => inlineMembers items
  | .obj fields => inlineMembers (fields.map fun f => .str f.1)
  | v => Traced.fail (.notSequence v.type)

mutual

/-- A draft formatted in a context. -/
def format (ctx : Context) : Draft → Formatting DraftLeaf
  | .str s => return some (.text s)
  | .foreign className => return some (← placeholder (.str className))
  | .unknown tag => return some (← placeholder tag)
  | .node kind fields content =>
    match kind with
    | .heading => do
      let tag ← Traced.ofExcept (levelTag (field "level" (.int 1) fields))
      return some (.plain tag [.value (text fields)])
    | .bulletList => do
      let items ← blockContents ctx content
      return some (.plain "ul" (items.map (.plain "li")))
    | .numberedList => do
      let items ← blockContents ctx content
      let first := (field "number" (.int 1) fields).text
      return some (.element "ol" [("start", .str first)] (items.map (.plain "li")))
    | .quote => do
      let children ← blockContents ctx content
      return some (.plain "blockquote" children.flatten)
    | .preformatted => return some (.codeBlock (text fields) (field "language" .null fields))
    | .bold => do
      let children ← inlineContents ctx content
      return some (.plain Style.bold.displayTag children.flatten)
    | .italic => do
      let children ← inlineContents ctx content
      return some (.plain Style.italic.displayTag children.flatten)
    | .strike => do
      let children ← inlineContents ctx content
      return some (.plain Style.strike.displayTag children.flatten)
    | .code => return some (.plain "code" [.value (text fields)])
    | .rule => return some (.plain "hr" [])
    | .lineBreak => return some (.plain "br" [])
    | .link => do
      let label ← inlineContents ctx content
      let label ← if content.isEmpty then inlineValue (text fields) else pure label.flatten
      return some (.element "a" [("href", field "url" (.str "") fields)] label)
    | .comment =>
      let path := commentPath (field "ticket" .null fields) (field "comment" .null fields)
      return some (link ctx path (text fields))
    | .ticket => return some (link ctx (Target.ticket.path (field "id" .null fields)) (text fields))
    | .mention => return some (.userLink (text fields))
    | .commit => return some (link ctx (Target.commit.path (field "id" .null fields)) (text fields))
    | .attachment =>
      let path := attachmentPath ctx (field "ticket" .null fields) (field "id" .null fields)
      return some (link ctx path (text fields))
    | .image => return some (.ofDisplay (imageElement (field "url" (.str "") fields).text))
    | .paragraphBreak => return none
    | .text => return some (.value (text fields))

/-- Each draft of a sequence, formatted. -/
def leaves (ctx : Context) : List Draft → Formatting (List DraftLeaf)
  | [] => return []
  | d :: rest => do
    let leaf ← d.format ctx
    let more ← leaves ctx rest
    return leaf :: more

/-- A sequence of drafts as paragraphs; a text in its place stands alone. -/
def blockContent (ctx : Context) : DraftSequence → Formatting (List DraftDisplay)
  | .text s => return [.text s]
  | .nodes members => do
    let found ← leaves ctx members
    return paragraphs found
  | .value v => Traced.fail (.notSequence v.type)

/-- A sequence of drafts as inline content. -/
def inlineContent (ctx : Context) : DraftSequence → Formatting (List DraftDisplay)
  | .text s => return [.text s]
  | .nodes members => do
    let found ← leaves ctx members
    withoutBreaks found
  | .value v => Traced.fail (.notSequence v.type)

/-- Each sequence as paragraphs. -/
def blockContents (ctx : Context) : List DraftSequence → Formatting (List (List DraftDisplay))
  | [] => return []
  | s :: rest => do
    let first ← blockContent ctx s
    let more ← blockContents ctx rest
    return first :: more

/-- Each sequence as inline content. -/
def inlineContents (ctx : Context) : List DraftSequence → Formatting (List (List DraftDisplay))
  | [] => return []
  | s :: rest => do
    let first ← inlineContent ctx s
    let more ← inlineContents ctx rest
    return first :: more

end

theorem format_str (ctx : Context) (s : String) :
    (format ctx (.str s)).outcome = .ok (some (.text s)) := by
  simp [format]

end Draft

end TicketMarkup
