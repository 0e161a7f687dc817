import TicketMarkup.Source.Node

/-!
# Dumping

A tree of nodes as the data that loads into it. Every field of a node is written, also one with its
default value, except those that are absent.

Main statements: `dumpNodes_eq_map` and `dumpItems_eq_map`, sequences are dumped node by node.
-/

namespace TicketMarkup

/-- A field, unless its value is null. -/
def presentField (name : String) (v : Json) : Fields :=
  if v = .null then [] else [(name, v)]

/-- A text as a value, null if there is none. -/
def optionalText (s : Option String) : Json :=
  match s with
  | some s => .str s
  | none => .null

/-- The data of a node of a kind with some fields. -/
def taggedObject (tag : String) (fields : Fields) : Json := .obj (("type", .str tag) :: fields)

mutual

/-- The data of a node. -/
def Node.dump : Node → Json
  | .str s => .str s
  | .heading level text =>
    taggedObject Kind.heading.tag [("level", .int level), ("text", .str text)]
  | .list none items =>
    taggedObject Kind.bulletList.tag [("children", .arr (dumpItems items))]
  | .list (some first) items =>
    taggedObject Kind.numberedList.tag
      [("children", .arr (dumpItems items)), ("number", .int first)]
  | .quote children => taggedObject Kind.quote.tag [("children", .arr (dumpNodes children))]
  | .preformatted text language =>
    taggedObject Kind.preformatted.tag
      (("text", .str text) :: presentField "language" (optionalText language))
  | .styled style children =>
    taggedObject style.kind.tag [("children", .arr (dumpNodes children))]
  | .code text => taggedObject Kind.code.tag [("text", .str text)]
  | .rule => taggedObject Kind.rule.tag []
  | .lineBreak => taggedObject Kind.lineBreak.tag []
  | .link url label text =>
    taggedObject Kind.link.tag (("url", .str url) :: dumpLabel label ++ [("text", .str text)])
  | .comment ticket comment text =>
    taggedObject Kind.comment.tag
      (presentField "ticket" ticket ++ presentField "comment" comment ++ [("text", .str text)])
  | .reference target id text =>
    taggedObject target.kind.tag (presentField "id" id ++ [("text", .str text)])
  | .mention user => taggedObject Kind.mention.tag [("text", .str user)]
  | .attachment id text ticket =>
    taggedObject Kind.attachment.tag
      (presentField "id" id ++ ("text", .str text) :: presentField "ticket" ticket)
  | .image url => taggedObject Kind.image.tag [("url", .str url)]
  | .paragraphBreak => taggedObject Kind.paragraphBreak.tag []
  | .text s => taggedObject Kind.text.tag [("text", .str s)]
  | .unknown tag fields => taggedObject tag fields

/-- The data of a sequence of nodes, node by node. -/
def dumpNodes : List Node → List Json
  | [] => []
  | node :: rest => node.dump :: dumpNodes rest

/-- The label of a link as a field, if it has one. -/
def dumpLabel : Option (List Node) → Fields
  | none => []
  | some nodes => [("children", .arr (dumpNodes nodes))]

/-- The data of the items of a list. -/
def dumpItems : List (List Node) → List Json
  | [] => []
  | item :: rest => .arr (dumpNodes item) :: dumpItems rest

end

/-- The data of a sequence of nodes. -/
def dump (nodes : List Node) : Json := .arr (dumpNodes nodes)

theorem dumpNodes_eq_map (nodes : List Node) : dumpNodes nodes = nodes.map Node.dump := by
  induction nodes with
  | nil => rfl
  | cons node rest ih => simp [dumpNodes, ih]

theorem dumpItems_eq_map (items : List (List Node)) :
    dumpItems items = items.map fun item => dump item := by
  induction items with
  | nil => rfl
  | cons item rest ih => simp [dumpItems, ih, dump]

end TicketMarkup
