import TicketMarkup.Draft.Basic
import TicketMarkup.Source.Dump

/-!
# Dumping drafts

The data of a draft holds its fields as they are, without those that are null. A text in place of a
sequence dumps as the sequence of its characters. Something that is no node has no data.

Main statement: `dumpMembers_append`, sequences are dumped member by member.
-/

namespace TicketMarkup.Draft

/-- The fields of a kind, in order, each with its value if it is not given. A field without value
must be given. -/
def fieldsOf : Kind → List (String × Json)
  | .heading => [("level", .null), ("text", .null)]
  | .preformatted => [("text", .null), ("language", .null)]
  | .code => [("text", .null)]
  | .link => [("url", .null), ("text", .str "")]
  | .comment => [("ticket", .null), ("comment", .null), ("text", .null)]
  | .ticket => [("id", .null), ("text", .null)]
  | .mention => [("text", .null)]
  | .commit => [("id", .null), ("text", .null)]
  | .attachment => [("id", .null), ("text", .null), ("ticket", .null)]
  | .image => [("url", .null)]
  | .text => [("text", .null)]
  | _ => []

/-- The fields of a draft of a kind that are not null. -/
def presentFields (kind : Kind) (fields : Fields) : Fields :=
  (fieldsOf kind).flatMap fun f => presentField f.1 (field f.1 f.2 fields)

mutual

/-- The data of a draft. -/
def dump : Draft → Except DraftFault Json
  | .str s => .ok (.str s)
  | .foreign className => .error (.notNode className)
  | .unknown tag => .ok (.obj [("type", tag)])
  | .node kind fields content =>
    match kind with
    | .bulletList => do
      let items ← dumpSequences content
      return taggedObject kind.tag [("children", .arr items)]
    | .numberedList => do
      let items ← dumpSequences content
      return taggedObject kind.tag
        [("children", .arr items), ("number", field "number" (.int 1) fields)]
    | kind => do
      let children ← dumpChildren content
      return taggedObject kind.tag (children ++ presentFields kind fields)

/-- The data of the drafts of a sequence. -/
def dumpMembers : List Draft → Except DraftFault (List Json)
  | [] => .ok []
  | d :: rest => do
    let first ← d.dump
    let more ← dumpMembers rest
    return first :: more

/-- The data of a sequence. -/
def dumpSequence : DraftSequence → Except DraftFault Json
  | .text s => .ok (.arr (s.toList.map fun c => .str c.toString))
  | .nodes members => do
    let items ← dumpMembers members
    return .arr items
  | .value v => .error (.notSequence v.type)

/-- The data of sequences. -/
def dumpSequences : List DraftSequence → Except DraftFault (List Json)
  | [] => .ok []
  | s :: rest => do
    let first ← dumpSequence s
    let more ← dumpSequences rest
    return first :: more

/-- The field with the children of a draft that is no list; null in their place is left out. -/
def dumpChildren : List DraftSequence → Except DraftFault Fields
  | [] => .ok []
  | .value .null :: _ => .ok []
  | s :: _ => do
    let children ← dumpSequence s
    return [("children", children)]

end

theorem dumpMembers_append (a b : List Draft) :
    dumpMembers (a ++ b) = (dumpMembers a).bind fun x => (dumpMembers b).map (x ++ ·) := by
  induction a with
  | nil => simp only [List.nil_append, dumpMembers]; cases dumpMembers b <;> rfl
  | cons d rest ih =>
    rw [List.cons_append, dumpMembers, ih, dumpMembers]
    cases d.dump with
    | error _ => rfl
    | ok _ =>
      cases dumpMembers rest with
      | error _ => rfl
      | ok _ => cases dumpMembers b <;> rfl

end TicketMarkup.Draft
