import TicketMarkup.Display.Basic
import TicketMarkup.Draft.Basic

/-!
# Displays of drafts

What drafts format to: a display tree in which any value may stand for a text, for the value of an
attribute, for the code and the language of a code block, or for a user. Display trees are among
them (`ofDisplay`).

The plain text of such a tree is a value too, and there is none if a value stands alone where a
display node belongs.

Main statement: `plainText_ofDisplay`, the plain text of a display tree is the one that it has.
-/

namespace TicketMarkup

/-- A display node of any values. -/
inductive DraftDisplay where
  /-- A value, which should be a text. -/
  | value (v : Json)
  | element (tag : String) (attrs : Fields) (children : List DraftDisplay)
  | codeBlock (code language : Json)
  | userLink (user : Json)
  deriving Inhabited

namespace DraftDisplay

/-- A text. -/
def text (s : String) : DraftDisplay := .value (.str s)

/-- An element without attributes. -/
def plain (tag : String) (children : List DraftDisplay) : DraftDisplay := element tag [] children

mutual

/-- A display node as one of any values. -/
def ofDisplay : Display → DraftDisplay
  | .text s => text s
  | .element tag attrs children =>
    element tag (attrs.map fun a => (a.1, .str a.2)) (ofDisplays children)
  | .codeBlock code language => codeBlock (.str code) ((language.map Json.str).getD .null)
  | .userLink user => userLink (.str user)

/-- Display nodes as ones of any values. -/
def ofDisplays : List Display → List DraftDisplay
  | [] => []
  | node :: rest => ofDisplay node :: ofDisplays rest

end

/-! ## Plain text -/

/-- Texts put together, the first of which has an index among its siblings. -/
def joinTexts (index : Nat) : List Json → Except DraftFault String
  | [] => .ok ""
  | .str s :: rest => (joinTexts (index + 1) rest).map (s ++ ·)
  | v :: _ => .error (.notText index v.type)

mutual

/-- The text of a node without any markup. -/
def plainText : DraftDisplay → Except DraftFault Json
  | value (.str s) => .ok (.str s)
  | value v => .error (.notDisplay v.type)
  | element _ _ children =>
    match plainTexts children with
    | .error fault => .error fault
    | .ok texts => (joinTexts 0 texts).map .str
  | codeBlock code _ => .ok code
  | userLink user => .ok (.str ("@" ++ user.text))

/-- The texts of the nodes, in order. -/
def plainTexts : List DraftDisplay → Except DraftFault (List Json)
  | [] => .ok []
  | node :: rest =>
    match node.plainText with
    | .error fault => .error fault
    | .ok v => (plainTexts rest).map (v :: ·)

end

theorem joinTexts_map_str (index : Nat) (nodes : List Display) :
    joinTexts index (nodes.map fun d => .str d.plainText) = .ok (Display.plainTexts nodes) := by
  induction nodes generalizing index with
  | nil => rfl
  | cons node rest ih => simp [joinTexts, ih, Except.map, Display.plainTexts]

mutual

/-- The plain text of a display tree is the one that it has. -/
theorem plainText_ofDisplay : ∀ d : Display, (ofDisplay d).plainText = .ok (.str d.plainText)
  | .text s => by simp [ofDisplay, text, plainText, Display.plainText]
  | .element tag attrs children => by
    simp [ofDisplay, plainText, plainTexts_ofDisplays children, joinTexts_map_str, Except.map,
      Display.plainText]
  | .codeBlock code language => by simp [ofDisplay, plainText, Display.plainText]
  | .userLink user => by simp [ofDisplay, plainText, Display.plainText, Json.text]

theorem plainTexts_ofDisplays : ∀ nodes : List Display,
    plainTexts (ofDisplays nodes) = .ok (nodes.map fun d => .str d.plainText)
  | [] => rfl
  | node :: rest => by
    simp [ofDisplays, plainTexts, plainText_ofDisplay node, plainTexts_ofDisplays rest, Except.map]

end

end DraftDisplay

end TicketMarkup
