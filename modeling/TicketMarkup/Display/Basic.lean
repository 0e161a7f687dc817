import TicketMarkup.Json.Display

/-!
# Display trees

What a formatted text is made of: texts, elements with attributes and children, code blocks and
links to users. Renderers turn display trees into HTML or into plain text with markup.

Main statements: `plainTexts_append` and `plainText_element`, the plain text of a tree is the texts
in it, in order.
-/

namespace TicketMarkup

/-- A display node. -/
inductive Display where
  | text (s : String)
  | element (tag : String) (attrs : List (String × String)) (children : List Display)
  /-- A code block with an optional language. -/
  | codeBlock (code : String) (language : Option String)
  /-- A link to a user's profile. -/
  | userLink (user : String)
  deriving Inhabited

namespace Display

mutual

/-- The text of a node without any markup. -/
def plainText : Display → String
  | text s => s
  | element _ _ children => plainTexts children
  | codeBlock code _ => code
  | userLink user => "@" ++ user

/-- The texts of the nodes, one after the other. -/
def plainTexts : List Display → String
  | [] => ""
  | node :: rest => node.plainText ++ plainTexts rest

end

theorem plainText_element (tag : String) (attrs : List (String × String))
    (children : List Display) :
    (element tag attrs children).plainText = plainTexts children := by
  simp [plainText]

theorem plainTexts_append (a b : List Display) :
    plainTexts (a ++ b) = plainTexts a ++ plainTexts b := by
  induction a with
  | nil => simp [plainTexts]
  | cons node rest ih => simp [plainTexts, ih, String.append_assoc]

/-- The value of the first attribute with a name. -/
def attribute? (name : String) : List (String × String) → Option String
  | [] => none
  | (k, v) :: rest => if k = name then some v else attribute? name rest

/-- The value of an attribute of an element; other nodes have none. -/
def get? (name : String) : Display → Option String
  | element _ attrs _ => attribute? name attrs
  | _ => none

/-- An attribute's name without the underscores at its end, which keep it apart from a reserved
word. -/
def attributeName (name : String) : String :=
  String.ofList (name.toList.reverse.dropWhile (· = '_')).reverse

/-- The name that an attribute cannot have, because it stands for the tag. -/
def tagName : String := "tag"

/-- An attribute has the name that stands for the tag. -/
structure TagGivenTwice where
  deriving DecidableEq, Repr

/-- The wording of the fault. -/
def TagGivenTwice.message (_ : TagGivenTwice) : String :=
  "element() got multiple values for argument '" ++ tagName ++ "'"

/-- An element whose attributes have any values. An attribute that is given twice stays in its
place and has the last value. -/
def ofValues (tag : String) (attrs : Fields) (children : List Display) :
    Except TagGivenTwice Display :=
  let attrs : Fields := attrs.foldl (fun known a => Fields.insert a.1 a.2 known) []
  if (Fields.get? tagName attrs).isSome then .error ⟨⟩
  else .ok (element tag (attrs.map fun a => (attributeName a.1, a.2.text)) children)

/-- An element without attributes. -/
def plain (tag : String) (children : List Display) : Display := element tag [] children

end Display

end TicketMarkup
