import TicketMarkup.Display.Basic
import TicketMarkup.Text.Lines

/-!
# Plain text with markup

A display tree as plain text in the manner of Markdown: marks around emphasis, number signs before
headings, bullets and numbers before the items of lists, angle brackets before quoted lines and
fences around code. Blocks are separated by empty lines, and an empty block is left out.

An element's tag gives it a role (`TagRole`). Every node has one rendering, `inline`; standing as a
block of its own (`asBlock`) it loses the blanks at its ends, unless its role makes it a block
anyway. A list must number its items from the number in its `start` attribute, and this is the only
way in which rendering fails.

Main statements: `blocks_append` and `inlines_append`, sequences are rendered node by node.
-/

namespace TicketMarkup.Markdown

open Text

/-! ## Roles -/

/-- What a tag means for plain text. -/
inductive TagRole where
  /-- Content between two marks. -/
  | wrapper (mark : String)
  /-- A hyperlink. -/
  | anchor
  | image
  | lineBreak
  | paragraph
  /-- A horizontal line. -/
  | rule
  /-- A block quote. -/
  | quote
  /-- A bulleted list. -/
  | bullets
  /-- A numbered list. -/
  | numbers
  | heading (level : Nat)
  /-- Content without any marks. -/
  | plain
  deriving DecidableEq

/-- The role that a tag gives. -/
def TagRole.ofTag : String → TagRole
  | "strong" => .wrapper "**"
  | "em" => .wrapper "*"
  | "strike" => .wrapper "~~"
  | "code" => .wrapper "`"
  | "a" => .anchor
  | "img" => .image
  | "br" => .lineBreak
  | "p" => .paragraph
  | "hr" => .rule
  | "blockquote" => .quote
  | "ul" => .bullets
  | "ol" => .numbers
  | "h1" => .heading 1
  | "h2" => .heading 2
  | "h3" => .heading 3
  | "h4" => .heading 4
  | "h5" => .heading 5
  | "h6" => .heading 6
  | _ => .plain

/-- Whether a role sets its content apart from the text around it. -/
def TagRole.isBlock : TagRole → Bool
  | paragraph => true
  | rule => true
  | quote => true
  | bullets => true
  | numbers => true
  | heading _ => true
  | _ => false

/-- Whether a node is set apart from the text around it. -/
def isBlock : Display → Bool
  | .codeBlock _ _ => true
  | .element tag _ _ => (TagRole.ofTag tag).isBlock
  | _ => false

/-! ## Pieces -/

/-- A code block between fences. -/
def fence (code : String) (language : Option String) : List Char :=
  "```".toList ++ (language.getD "").toList ++ '\n' :: code.toList ++ "\n```".toList

/-- A node as a block of its own, from its rendering within a text. -/
def asBlock (d : Display) (content : List Char) : List Char :=
  match d with
  | .codeBlock code language => fence code language
  | d => if isBlock d then content else strip content

/-- The blocks that are not empty, with an empty line between each two. -/
def joinBlocks (blocks : List (List Char)) : List Char :=
  join "\n\n".toList (blocks.filter (· ≠ []))

theorem joinBlocks_singleton (block : List Char) : joinBlocks [block] = block := by
  by_cases h : block = [] <;> simp [joinBlocks, h]

/-- A line of a quote. -/
def quoteLine (line : List Char) : List Char :=
  if line = [] then ['>'] else '>' :: ' ' :: line

/-- A text as a quote, line by line. -/
def quoteLines (body : List Char) : List Char := join ['\n'] ((lines body).map quoteLine)

/-- A line of an item after its first, under the text of the first. -/
def indentLine (width : Nat) (line : List Char) : List Char :=
  if line = [] then [] else List.replicate width ' ' ++ line

/-- An item of a list: its bullet before the first line, the other lines indented by its width. -/
def itemText (bullet body : List Char) : List Char :=
  match lines body with
  | [] => bullet
  | first :: rest => join ['\n'] ((bullet ++ first) :: rest.map (indentLine bullet.length))

/-- The bullet of an item, which is its number if the list is numbered. -/
def bullet : Option Int → Except NumeralFault (List Char)
  | none => .ok "- ".toList
  | some n => (Numeral.write? n).map fun s => s ++ ". ".toList

/-- The number in the `start` attribute of a list; one if there is none. -/
def startNumber (attrs : List (String × String)) : Except NumeralFault Int :=
  match Display.attribute? "start" attrs with
  | none => .ok 1
  | some s => Numeral.read s

/-- The value of an attribute, empty if it is missing. -/
def attrText (name : String) (attrs : List (String × String)) : List Char :=
  ((Display.attribute? name attrs).getD "").toList

/-! ## Trees -/

mutual

/-- A node within a text. -/
def inline : Display → Except NumeralFault (List Char)
  | .text s => .ok s.toList
  | .userLink user => .ok ('@' :: user.toList)
  | .codeBlock code language => .ok ('\n' :: fence code language ++ ['\n'])
  | .element tag attrs children =>
    match TagRole.ofTag tag with
    | .wrapper mark => do
      let content ← inlines children
      return mark.toList ++ content ++ mark.toList
    | .anchor => do
      let content ← inlines children
      return '[' :: content ++ "](".toList ++ attrText "href" attrs ++ [')']
    | .image =>
      .ok ("![".toList ++ attrText "alt" attrs ++ "](".toList ++ attrText "src" attrs ++ [')'])
    | .lineBreak => .ok ['\n']
    | .paragraph => do
      let parts ← paragraphParts [] children
      return joinBlocks parts
    | .rule => .ok "---".toList
    | .quote => do
      let parts ← blocks children
      return quoteLines (joinBlocks parts)
    | .bullets => do
      let _ ← startNumber attrs
      let items ← listItems none children
      return join ['\n'] items
    | .numbers => do
      let first ← startNumber attrs
      let items ← listItems (some first) children
      return join ['\n'] items
    | .heading level => do
      let content ← inlines children
      return List.replicate level '#' ++ ' ' :: content
    | .plain => inlines children

/-- Nodes within a text, one after the other. -/
def inlines : List Display → Except NumeralFault (List Char)
  | [] => .ok []
  | d :: rest => do
    let content ← inline d
    let more ← inlines rest
    return content ++ more

/-- Nodes as blocks of their own. -/
def blocks : List Display → Except NumeralFault (List (List Char))
  | [] => .ok []
  | d :: rest => do
    let content ← inline d
    let more ← blocks rest
    return asBlock d content :: more

/-- The parts of a paragraph: its blocks, and between them the runs of other content without the
blanks at their ends. The run so far is `pending`. -/
def paragraphParts (pending : List Char) : List Display → Except NumeralFault (List (List Char))
  | [] => .ok [strip pending]
  | d :: rest => do
    let content ← inline d
    if isBlock d then do
      let more ← paragraphParts [] rest
      return strip pending :: asBlock d content :: more
    else paragraphParts (pending ++ content) rest

/-- The items of a list, numbered on if the first has a number. -/
def listItems (number : Option Int) : List Display → Except NumeralFault (List (List Char))
  | [] => .ok []
  | d :: rest => do
    let mark ← bullet number
    let body ← itemBody d
    let more ← listItems (number.map (· + 1)) rest
    return itemText mark body :: more

/-- What stands after the bullet of an item: the content of an element, and else the node. -/
def itemBody : Display → Except NumeralFault (List Char)
  | .element _ _ children => do
    let parts ← blocks children
    return joinBlocks parts
  | .text s => .ok (strip s.toList)
  | .userLink user => .ok (strip ('@' :: user.toList))
  | .codeBlock code language => .ok (fence code language)

end

/-- A sequence of display nodes as plain text, each a block. -/
def render (tree : List Display) : Except NumeralFault String :=
  (blocks tree).map fun parts => String.ofList (joinBlocks parts)

theorem inlines_append (a b : List Display) :
    inlines (a ++ b) = (inlines a).bind fun s => (inlines b).map (s ++ ·) := by
  induction a with
  | nil => simp only [List.nil_append, inlines]; cases inlines b <;> rfl
  | cons d rest ih =>
    rw [List.cons_append, inlines, ih, inlines]
    cases inline d with
    | error _ => rfl
    | ok _ =>
      cases inlines rest with
      | error _ => rfl
      | ok _ =>
        cases inlines b <;>
          simp [bind, Except.bind, Except.map, pure, Except.pure, List.append_assoc]

theorem blocks_append (a b : List Display) :
    blocks (a ++ b) = (blocks a).bind fun s => (blocks b).map (s ++ ·) := by
  induction a with
  | nil => simp only [List.nil_append, blocks]; cases blocks b <;> rfl
  | cons d rest ih =>
    rw [List.cons_append, blocks, ih, blocks]
    cases inline d with
    | error _ => rfl
    | ok _ =>
      cases blocks rest with
      | error _ => rfl
      | ok _ => cases blocks b <;> simp [bind, Except.bind, Except.map, pure, Except.pure]

end TicketMarkup.Markdown
