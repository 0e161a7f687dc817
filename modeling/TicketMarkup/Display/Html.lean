import TicketMarkup.Display.Basic
import TicketMarkup.Text.Lines

/-!
# HTML

A display tree as an HTML fragment. Texts and the values of attributes are escaped; elements that
never have content are closed in their only tag; a code block names its language in a class; a user
link leads to the profile of the user.

Main statements: `escape_append`, `escape_cons` (escaping works character by character, although
it replaces one character after the other in the whole text) and `nodes_append`.
-/

namespace TicketMarkup.Html

/-- A text with every occurrence of a character replaced. -/
def replace (c : Char) (new : List Char) (s : List Char) : List Char :=
  s.flatMap fun d => if d = c then new else [d]

/-- A text with its special characters written as entities: the ampersand first, then the two angle
brackets, and in attributes the double quote. -/
def escape (inAttribute : Bool) (s : List Char) : List Char :=
  let s := replace '&' "&amp;".toList s
  let s := replace '<' "&lt;".toList s
  let s := replace '>' "&gt;".toList s
  if inAttribute then replace '"' "&quot;".toList s else s

/-- A character is replaced wherever it stands. -/
theorem replace_append (c : Char) (new s t : List Char) :
    replace c new (s ++ t) = replace c new s ++ replace c new t := by
  simp [replace]

/-- A text is escaped piece by piece. -/
theorem escape_append (inAttribute : Bool) (s t : List Char) :
    escape inAttribute (s ++ t) = escape inAttribute s ++ escape inAttribute t := by
  cases inAttribute <;> simp [escape, replace_append]

theorem escape_nil (inAttribute : Bool) : escape inAttribute [] = [] := by
  cases inAttribute <;> rfl

theorem escape_cons (inAttribute : Bool) (c : Char) (s : List Char) :
    escape inAttribute (c :: s) = escape inAttribute [c] ++ escape inAttribute s :=
  escape_append inAttribute [c] s

/-! ## Elements -/

/-- The elements that never have content or a closing tag. -/
def isVoid (tag : String) : Bool := tag = "br" || tag = "hr" || tag = "img"

/-- An attribute with the space before it. -/
def attr (name value : List Char) : List Char :=
  ' ' :: name ++ '=' :: '"' :: escape true value ++ ['"']

/-- The attributes of a tag. -/
def attributes : List (String × String) → List Char
  | [] => []
  | (name, value) :: rest => attr name.toList value.toList ++ attributes rest

/-- An opening tag. -/
def openTag (tag : String) (attrs : List (String × String)) : List Char :=
  '<' :: tag.toList ++ attributes attrs ++ ['>']

/-- A closing tag. -/
def closeTag (tag : String) : List Char := '<' :: '/' :: tag.toList ++ ['>']

/-- The tag of an element that never has content. -/
def voidTag (tag : String) (attrs : List (String × String)) : List Char :=
  '<' :: tag.toList ++ attributes attrs ++ " />".toList

/-- A code block. -/
def codeBlock (code : String) (language : Option String) : List Char :=
  let mark :=
    match language with
    | none => []
    | some l => if l = "" then [] else attr "class".toList ("language-".toList ++ l.toList)
  "<pre><code".toList ++ mark ++ '>' :: escape false code.toList ++ "</code></pre>".toList

/-- A link to the profile of a user, whose address begins with a base. -/
def userLink (profiles user : String) : List Char :=
  '<' :: 'a' :: attr "class".toList "user-link".toList ++
    attr "href".toList (profiles.toList ++ user.toList) ++ '>' ::
    '@' :: escape false user.toList ++ "</a>".toList

/-! ## Trees -/

mutual

/-- A display node in HTML, with the base of the addresses of profiles. -/
def node (profiles : String) : Display → List Char
  | .text s => escape false s.toList
  | .codeBlock code language => codeBlock code language
  | .userLink user => userLink profiles user
  | .element tag attrs children =>
    if isVoid tag then voidTag tag attrs
    else openTag tag attrs ++ nodes profiles children ++ closeTag tag

/-- Display nodes in HTML, one after the other. -/
def nodes (profiles : String) : List Display → List Char
  | [] => []
  | d :: rest => node profiles d ++ nodes profiles rest

end

/-- Nodes are written one after the other. -/
theorem nodes_append (profiles : String) (a b : List Display) :
    nodes profiles (a ++ b) = nodes profiles a ++ nodes profiles b := by
  induction a with
  | nil => simp [nodes]
  | cons d rest ih => simp [nodes, ih]

/-- The addresses of profiles begin so unless another base is given. -/
def defaultProfiles : String := "https://profiles.wordpress.org/"

/-- A sequence of display nodes as an HTML fragment, one node a line. -/
def render (profiles : String) (tree : List Display) : String :=
  String.ofList (Text.join ['\n'] (tree.map (node profiles)))

end TicketMarkup.Html
