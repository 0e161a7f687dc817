import Mathlib.Data.List.Basic
import TicketMarkup.Proofs.Html.Entity

/-!
# Reading HTML

A reader of HTML fragments that knows nothing of how they were written. `lex` cuts a text into tags
and the text between them: `<name attr="value" ...>`, `</name>` and `<name ... />` are tags, all
else is text, and entities are decoded. `build` puts the tokens together to a tree and fails if the
tags are not balanced. `recognise` finds the code blocks and the links to users among the elements
of a tree, and `read` does all of it, leaving out the line feeds between the nodes of a fragment.
-/

namespace TicketMarkup.Html

/-! ## Tokens -/

/-- A piece of an HTML text. -/
inductive Token where
  | text (s : String)
  | opening (name : String) (attrs : List (String × String))
  | closing (name : String)
  /-- The only tag of an element without content. -/
  | void (name : String) (attrs : List (String × String))

/-- Whether a character may stand in a name. -/
def isNameChar (c : Char) : Bool := c.isAlphanum || c = '-'

/-- Whether a text is a name of a tag or an attribute. -/
def isName (s : String) : Bool := !s.toList.isEmpty && s.toList.all isNameChar

/-- Reads a name. -/
def readName (s : List Char) : Option (String × List Char) :=
  match s.takeWhile isNameChar with
  | [] => none
  | name => some (String.ofList name, s.dropWhile isNameChar)

/-- Reads an attribute with the space before it. -/
def readAttribute : List Char → Option ((String × String) × List Char)
  | ' ' :: s =>
    match readName s with
    | some (name, '=' :: '"' :: s) =>
      match s.dropWhile (· ≠ '"') with
      | '"' :: rest => some ((name, String.ofList (decode (s.takeWhile (· ≠ '"')))), rest)
      | _ => none
    | _ => none
  | _ => none

theorem length_readName {s rest : List Char} {name : String}
    (h : readName s = some (name, rest)) : rest.length ≤ s.length := by
  unfold readName at h
  split at h
  · cases h
  · obtain ⟨-, rfl⟩ := Prod.mk.inj (Option.some.inj h)
    exact (List.dropWhile_suffix (l := s) isNameChar).length_le

/-- Reading an attribute takes a part of the text. -/
theorem length_readAttribute {s rest : List Char} {a : String × String}
    (h : readAttribute s = some (a, rest)) : rest.length < s.length := by
  unfold readAttribute at h
  split at h
  next s =>
    split at h
    next name s' hname =>
      have hlen := length_readName hname
      split at h
      next rest' hrest =>
        obtain ⟨-, rfl⟩ := Prod.mk.inj (Option.some.inj h)
        have hdrop := (List.dropWhile_suffix (l := s') (· ≠ '"')).length_le
        rw [hrest] at hdrop
        simp only [List.length_cons] at *
        omega
      next => cases h
    next => cases h
  next => cases h

/-- Reads attributes as long as there are any. -/
def readAttributes (s : List Char) : List (String × String) × List Char :=
  match _h : readAttribute s with
  | none => ([], s)
  | some (a, rest) => (a :: (readAttributes rest).1, (readAttributes rest).2)
termination_by s.length
decreasing_by all_goals exact length_readAttribute _h

theorem readAttributes_of_none {s : List Char} (h : readAttribute s = none) :
    readAttributes s = ([], s) := by
  rw [readAttributes]
  split <;> simp_all

theorem readAttributes_of_some {s rest : List Char} {a : String × String}
    (h : readAttribute s = some (a, rest)) :
    readAttributes s = (a :: (readAttributes rest).1, (readAttributes rest).2) := by
  rw [readAttributes]
  split <;> simp_all

theorem length_readAttributes (s : List Char) : (readAttributes s).2.length ≤ s.length := by
  induction s using readAttributes.induct with
  | case1 s h => simp [readAttributes_of_none h]
  | case2 s a rest h ih =>
    have := length_readAttribute h
    rw [readAttributes_of_some h]
    simp only
    omega

/-- Reads a closing tag after its slash. -/
def readClosing (s : List Char) : Option (Token × List Char) :=
  match readName s with
  | some (name, '>' :: rest) => some (.closing name, rest)
  | _ => none

/-- Reads a tag that is no closing tag, after its angle bracket. -/
def readOpening (s : List Char) : Option (Token × List Char) :=
  match readName s with
  | some (name, s) =>
    match readAttributes s with
    | (attrs, '>' :: rest) => some (.opening name attrs, rest)
    | (attrs, ' ' :: '/' :: '>' :: rest) => some (.void name attrs, rest)
    | _ => none
  | none => none

/-- Reads a tag. -/
def readTag : List Char → Option (Token × List Char)
  | '<' :: '/' :: s => readClosing s
  | '<' :: s => readOpening s
  | _ => none

theorem length_readClosing {s rest : List Char} {t : Token}
    (h : readClosing s = some (t, rest)) : rest.length ≤ s.length := by
  unfold readClosing at h
  split at h
  next name rest' hname =>
    obtain ⟨-, rfl⟩ := Prod.mk.inj (Option.some.inj h)
    have := length_readName hname
    simp only [List.length_cons] at this
    omega
  next => cases h

theorem length_readOpening {s rest : List Char} {t : Token}
    (h : readOpening s = some (t, rest)) : rest.length ≤ s.length := by
  unfold readOpening at h
  split at h
  next name s' hname =>
    have hname := length_readName hname
    have hattrs := length_readAttributes s'
    split at h
    next attrs rest' heq =>
      obtain ⟨-, rfl⟩ := Prod.mk.inj (Option.some.inj h)
      simp only [heq, List.length_cons] at hattrs
      omega
    next attrs rest' heq =>
      obtain ⟨-, rfl⟩ := Prod.mk.inj (Option.some.inj h)
      simp only [heq, List.length_cons] at hattrs
      omega
    next => cases h
  next => cases h

/-- Reading a tag takes a part of the text, so that reading ends. -/
theorem length_readTag {s rest : List Char} {t : Token} (h : readTag s = some (t, rest)) :
    rest.length < s.length := by
  unfold readTag at h
  split at h
  next s =>
    have := length_readClosing h
    simp only [List.length_cons]
    omega
  next s _ =>
    have := length_readOpening h
    simp only [List.length_cons]
    omega
  next => cases h

/-- The text that stands between two tags, if there is any. -/
def textToken (raw : List Char) : List Token :=
  if raw = [] then [] else [.text (String.ofList (decode raw))]

/-- The tokens of a text, with the characters `raw` since the last tag. -/
def lexFrom (raw s : List Char) : List Token :=
  match _h : readTag s with
  | some (t, rest) => textToken raw ++ t :: lexFrom [] rest
  | none =>
    match s with
    | [] => textToken raw
    | c :: rest => lexFrom (raw ++ [c]) rest
termination_by s.length
decreasing_by
  · exact length_readTag _h
  · simp

/-- The tags of a text and the texts between them. -/
def lex (s : List Char) : List Token := lexFrom [] s

theorem lexFrom_nil (raw : List Char) : lexFrom raw [] = textToken raw := by
  rw [lexFrom]
  rfl

/-- A tag ends the run of text before it. -/
theorem lexFrom_of_tag {s rest : List Char} {t : Token} (h : readTag s = some (t, rest))
    (raw : List Char) : lexFrom raw s = textToken raw ++ t :: lex rest := by
  rw [lexFrom, lex]
  split <;> simp_all

/-- A character that begins no tag goes to the run of text. -/
theorem lexFrom_cons_of_ne {c : Char} (h : c ≠ '<') (raw rest : List Char) :
    lexFrom raw (c :: rest) = lexFrom (raw ++ [c]) rest := by
  have htag : readTag (c :: rest) = none := by simp [readTag, h]
  rw [lexFrom]
  split <;> simp_all

/-! ## Trees -/

/-- An element whose closing tag is still to come, with the nodes that stand before it. -/
structure Frame where
  name : String
  attrs : List (String × String)
  before : List Display

/-- Puts tokens together, inside of the open elements `frames`, the innermost of which comes first
and has the nodes `nodes` so far. Fails if a closing tag is missing or does not match. -/
def build (frames : List Frame) (nodes : List Display) : List Token → Option (List Display)
  | [] => if frames.isEmpty then some nodes else none
  | .text s :: rest => build frames (nodes ++ [.text s]) rest
  | .opening name attrs :: rest => build (⟨name, attrs, nodes⟩ :: frames) [] rest
  | .closing name :: rest =>
    match frames with
    | [] => none
    | f :: frames =>
      if f.name = name then build frames (f.before ++ [.element f.name f.attrs nodes]) rest
      else none
  | .void name attrs :: rest => build frames (nodes ++ [.element name attrs []]) rest

/-! ## Code blocks and users -/

/-- The language that the attributes of a code element name. -/
def language? : List (String × String) → Option (Option String)
  | [] => some none
  | [("class", mark)] =>
    (mark.toList.dropPrefix? "language-".toList).map fun l => some (String.ofList l)
  | _ => none

/-- The text of an element that holds nothing else. -/
def soleText? : List Display → Option String
  | [] => some ""
  | [.text s] => some s
  | _ => none

/-- The code block that an element stands for. -/
def codeBlock? : String → List (String × String) → List Display → Option Display
  | "pre", [], [.element "code" attrs content] => do
    let language ← language? attrs
    let code ← soleText? content
    return .codeBlock code language
  | _, _, _ => none

/-- The link to a user that an element stands for: the user is named after the at sign, and again
in the address of the profile. -/
def userLink? (profiles : String) : String → List (String × String) → List Display → Option Display
  | "a", [("class", "user-link"), ("href", address)], [.text label] =>
    match label.toList with
    | '@' :: user =>
      if address = profiles ++ String.ofList user then some (.userLink (String.ofList user))
      else none
    | _ => none
  | _, _, _ => none

mutual

/-- A node with the code blocks and the links to users among its elements. -/
def recognise (profiles : String) : Display → Display
  | .element tag attrs children =>
    match codeBlock? tag attrs children with
    | some block => block
    | none =>
      match userLink? profiles tag attrs children with
      | some link => link
      | none => .element tag attrs (recogniseAll profiles children)
  | d => d

/-- Nodes with the code blocks and the links to users among their elements. -/
def recogniseAll (profiles : String) : List Display → List Display
  | [] => []
  | d :: rest => recognise profiles d :: recogniseAll profiles rest

end

/-- Whether a node is the line feed between two nodes of a fragment. -/
def isLineFeed : Display → Bool
  | .text s => s = "\n"
  | _ => false

/-- The nodes of a fragment, whose profiles have addresses with a common base. None if its tags are
not balanced. -/
def read (profiles : String) (s : String) : Option (List Display) :=
  (build [] [] (lex s.toList)).map fun nodes =>
    recogniseAll profiles (nodes.filter fun d => !isLineFeed d)

end TicketMarkup.Html
