import TicketMarkup.Console
import TicketMarkup.Machine

/-!
# Hosts

A host is a machine and a console. The console takes a notice or does not, and then says why; which
notices it takes is a parameter, as what the machine does is. A notice is handed over with tags for
its styles, so that a name or a fault with the tags of a style in it may not be taken: a tag that
closes what is not open (`Tags.complaint?`).

`Host.ample` takes everything. `Host.terminal` is what the program is run with: all the stack, a
console that reads tags, and an encoder that encodes whole characters only. Names of styles are
compared as they are written, but for blanks and for the case of letters.

Main statement: `untold?_eq_none_iff`, all notices are told exactly if each of them is taken.
-/

namespace TicketMarkup

/-! ## Tags -/

namespace Tags

/-- Whether a tag may start with a character. -/
def startsTag (c : Char) : Bool := ('a' ≤ c && c ≤ 'z') || c = '#' || c = '/' || c = '@'

/-- What stands before the bracket that closes a tag. -/
def body? : List Char → Option (List Char)
  | [] => none
  | ']' :: _ => some []
  | '[' :: _ => none
  | c :: rest => (body? rest).map (c :: ·)

/-- What stands in the tag that opens right before a text. -/
def tag? : List Char → Option (List Char)
  | c :: rest => if startsTag c then (body? rest).map (c :: ·) else none
  | [] => none

/-- The tags of a text from a position on, and where each opens, after a number of backslashes. A
tag is none after an odd number of them. -/
def tagsFrom (position slashes : Nat) : List Char → List (Nat × List Char)
  | [] => []
  | c :: rest =>
    if c = '[' then
      match tag? rest with
      | some tag =>
        if slashes % 2 = 0 then (position, tag) :: tagsFrom (position + 1) 0 rest
        else tagsFrom (position + 1) 0 rest
      | none => tagsFrom (position + 1) 0 rest
    else tagsFrom (position + 1) (if c = '\\' then slashes + 1 else 0) rest

/-- The style that a tag names: without what is after an equals sign, without blanks around it, and
in lower case. -/
def style (tag : List Char) : List Char :=
  Text.lowerFrom [] (Text.strip (tag.takeWhile (· ≠ '=')))

/-- What is wrong with tags where some styles are open, the last one first. -/
def fault? : List (List Char) → List (Nat × List Char) → Option String
  | _, [] => none
  | opened, (position, '/' :: tag) :: rest =>
    match style tag, opened with
    | [], [] =>
      some ("closing tag '[/]' at position " ++ Numeral.text position ++ " has nothing to close")
    | [], _ :: opened => fault? opened rest
    | closed, opened =>
      if closed ∈ opened then fault? (opened.erase closed) rest
      else
        some ("closing tag '[/" ++ String.ofList tag ++ "]' at position " ++
          Numeral.text position ++ " doesn't match any open tag")
  | opened, (_, tag) :: rest => fault? (style tag :: opened) rest

/-- What is wrong with the tags of a text. -/
def complaint? (s : String) : Option String := fault? [] (tagsFrom 0 0 s.toList)

example : complaint? "[red]a[/red] \\[/b] [0] [c][/ C=1 ] [/d]" =
    some "closing tag '[/d]' at position 35 doesn't match any open tag" := by decide +kernel

end Tags

/-! ## Encoding -/

namespace Json

/-- What the encoder says of a text in which some characters stand for halves, if there are any. It
ends at the first of them, and tells of all that follow each other there. -/
def encoderComplaint? (s : List Char) : Option String :=
  let before := s.takeWhile fun c => (halfOf? c).isNone
  let halves := ((s.drop before.length).map halfOf?).takeWhile Option.isSome
  match halves with
  | [] => none
  | [half] =>
    some ("'utf-8' codec can't encode character '\\u" ++
      String.ofList (Text.hexDigits 4 (half.getD 0)) ++ "' in position " ++
      Numeral.text before.length ++ ": surrogates not allowed")
  | _ =>
    some ("'utf-8' codec can't encode characters in position " ++ Numeral.text before.length ++
      "-" ++ Numeral.text (before.length + halves.length - 1 : Nat) ++ ": surrogates not allowed")

end Json

/-! ## Machines with a console -/

/-- What the program is run on: a machine, and a console that says why it does not take a notice, if
it does not. -/
structure Host extends Machine where
  refusal? : Notice → Option String

namespace Host

/-- A machine with a console that takes every notice. -/
def lenient (m : Machine) : Host := { m with refusal? := fun _ => none }

/-- The host that takes everything. -/
def ample : Host := lenient .ample

/-- The host that reads tags in what it is told, and does not encode half a character. -/
def terminal : Host where
  toMachine :=
    { Machine.ample with
      encodingRefusal? := fun r s =>
        (Json.decode (Json.standIn s)).toOption.bind fun data =>
          (r.render data).toOption.bind fun text => Json.encoderComplaint? text.toList }
  refusal? n := Tags.complaint? n.marked

@[simp] theorem refusal?_lenient (m : Machine) (n : Notice) : (lenient m).refusal? n = none := rfl

@[simp] theorem toMachine_lenient (m : Machine) : (lenient m).toMachine = m := rfl

variable (h : Host)

/-- The notices that are told of some, up to the first one that is not taken. -/
def taken (notices : List Notice) : List Notice :=
  notices.takeWhile fun n => (h.refusal? n).isNone

/-- Why not all of some notices are told, if they are not. -/
def untold? (notices : List Notice) : Option String := notices.findSome? h.refusal?

theorem untold?_eq_none_iff {notices : List Notice} :
    h.untold? notices = none ↔ ∀ n ∈ notices, h.refusal? n = none :=
  List.findSome?_eq_none_iff

end Host

end TicketMarkup
