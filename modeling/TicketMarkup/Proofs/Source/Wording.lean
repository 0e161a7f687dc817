import TicketMarkup.Source.Load

/-!
# What faults say

The message of a fault says where the data is at fault: it is some words, the place, and some more
words (`TreeFault.message_of_place?`). Only a document object without nodes is a fault without a
place.
-/

namespace TicketMarkup.TreeFault

/-- The place that a fault names. -/
def place? : TreeFault → Option Location
  | notSequence place _ => some place
  | tooDeep _ place => some place
  | notItems place _ => some place
  | notNode place _ => some place
  | untagged place => some place
  | notText _ place _ => some place
  | notInteger _ place _ => some place
  | noNodes => none

/-- What the message says before the place. -/
def opening : TreeFault → String
  | notSequence _ _ => "Expected a list of nodes at "
  | tooDeep limit _ => "Tree nested deeper than " ++ Numeral.text limit ++ " at "
  | notItems _ _ => "Expected a list of list items at "
  | notNode _ _ => "Expected a string or node object at "
  | untagged _ => "Node at "
  | notText field _ _ => "Expected a string for '" ++ field ++ "' at "
  | notInteger field _ _ => "Expected an integer for '" ++ field ++ "' at "
  | noNodes => "Document object has no 'nodes' key"

/-- What the message says behind the place. -/
def closing : TreeFault → String
  | notSequence _ found => ", got " ++ found.word
  | tooDeep _ _ => ""
  | notItems _ found => ", got " ++ found.word
  | notNode _ found => ", got " ++ found.word
  | untagged _ => " has no 'type'"
  | notText _ _ found => ", got " ++ found.word
  | notInteger _ _ found => ", got " ++
      match found with
      | .bool _ => JsonType.bool.word
      | v => v.quoted
  | noNodes => ""

/-- What is said of a sequence that is nested too deep. -/
theorem message_tooDeep (limit : Int) (place : Location) :
    (tooDeep limit place).message =
      "Tree nested deeper than " ++ Numeral.text limit ++ " at " ++ place.text := rfl

/-- A message names the place of the fault between its other words. -/
theorem message_of_place? {fault : TreeFault} {place : Location} (h : fault.place? = some place) :
    fault.message = fault.opening ++ place.text ++ fault.closing := by
  unfold message opening closing
  cases fault with
  | noNodes => cases h
  | notInteger field place' found =>
    obtain rfl : place' = place := Option.some.inj h
    cases found <;> simp only [String.append_assoc]
  | _ =>
    obtain rfl := Option.some.inj h
    simp only [String.append_assoc, String.append_empty]

end TicketMarkup.TreeFault
