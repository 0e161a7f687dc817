/-!
# Locations in the data

Where in the parsed data something lies: the steps from the root down to it. Faults of the data
are reported with their location.

Main statement: `text_append`, the steps of a location are written one after the other.
-/

namespace TicketMarkup

/-- A step from a value down to one of its parts. -/
inductive Step where
  /-- The item of an array. -/
  | item (index : Nat)
  /-- The nodes of a document. -/
  | nodes
  /-- The children of a node. -/
  | children
  deriving DecidableEq, Repr

/-- The steps from the root down, the first one first. -/
abbrev Location := List Step

/-- A step as it stands in a location. -/
def Step.text : Step → String
  | item index => "[" ++ String.ofList (Nat.toDigits 10 index) ++ "]"
  | nodes => ".nodes"
  | children => ".children"

namespace Location

/-- The steps of a location, without its root. -/
def steps : Location → String
  | [] => ""
  | step :: rest => step.text ++ steps rest

/-- A location as messages show it; the root is a dollar sign. -/
def text (place : Location) : String := "$" ++ steps place

theorem steps_append (place more : Location) :
    steps (place ++ more) = steps place ++ steps more := by
  induction place with
  | nil => simp [steps]
  | cons step rest ih => simp [steps, ih, String.append_assoc]

theorem text_append (place more : Location) : text (place ++ more) = text place ++ steps more := by
  simp [text, steps_append, String.append_assoc]

end Location

end TicketMarkup
