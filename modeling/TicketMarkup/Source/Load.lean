import TicketMarkup.Json.Display
import TicketMarkup.Json.Integer
import TicketMarkup.Source.Location
import TicketMarkup.Source.Node
import TicketMarkup.Traced

/-!
# Loading

Parsed data becomes a tree of nodes. Everything a kind reads is checked on the way, in document
order, and the first fault ends the loading. Fields that a kind does not read are not looked at.
A sequence is nested one deeper than the node it belongs to, and a sequence nested deeper than the
limit is a fault, which bounds every later walk over the tree.

`load` takes a sequence of nodes, `loadDocument` a whole document, which may also be an object that
names the ticket it belongs to. The records name the nodes of unknown kinds, in document order.

Both have all the stack they ask for, so that they never fail as `exhausted`. How they end on a
stack that may be used up on the way is said in terms of the calls they make (`loadOn`,
`loadDocumentOn`).

Main statements: `loadChildren_eq` and `loadItems_eq`, which say how the children of a node are
found among its fields.
-/

namespace TicketMarkup

/-! ## Faults -/

/-- What is wrong with the data. -/
inductive TreeFault where
  /-- A sequence of nodes is no array. -/
  | notSequence (place : Location) (found : JsonType)
  /-- A sequence of nodes is nested deeper than the limit. -/
  | tooDeep (limit : Int) (place : Location)
  /-- The items of a list are no array. -/
  | notItems (place : Location) (found : JsonType)
  /-- A member of a sequence is neither a string nor an object. -/
  | notNode (place : Location) (found : JsonType)
  /-- A node has no tag. -/
  | untagged (place : Location)
  /-- A field that holds a text holds something else. -/
  | notText (field : String) (place : Location) (found : JsonType)
  /-- A field that holds an integer holds something else. -/
  | notInteger (field : String) (place : Location) (found : Json)
  /-- A document that is an object has no nodes. -/
  | noNodes
  deriving DecidableEq

/-- Why loading fails: the data is at fault, or an integer field is infinite, or there is no stack
left. -/
inductive LoadFailure where
  | malformed (fault : TreeFault)
  | infiniteNumber
  | exhausted
  deriving DecidableEq

/-- The wording of a fault. -/
def TreeFault.message : TreeFault → String
  | notSequence place found =>
    "Expected a list of nodes at " ++ place.text ++ ", got " ++ found.word
  | tooDeep limit place =>
    "Tree nested deeper than " ++ Numeral.text limit ++ " at " ++ place.text
  | notItems place found =>
    "Expected a list of list items at " ++ place.text ++ ", got " ++ found.word
  | notNode place found =>
    "Expected a string or node object at " ++ place.text ++ ", got " ++ found.word
  | untagged place => "Node at " ++ place.text ++ " has no 'type'"
  | notText field place found =>
    "Expected a string for '" ++ field ++ "' at " ++ place.text ++ ", got " ++ found.word
  | notInteger field place found =>
    "Expected an integer for '" ++ field ++ "' at " ++ place.text ++ ", got " ++
      match found with
      | .bool _ => JsonType.bool.word
      | v => v.quoted
  | noNodes => "Document object has no 'nodes' key"

/-- The wording of a stack that is used up. -/
def exhaustedText : String := "maximum recursion depth exceeded"

/-- The wording of a failure. -/
def LoadFailure.message : LoadFailure → String
  | malformed fault => fault.message
  | infiniteNumber => "cannot convert float infinity to integer"
  | exhausted => exhaustedText

/-! ## Records -/

/-- The record of a node of unknown kind. -/
structure LoadRecord where
  tag : String
  place : Location
  deriving DecidableEq

/-- The wording of a record. -/
def LoadRecord.message (r : LoadRecord) : String :=
  "Loading unknown node type " ++ Text.quoted r.tag ++ " at " ++ r.place.text

/-- A step of loading. -/
abbrev Loading (α : Type) := Traced LoadRecord LoadFailure α

/-- The step that finds a fault. -/
def Loading.fault {α : Type} (fault : TreeFault) : Loading α := Traced.fail (.malformed fault)

/-! ## Fields -/

/-- A text field; a missing one is empty. -/
def textField (name : String) (place : Location) (fields : Fields) : Loading String :=
  match Fields.get? name fields with
  | none => pure ""
  | some (.str s) => pure s
  | some v => .fault (.notText name place v.type)

/-- A text field that may be missing or null. -/
def optionalTextField (name : String) (place : Location) (fields : Fields) :
    Loading (Option String) :=
  match Fields.get? name fields with
  | none => pure none
  | some .null => pure none
  | some (.str s) => pure (some s)
  | some v => .fault (.notText name place v.type)

/-- The integer that a value given for a field stands for; a truth value stands for none. -/
def integerValue (name : String) (place : Location) (v : Json) : Loading Int :=
  match v with
  | .bool _ => .fault (.notInteger name place v)
  | _ =>
    match v.toInteger with
    | .ok n => pure n
    | .error .refused => .fault (.notInteger name place v)
    | .error .infinite => Traced.fail .infiniteNumber

/-- An integer field; a missing one has a default value. -/
def integerField (name : String) (default : Int) (place : Location) (fields : Fields) :
    Loading Int :=
  match Fields.get? name fields with
  | none => pure default
  | some v => integerValue name place v

/-- An integer field that may also be null. -/
def optionalIntegerField (name : String) (default : Int) (place : Location) (fields : Fields) :
    Loading Int :=
  match Fields.get? name fields with
  | none => pure default
  | some .null => pure default
  | some v => integerValue name place v

/-- An identifier field: any value, null if it is missing. -/
def idField (name : String) (fields : Fields) : Json :=
  (Fields.get? name fields).getD .null

/-! ## Nodes -/

mutual

/-- Loads a sequence of nodes nested to a depth. -/
def loadSequence (limit : Int) (depth : Nat) (place : Location) : Json → Loading (List Node)
  | .arr nodes =>
    if limit < depth then .fault (.tooDeep limit place) else loadNodes limit depth place 0 nodes
  | v => .fault (.notSequence place v.type)

/-- Loads the nodes of a sequence, the first of which has an index. -/
def loadNodes (limit : Int) (depth : Nat) (place : Location) (index : Nat) :
    List Json → Loading (List Node)
  | [] => pure []
  | v :: rest => do
    let node ← loadNode limit depth (place ++ [.item index]) v
    let nodes ← loadNodes limit depth place (index + 1) rest
    return node :: nodes

/-- Loads a node of a sequence nested to a depth. -/
def loadNode (limit : Int) (depth : Nat) (place : Location) : Json → Loading Node
  | .str s => pure (.str s)
  | .obj fields =>
    match Fields.get? "type" fields with
    | some (.str tag) =>
      match Kind.ofTag? tag with
      | none => do
        Traced.leave ⟨tag, place⟩
        return .unknown tag (fields.filter fun f => f.1 ≠ "type")
      | some .heading => do
        let level ← integerField "level" 1 place fields
        let text ← textField "text" place fields
        return .heading level text
      | some .bulletList => do
        let items ← loadItems limit depth place fields
        return .list none items
      | some .numberedList => do
        let items ← loadItems limit depth place fields
        let first ← optionalIntegerField "number" 1 place fields
        return .list (some first) items
      | some .quote => do
        let children ← loadChildren limit depth place fields
        return .quote children
      | some .preformatted => do
        let text ← textField "text" place fields
        let language ← optionalTextField "language" place fields
        return .preformatted text language
      | some .bold => do
        let children ← loadChildren limit depth place fields
        return .styled .bold children
      | some .italic => do
        let children ← loadChildren limit depth place fields
        return .styled .italic children
      | some .strike => do
        let children ← loadChildren limit depth place fields
        return .styled .strike children
      | some .code => do
        let text ← textField "text" place fields
        return .code text
      | some .rule => pure .rule
      | some .lineBreak => pure .lineBreak
      | some .link => do
        let label ← loadLabel limit depth place fields
        let url ← textField "url" place fields
        let text ← textField "text" place fields
        return .link url label text
      | some .comment => do
        let text ← textField "text" place fields
        return .comment (idField "ticket" fields) (idField "comment" fields) text
      | some .ticket => do
        let text ← textField "text" place fields
        return .reference .ticket (idField "id" fields) text
      | some .mention => do
        let text ← textField "text" place fields
        return .mention text
      | some .commit => do
        let text ← textField "text" place fields
        return .reference .commit (idField "id" fields) text
      | some .attachment => do
        let text ← textField "text" place fields
        return .attachment (idField "id" fields) text (idField "ticket" fields)
      | some .image => do
        let url ← textField "url" place fields
        return .image url
      | some .paragraphBreak => pure .paragraphBreak
      | some .text => do
        let text ← textField "text" place fields
        return .text text
    | _ => .fault (.untagged place)
  | v => .fault (.notNode place v.type)

/-- Loads the children of a node, which are an empty sequence if the fields name none. -/
def loadChildren (limit : Int) (depth : Nat) (place : Location) :
    List (String × Json) → Loading (List Node)
  | [] =>
    if limit < (depth + 1 : Nat) then .fault (.tooDeep limit (place ++ [.children])) else pure []
  | (k, v) :: rest =>
    if k = "children" then loadSequence limit (depth + 1) (place ++ [.children]) v
    else loadChildren limit depth place rest

/-- Loads the label of a link, if the fields name one that is not null. -/
def loadLabel (limit : Int) (depth : Nat) (place : Location) :
    List (String × Json) → Loading (Option (List Node))
  | [] => pure none
  | (k, v) :: rest =>
    if k = "children" then
      if v = .null then pure none
      else do
        let nodes ← loadSequence limit (depth + 1) (place ++ [.children]) v
        return some nodes
    else loadLabel limit depth place rest

/-- Loads the items of a list; there are none if the fields name none. -/
def loadItems (limit : Int) (depth : Nat) (place : Location) :
    List (String × Json) → Loading (List (List Node))
  | [] => pure []
  | (k, v) :: rest =>
    if k = "children" then loadItemArray limit depth (place ++ [.children]) v
    else loadItems limit depth place rest

/-- Loads the array of the items of a list. -/
def loadItemArray (limit : Int) (depth : Nat) (place : Location) : Json → Loading (List (List Node))
  | .arr items => loadItemSequences limit depth place 0 items
  | v => .fault (.notItems place v.type)

/-- Loads the items of a list, the first of which has an index. Each is a sequence of its own. -/
def loadItemSequences (limit : Int) (depth : Nat) (place : Location) (index : Nat) :
    List Json → Loading (List (List Node))
  | [] => pure []
  | v :: rest => do
    let item ← loadSequence limit (depth + 1) (place ++ [.item index]) v
    let items ← loadItemSequences limit depth place (index + 1) rest
    return item :: items

end

/-! ## Trees and documents -/

/-- The nesting that is accepted unless another limit is given. -/
def defaultDepthLimit : Int := 200

/-- Loads a sequence of nodes. -/
def load (limit : Int) (data : Json) : Loading (List Node) := loadSequence limit 0 [] data

/-- A document: its nodes, and the ticket that it belongs to, null if it names none. -/
structure Document where
  nodes : List Node
  ticket : Json
  deriving DecidableEq

/-- Loads a document: a sequence of nodes, or an object that holds one and may name a ticket. -/
def loadDocument (limit : Int) (data : Json) : Loading Document :=
  match data with
  | .obj fields =>
    match Fields.get? "nodes" fields with
    | none => .fault .noNodes
    | some v => do
      let nodes ← loadSequence limit 0 [.nodes] v
      return ⟨nodes, idField "ticket" fields⟩
  | v => do
    let nodes ← load limit v
    return ⟨nodes, .null⟩

/-! ## Children among the fields -/

theorem loadChildren_eq (limit : Int) (depth : Nat) (place : Location) (fields : Fields) :
    loadChildren limit depth place fields =
      loadSequence limit (depth + 1) (place ++ [.children])
        ((Fields.get? "children" fields).getD (.arr [])) := by
  induction fields with
  | nil => simp [loadChildren, Fields.get?, loadSequence, loadNodes]
  | cons f rest ih =>
    obtain ⟨k, v⟩ := f
    by_cases h : k = "children" <;> simp [loadChildren, Fields.get?, h, ih]

theorem loadItems_eq (limit : Int) (depth : Nat) (place : Location) (fields : Fields) :
    loadItems limit depth place fields =
      loadItemArray limit depth (place ++ [.children])
        ((Fields.get? "children" fields).getD (.arr [])) := by
  induction fields with
  | nil => simp [loadItems, Fields.get?, loadItemArray, loadItemSequences]
  | cons f rest ih =>
    obtain ⟨k, v⟩ := f
    by_cases h : k = "children" <;> simp [loadItems, Fields.get?, h, ih]

end TicketMarkup
