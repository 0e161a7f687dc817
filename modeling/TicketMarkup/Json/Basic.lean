import TicketMarkup.Number.Binary64

/-!
# JSON values

The data that a parser hands over: JSON values whose objects keep the order of their fields, and
whose numbers are integers of any size or binary floating-point numbers. Identifiers, such as the
number of a ticket, are kept as whatever value they came as.

Main statements: `Json.beq_iff`, from which equality of values is decidable, and
`Fields.get?_insert` with `Fields.keys_insert`, what writing a field does to the fields of an
object.
-/

namespace TicketMarkup

/-- A JSON value. -/
inductive Json where
  | null
  | bool (b : Bool)
  | int (n : Int)
  | float (x : Binary64)
  | str (s : String)
  | arr (items : List Json)
  | obj (fields : List (String × Json))
  deriving Inhabited

/-- The fields of an object, in order. -/
abbrev Fields := List (String × Json)

/-- The types that JSON values have. -/
inductive JsonType where
  | null
  | bool
  | int
  | float
  | str
  | arr
  | obj
  deriving DecidableEq, Repr

/-- The word that messages use for a type. -/
def JsonType.word : JsonType → String
  | .null => "NoneType"
  | .bool => "bool"
  | .int => "int"
  | .float => "float"
  | .str => "str"
  | .arr => "list"
  | .obj => "dict"

namespace Json

/-- The type of a value. -/
def type : Json → JsonType
  | .null => .null
  | .bool _ => .bool
  | .int _ => .int
  | .float _ => .float
  | .str _ => .str
  | .arr _ => .arr
  | .obj _ => .obj

/-- Whether a value counts as given: neither null nor false, zero or empty. -/
def isTruthy : Json → Bool
  | .null => false
  | .bool b => b
  | .int n => n != 0
  | .float x => !x.isZero
  | .str s => s != ""
  | .arr items => !items.isEmpty
  | .obj fields => !fields.isEmpty

/-! ## Equality -/

mutual

/-- Whether two values are the same. -/
def beq : Json → Json → Bool
  | .null, .null => true
  | .bool a, .bool b => a == b
  | .int a, .int b => a == b
  | .float a, .float b => a == b
  | .str a, .str b => a == b
  | .arr a, .arr b => beqItems a b
  | .obj a, .obj b => beqFields a b
  | _, _ => false

/-- Whether two lists of values are the same. -/
def beqItems : List Json → List Json → Bool
  | [], [] => true
  | a :: as, b :: bs => a.beq b && beqItems as bs
  | _, _ => false

/-- Whether two lists of fields are the same, order included. -/
def beqFields : List (String × Json) → List (String × Json) → Bool
  | [], [] => true
  | (k, a) :: as, (l, b) :: bs => k == l && a.beq b && beqFields as bs
  | _, _ => false

end

mutual

/-- Values that compare as equal are equal, by recursion over both. -/
theorem beq_iff : ∀ a b : Json, a.beq b = true ↔ a = b
  | .null, b => by cases b <;> simp [beq]
  | .bool _, b => by cases b <;> simp [beq]
  | .int _, b => by cases b <;> simp [beq]
  | .float _, b => by cases b <;> simp [beq]
  | .str _, b => by cases b <;> simp [beq]
  | .arr xs, b => by
    cases b <;> simp [beq]
    exact beqItems_iff xs _
  | .obj xs, b => by
    cases b <;> simp [beq]
    exact beqFields_iff xs _

theorem beqItems_iff : ∀ a b : List Json, beqItems a b = true ↔ a = b
  | [], b => by cases b <;> simp [beqItems]
  | x :: xs, b => by
    cases b with
    | nil => simp [beqItems]
    | cons y ys => simp [beqItems, beq_iff x y, beqItems_iff xs ys]

theorem beqFields_iff : ∀ a b : List (String × Json), beqFields a b = true ↔ a = b
  | [], b => by cases b <;> simp [beqFields]
  | (k, x) :: xs, b => by
    cases b with
    | nil => simp [beqFields]
    | cons y ys =>
      obtain ⟨l, y⟩ := y
      simp [beqFields, beq_iff x y, beqFields_iff xs ys, and_assoc]

end

instance : DecidableEq Json := fun a b => decidable_of_iff _ (beq_iff a b)

end Json

/-! ## Fields -/

namespace Fields

/-- The value of the first field with a key. -/
def get? (key : String) : Fields → Option Json
  | [] => none
  | (k, v) :: rest => if k = key then some v else get? key rest

/-- Writes a field: in its place if the object has it, and else at the end. -/
def insert (key : String) (value : Json) : Fields → Fields
  | [] => [(key, value)]
  | (k, v) :: rest => if k = key then (k, value) :: rest else (k, v) :: insert key value rest

/-- A field that is set is found under its name, and no other field is changed. -/
theorem get?_insert (key : String) (value : Json) (fields : Fields) (k : String) :
    get? k (insert key value fields) = if k = key then some value else get? k fields := by
  induction fields with
  | nil => by_cases h : key = k <;> simp [insert, get?, h, eq_comm]
  | cons f rest ih =>
    obtain ⟨l, v⟩ := f
    by_cases hl : l = key
    · by_cases hk : k = key
      · simp [insert, get?, hl, hk]
      · simp [insert, get?, hl, hk, Ne.symm hk]
    · by_cases hlk : l = k
      · subst hlk
        simp [insert, get?, hl]
      · simp [insert, get?, hl, hlk, ih]

/-- Writing a field adds its key at the end, unless the object has it. -/
theorem keys_insert (key : String) (value : Json) (fields : Fields) :
    (insert key value fields).map Prod.fst =
      if key ∈ fields.map Prod.fst then fields.map Prod.fst else fields.map Prod.fst ++ [key] := by
  induction fields with
  | nil => simp [insert]
  | cons f rest ih =>
    obtain ⟨l, v⟩ := f
    by_cases hl : l = key
    · simp [insert, hl]
    · have hl' : ¬key = l := fun h => hl h.symm
      simp only [insert, hl, if_false, List.map_cons, ih, List.mem_cons, hl', false_or]
      split <;> rfl

end Fields

end TicketMarkup
