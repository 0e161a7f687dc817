import TicketMarkup.Json.Basic

/-!
# Markup nodes

The typed tree of a text in a ticket tracker's markup. A node is a bare string or belongs to one of
the kinds of the dialect, each with its tag; a node with any other tag is kept with all its fields.
Ticket, comment and attachment identifiers are JSON values, null standing for none.

Main statements: `Kind.ofTag?_tag` and `Kind.tag_of_ofTag?`, kinds and tags correspond, and
`Node.beq_iff`, from which equality of nodes is decidable.
-/

namespace TicketMarkup

/-! ## Kinds -/

/-- The kinds of nodes in the dialect. -/
inductive Kind where
  | heading
  | bulletList
  | numberedList
  | quote
  | preformatted
  | bold
  | italic
  | strike
  | code
  | rule
  | lineBreak
  | link
  | comment
  | ticket
  | mention
  | commit
  | attachment
  | image
  | paragraphBreak
  | text
  deriving DecidableEq, Repr

namespace Kind

/-- The tag that marks nodes of a kind. -/
def tag : Kind → String
  | heading => "heading"
  | bulletList => "unordered-list"
  | numberedList => "ordered-list"
  | quote => "citation"
  | preformatted => "preformatted"
  | bold => "bold"
  | italic => "italic"
  | strike => "strike"
  | code => "code"
  | rule => "horizontal-line"
  | lineBreak => "break"
  | link => "link"
  | comment => "comment"
  | ticket => "ticket"
  | mention => "mention"
  | commit => "commit"
  | attachment => "attachment"
  | image => "image"
  | paragraphBreak => "para"
  | text => "text"

/-- All kinds. -/
def all : List Kind :=
  [heading, bulletList, numberedList, quote, preformatted, bold, italic, strike, code, rule,
    lineBreak, link, comment, ticket, mention, commit, attachment, image, paragraphBreak, text]

/-- The kind with a tag. -/
def ofTag? (t : String) : Option Kind := all.find? fun k => k.tag = t

/-- Each kind is found by its tag. -/
theorem ofTag?_tag (k : Kind) : ofTag? k.tag = some k := by
  cases k <;> rfl

/-- A kind that is found by a tag has that tag. -/
theorem tag_of_ofTag? {t : String} {k : Kind} (h : ofTag? t = some k) : k.tag = t := by
  simpa using List.find?_some h

end Kind

/-! ## Fields -/

/-- What a kind asks of a field of its nodes. -/
inductive FieldRule where
  /-- A text if the field is there; some may be null as well. -/
  | text (name : String) (nullable : Bool)
  /-- What stands for an integer if the field is there; some may be null as well. -/
  | integer (name : String) (nullable : Bool)
  /-- The children, a sequence, empty if the field is missing. -/
  | children
  /-- The label of a link, a sequence if the field is there and is not null. -/
  | label
  /-- The items of a list, an array of sequences, empty if the field is missing. -/
  | items

/-- The rules for the fields of a kind, in the order in which the fields are read. -/
def Kind.rules : Kind → List FieldRule
  | heading => [.integer "level" false, .text "text" false]
  | bulletList => [.items]
  | numberedList => [.items, .integer "number" true]
  | quote => [.children]
  | preformatted => [.text "text" false, .text "language" true]
  | bold => [.children]
  | italic => [.children]
  | strike => [.children]
  | code => [.text "text" false]
  | rule => []
  | lineBreak => []
  | link => [.label, .text "url" false, .text "text" false]
  | comment => [.text "text" false]
  | ticket => [.text "text" false]
  | mention => [.text "text" false]
  | commit => [.text "text" false]
  | attachment => [.text "text" false]
  | image => [.text "url" false]
  | paragraphBreak => []
  | text => [.text "text" false]

/-! ## Nodes -/

/-- The styles of emphasis. -/
inductive Style where
  | bold
  | italic
  | strike
  deriving DecidableEq, Repr

/-- What a reference by number points at. -/
inductive Target where
  | ticket
  | commit
  deriving DecidableEq, Repr

/-- The kind of text in a style. -/
def Style.kind : Style → Kind
  | .bold => .bold
  | .italic => .italic
  | .strike => .strike

/-- The kind of a reference to a target. -/
def Target.kind : Target → Kind
  | .ticket => .ticket
  | .commit => .commit

/-- A node of the markup tree. -/
inductive Node where
  /-- Inline text without a node of its own. -/
  | str (s : String)
  /-- A heading line of any level. -/
  | heading (level : Int) (text : String)
  /-- A list of items, each a sequence of nodes, numbered from a first number or bulleted. -/
  | list (first : Option Int) (items : List (List Node))
  /-- A block quote. -/
  | quote (children : List Node)
  /-- A code block with an optional language. -/
  | preformatted (text : String) (language : Option String)
  /-- Emphasised inline content. -/
  | styled (style : Style) (children : List Node)
  /-- Inline code. -/
  | code (text : String)
  /-- A horizontal line. -/
  | rule
  | lineBreak
  /-- A hyperlink, labelled by nodes or else by a text. -/
  | link (url : String) (label : Option (List Node)) (text : String)
  /-- A reference to a comment on a ticket. -/
  | comment (ticket comment : Json) (text : String)
  /-- A reference to a ticket or a commit. -/
  | reference (target : Target) (id : Json) (text : String)
  /-- The mention of a user. -/
  | mention (user : String)
  /-- A reference to a file attached to a ticket. -/
  | attachment (id : Json) (text : String) (ticket : Json)
  | image (url : String)
  /-- The break between two paragraphs of a sequence. -/
  | paragraphBreak
  | text (s : String)
  /-- A node of no kind of the dialect, with the fields it came with. -/
  | unknown (tag : String) (fields : Fields)
  deriving Inhabited

namespace Node

/-- The tag of a node; a bare string has none. -/
def tag? : Node → Option String
  | str _ => none
  | heading _ _ => some Kind.heading.tag
  | list none _ => some Kind.bulletList.tag
  | list (some _) _ => some Kind.numberedList.tag
  | quote _ => some Kind.quote.tag
  | preformatted _ _ => some Kind.preformatted.tag
  | styled style _ => some style.kind.tag
  | code _ => some Kind.code.tag
  | rule => some Kind.rule.tag
  | lineBreak => some Kind.lineBreak.tag
  | link _ _ _ => some Kind.link.tag
  | comment _ _ _ => some Kind.comment.tag
  | reference target _ _ => some target.kind.tag
  | mention _ => some Kind.mention.tag
  | attachment _ _ _ => some Kind.attachment.tag
  | image _ => some Kind.image.tag
  | paragraphBreak => some Kind.paragraphBreak.tag
  | text _ => some Kind.text.tag
  | unknown tag _ => some tag

/-! ## Equality -/

mutual

/-- Whether two nodes are the same. -/
def beq : Node → Node → Bool
  | str a, str b => a == b
  | heading l a, heading m b => l == m && a == b
  | list f a, list g b => f == g && beqItems a b
  | quote a, quote b => beqNodes a b
  | preformatted a l, preformatted b m => a == b && l == m
  | styled s a, styled t b => s == t && beqNodes a b
  | code a, code b => a == b
  | rule, rule => true
  | lineBreak, lineBreak => true
  | link u l a, link v m b => u == v && beqLabel l m && a == b
  | comment t c a, comment t' c' b => t == t' && c == c' && a == b
  | reference k i a, reference l j b => k == l && i == j && a == b
  | mention a, mention b => a == b
  | attachment i a t, attachment j b t' => i == j && a == b && t == t'
  | image a, image b => a == b
  | paragraphBreak, paragraphBreak => true
  | text a, text b => a == b
  | unknown t f, unknown t' f' => t == t' && f == f'
  | _, _ => false

/-- Whether two sequences of nodes are the same. -/
def beqNodes : List Node → List Node → Bool
  | [], [] => true
  | a :: as, b :: bs => a.beq b && beqNodes as bs
  | _, _ => false

/-- Whether two labels are the same. -/
def beqLabel : Option (List Node) → Option (List Node) → Bool
  | none, none => true
  | some a, some b => beqNodes a b
  | _, _ => false

/-- Whether two lists of items are the same. -/
def beqItems : List (List Node) → List (List Node) → Bool
  | [], [] => true
  | a :: as, b :: bs => beqNodes a b && beqItems as bs
  | _, _ => false

end

mutual

/-- Nodes that compare as equal are equal, by recursion over both. -/
theorem beq_iff : ∀ a b : Node, a.beq b = true ↔ a = b
  | str _, b => by cases b <;> simp [beq]
  | heading _ _, b => by cases b <;> simp [beq]
  | list f xs, b => by
    cases b <;> simp [beq]
    rw [beqItems_iff xs _]
    simp
  | quote xs, b => by
    cases b <;> simp [beq]
    exact beqNodes_iff xs _
  | preformatted _ _, b => by cases b <;> simp [beq]
  | styled _ xs, b => by
    cases b <;> simp [beq]
    rw [beqNodes_iff xs _]
    simp
  | code _, b => by cases b <;> simp [beq]
  | rule, b => by cases b <;> simp [beq]
  | lineBreak, b => by cases b <;> simp [beq]
  | link _ l _, b => by
    cases b <;> simp [beq]
    rw [beqLabel_iff l _]
    simp [and_assoc]
  | comment _ _ _, b => by cases b <;> simp [beq, and_assoc]
  | reference _ _ _, b => by cases b <;> simp [beq, and_assoc]
  | mention _, b => by cases b <;> simp [beq]
  | attachment _ _ _, b => by cases b <;> simp [beq, and_assoc]
  | image _, b => by cases b <;> simp [beq]
  | paragraphBreak, b => by cases b <;> simp [beq]
  | text _, b => by cases b <;> simp [beq]
  | unknown _ _, b => by cases b <;> simp [beq]

theorem beqNodes_iff : ∀ a b : List Node, beqNodes a b = true ↔ a = b
  | [], b => by cases b <;> simp [beqNodes]
  | x :: xs, b => by
    cases b with
    | nil => simp [beqNodes]
    | cons y ys => simp [beqNodes, beq_iff x y, beqNodes_iff xs ys]

theorem beqLabel_iff : ∀ a b : Option (List Node), beqLabel a b = true ↔ a = b
  | none, b => by cases b <;> simp [beqLabel]
  | some xs, b => by
    cases b with
    | none => simp [beqLabel]
    | some ys => simp [beqLabel, beqNodes_iff xs ys]

theorem beqItems_iff : ∀ a b : List (List Node), beqItems a b = true ↔ a = b
  | [], b => by cases b <;> simp [beqItems]
  | x :: xs, b => by
    cases b with
    | nil => simp [beqItems]
    | cons y ys => simp [beqItems, beqNodes_iff x y, beqItems_iff xs ys]

end

instance : DecidableEq Node := fun a b => decidable_of_iff _ (beq_iff a b)

end Node

end TicketMarkup
