import TicketMarkup.Format.Basic

/-!
# What display trees and formatted sequences hold

The tag of a display node that is an element (`Display.tag?`), and what holds of every element in a
display tree (`Display.EveryElement`), which is said of one element: of its tag, its attributes and
its children.

Grouping into paragraphs and leaving out the marks add nothing to a sequence of formatted nodes:
what stands in a paragraph, or in inline content, is one of the nodes formatted. The tag of a
heading is one of six, whatever its level.
-/

namespace TicketMarkup

/-! ## Elements of display trees -/

namespace Display

/-- The tag of an element; other nodes have none. -/
def tag? : Display → Option String
  | element tag _ _ => some tag
  | _ => none

@[simp] theorem tag?_element (tag : String) (attrs : List (String × String))
    (children : List Display) : (element tag attrs children).tag? = some tag := rfl

@[simp] theorem tag?_plain (tag : String) (children : List Display) :
    (plain tag children).tag? = some tag := rfl

variable {R S : String → List (String × String) → List Display → Prop}

/-- Whether every element in a display tree, the tree itself if it is one, satisfies a condition on
its tag, attributes and children. -/
inductive EveryElement (R : String → List (String × String) → List Display → Prop) :
    Display → Prop where
  | text (s : String) : EveryElement R (text s)
  | codeBlock (code : String) (language : Option String) : EveryElement R (codeBlock code language)
  | userLink (user : String) : EveryElement R (userLink user)
  | element {tag : String} {attrs : List (String × String)} {children : List Display}
      (own : R tag attrs children) (below : ∀ c ∈ children, EveryElement R c) :
      EveryElement R (element tag attrs children)

/-- What holds of every element may be weakened. -/
theorem EveryElement.mono (h : ∀ tag attrs children, R tag attrs children → S tag attrs children)
    {d : Display} (hd : d.EveryElement R) : d.EveryElement S := by
  induction hd with
  | text s => exact .text s
  | codeBlock code language => exact .codeBlock code language
  | userLink user => exact .userLink user
  | element own _ ih => exact .element (h _ _ _ own) ih

end Display

/-! ## Formatted sequences -/

/-- All leaves but the marks are kept. -/
theorem mem_withoutMarks {α : Type} {x : α} {leaves : List (Option α)} :
    x ∈ withoutMarks leaves ↔ some x ∈ leaves := by
  simp [withoutMarks]

/-- What is in a group was among the leaves. -/
theorem mem_of_mem_groups {α : Type} {x : α} {group : List α} {leaves : List (Option α)}
    (hgroup : group ∈ groups leaves) (hx : x ∈ group) : some x ∈ leaves := by
  rw [← mem_withoutMarks, ← flatten_groups]
  exact List.mem_flatten.2 ⟨group, hgroup, hx⟩

/-- Each leaf that is no mark is in a group. -/
theorem exists_group_of_mem {α : Type} {x : α} {leaves : List (Option α)}
    (hx : some x ∈ leaves) : ∃ group ∈ groups leaves, x ∈ group := by
  rw [← List.mem_flatten, flatten_groups]
  exact mem_withoutMarks.2 hx

/-- The leaves of a sequence are those of its nodes. -/
theorem mem_leaves {ctx : Context} {nodes : List Node} {leaf : Leaf} :
    leaf ∈ leaves ctx nodes ↔ ∃ n ∈ nodes, n.format ctx = leaf := by
  simp [leaves_eq_map]

/-- A paragraph holds a group of leaves. -/
theorem mem_paragraphs {leaves : List Leaf} {d : Display} :
    d ∈ paragraphs leaves ↔ ∃ group ∈ groups leaves, .plain "p" group = d := by
  simp [paragraphs]

/-- An item element holds an item as it is formatted. -/
theorem mem_itemElements {ctx : Context} {items : List (List Node)} {d : Display} :
    d ∈ itemElements ctx items ↔ ∃ item ∈ items, .plain "li" (format ctx item) = d := by
  simp [itemElements_eq_map]

/-- There are six tags for headings. -/
theorem headingTag_mem (level : Int) :
    headingTag level ∈ ["h1", "h2", "h3", "h4", "h5", "h6"] := by
  have hlevel : max 1 (min 6 level) = 1 ∨ max 1 (min 6 level) = 2 ∨ max 1 (min 6 level) = 3 ∨
      max 1 (min 6 level) = 4 ∨ max 1 (min 6 level) = 5 ∨ max 1 (min 6 level) = 6 := by omega
  unfold headingTag
  rcases hlevel with h | h | h | h | h | h <;> rw [h] <;> decide

end TicketMarkup
