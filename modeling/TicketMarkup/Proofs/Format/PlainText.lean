import TicketMarkup.Format.Basic
import TicketMarkup.Proofs.Source.Parts

/-!
# Formatting keeps the text

The text of a node (`Node.sourceText`) is what a reader of the markup sees of it as text, in the
order of the document. Formatting loses, repeats and moves none of it, whether a sequence becomes
paragraphs or inline content (`plainTexts_format`): paragraphs are cut at marks only, which have no
text, and a link shows its label or else its text.
-/

namespace TicketMarkup

/-! ## The text of markup -/

mutual

/-- The text of a node. -/
def Node.sourceText : Node → String
  | .str s => s
  | .heading _ text => text
  | .list _ items => itemSourceTexts items
  | .quote children => sourceTexts children
  | .preformatted text _ => text
  | .styled _ children => sourceTexts children
  | .code text => text
  | .rule => ""
  | .lineBreak => ""
  | .link _ label text => labelSourceText text label
  | .comment _ _ text => text
  | .reference _ _ text => text
  | .mention user => "@" ++ user
  | .attachment _ text _ => text
  | .image _ => ""
  | .paragraphBreak => ""
  | .text s => s
  | .unknown tag _ => "Unknown type " ++ tag

/-- The texts of nodes, one after the other. -/
def sourceTexts : List Node → String
  | [] => ""
  | node :: rest => node.sourceText ++ sourceTexts rest

/-- The text of a link: that of its label, or its own text if it has no label. -/
def labelSourceText (text : String) : Option (List Node) → String
  | none => text
  | some nodes => sourceTexts nodes

/-- The texts of the items of a list, one after the other. -/
def itemSourceTexts : List (List Node) → String
  | [] => ""
  | item :: rest => sourceTexts item ++ itemSourceTexts rest

end

/-! ## The text of formatted nodes -/

/-- The text of a formatted node; a paragraph break has none. -/
def leafText : Leaf → String
  | none => ""
  | some d => d.plainText

theorem plainTexts_singleton (d : Display) : Display.plainTexts [d] = d.plainText := by
  simp [Display.plainTexts]

theorem plainText_plain (tag : String) (children : List Display) :
    (Display.plain tag children).plainText = Display.plainTexts children :=
  Display.plainText_element tag [] children

/-- Leaving out the marks leaves out no text. -/
theorem plainTexts_withoutMarks_cons (leaf : Leaf) (rest : List Leaf) :
    Display.plainTexts (withoutMarks (leaf :: rest)) =
      leafText leaf ++ Display.plainTexts (withoutMarks rest) := by
  cases leaf with
  | none => simp [withoutMarks, leafText]
  | some d => simp [withoutMarks, leafText, Display.plainTexts]

/-- Wrapping groups in elements leaves the text. -/
theorem plainTexts_map_plain (tag : String) (groups : List (List Display)) :
    Display.plainTexts (groups.map (Display.plain tag)) = Display.plainTexts groups.flatten := by
  induction groups with
  | nil => rfl
  | cons group rest ih =>
    rw [List.map_cons, List.flatten_cons, Display.plainTexts, plainText_plain, ih,
      Display.plainTexts_append]

/-- Paragraphs have the text of what they were made of. -/
theorem plainTexts_paragraphs (leaves : List Leaf) :
    Display.plainTexts (paragraphs leaves) = Display.plainTexts (withoutMarks leaves) := by
  rw [paragraphs, plainTexts_map_plain, flatten_groups]

/-! ## Nothing is lost -/

/-- Leaves have the texts of their nodes. -/
theorem plainTexts_leaves {ctx : Context} {nodes : List Node}
    (h : ∀ n ∈ nodes, leafText (n.format ctx) = n.sourceText) :
    Display.plainTexts (withoutMarks (leaves ctx nodes)) = sourceTexts nodes := by
  induction nodes with
  | nil => rfl
  | cons n rest ih =>
    obtain ⟨hn, hrest⟩ := List.forall_mem_cons.1 h
    rw [leaves, plainTexts_withoutMarks_cons, hn, ih hrest, sourceTexts]

theorem plainTexts_itemElements {ctx : Context} {items : List (List Node)}
    (h : ∀ n ∈ items.flatten, leafText (n.format ctx) = n.sourceText) :
    Display.plainTexts (itemElements ctx items) = itemSourceTexts items := by
  induction items with
  | nil => rfl
  | cons item rest ih =>
    rw [List.flatten_cons, List.forall_mem_append] at h
    rw [itemElements, Display.plainTexts, plainText_plain, plainTexts_paragraphs,
      plainTexts_leaves h.1, ih h.2, itemSourceTexts]

/-- A node is formatted to what has its text. -/
theorem leafText_format (ctx : Context) (n : Node) :
    leafText (n.format ctx) = n.sourceText := by
  induction n using Node.induction_on_parts with
  | step n ih =>
    cases n with
    | list first items =>
      have hitems : Display.plainTexts (itemElements ctx items) = itemSourceTexts items :=
        plainTexts_itemElements ih
      cases first <;>
        simp [Node.format, leafText, listElement, Display.plainText, Node.sourceText, hitems]
    | quote children =>
      have hchildren : Display.plainTexts (withoutMarks (leaves ctx children)) =
          sourceTexts children := plainTexts_leaves ih
      rw [Node.format, leafText, plainText_plain, plainTexts_paragraphs, hchildren,
        Node.sourceText]
    | styled style children =>
      have hchildren : Display.plainTexts (withoutMarks (leaves ctx children)) =
          sourceTexts children := plainTexts_leaves ih
      rw [Node.format, leafText, plainText_plain, hchildren, Node.sourceText]
    | link url label text =>
      rw [Node.format, leafText, Display.plainText_element, Node.sourceText]
      cases label with
      | none => rw [labelNodes, plainTexts_singleton, Display.plainText, labelSourceText]
      | some nodes => exact @plainTexts_leaves ctx nodes ih
    | heading | code | comment | reference | attachment | image | unknown | rule | lineBreak =>
      simp [Node.format, leafText, Display.plain, commentLink, referenceLink, attachmentLink,
        trackerLink, imageElement, unknownElement, Display.plainText, Display.plainTexts,
        Node.sourceText]
    | str | preformatted | mention | text =>
      simp [Node.format, leafText, Display.plainText, Node.sourceText]
    | paragraphBreak => simp [Node.format, leafText, Node.sourceText]

/-- Paragraphs and inline content have the text of the nodes they are made of. -/
theorem plainTexts_format (ctx : Context) (nodes : List Node) :
    Display.plainTexts (format ctx nodes) = sourceTexts nodes ∧
      Display.plainTexts (formatInline ctx nodes) = sourceTexts nodes := by
  have h := plainTexts_leaves fun n (_ : n ∈ nodes) => leafText_format ctx n
  refine ⟨?_, h⟩
  rw [format, plainTexts_paragraphs, h]

end TicketMarkup
