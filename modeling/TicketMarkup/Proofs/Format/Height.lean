import TicketMarkup.Proofs.Format.Members
import TicketMarkup.Proofs.Source.RoundTrip

/-!
# The height of formatted trees

The height of a display tree is the number of elements that stand in one another in it
(`Display.height`). Formatting adds at most three for each level of sequences in the markup: an item
adds a list, the item and a paragraph, a quote two elements, emphasis and links one. A node of its
own adds one at most, and so does the paragraph that it stands in. So a limit on the nesting that is
loaded bounds the height of what is formatted, and lists within one another reach the bound
(`height_of_load`).
-/

namespace TicketMarkup

/-! ## Height -/

namespace Display

mutual

/-- The levels of elements in a display node; an element without children is one level. -/
def height : Display → Nat
  | element _ _ children => heightIn children + 1
  | _ => 0

/-- The levels of elements in display nodes. -/
def heightIn : List Display → Nat
  | [] => 0
  | d :: rest => max d.height (heightIn rest)

end

/-- A sequence is as high as the highest of its members. -/
theorem heightIn_le_iff {ds : List Display} {k : Nat} :
    heightIn ds ≤ k ↔ ∀ d ∈ ds, d.height ≤ k := by
  induction ds with
  | nil => simp [heightIn]
  | cons d rest ih => rw [heightIn, Nat.max_le, ih, List.forall_mem_cons]

/-- An element is one higher than what it holds. -/
theorem height_element_le_iff {tag : String} {attrs : List (String × String)}
    {children : List Display} {k : Nat} :
    (element tag attrs children).height ≤ k + 1 ↔ ∀ d ∈ children, d.height ≤ k := by
  rw [height, Nat.add_le_add_iff_right, heightIn_le_iff]

theorem height_plain_le_iff {tag : String} {children : List Display} {k : Nat} :
    (plain tag children).height ≤ k + 1 ↔ ∀ d ∈ children, d.height ≤ k :=
  height_element_le_iff

/-- A list is one higher than its items. -/
theorem height_listElement_le_iff {first : Option String} {items : List Display} {k : Nat} :
    (listElement first items).height ≤ k + 1 ↔ ∀ d ∈ items, d.height ≤ k := by
  cases first <;> exact height_element_le_iff

/-- An element of one text. -/
theorem height_element_text (tag : String) (attrs : List (String × String)) (s : String) :
    (element tag attrs [text s]).height = 1 := rfl

end Display

/-! ## Formatted nodes -/

/-- A part of a node has less levels of sequences in it than the node. -/
theorem Node.nesting_lt_of_mem_parts {m n : Node} (h : m ∈ n.parts) : m.nesting < n.nesting := by
  obtain ⟨s, hs, hm⟩ := Node.mem_parts.1 h
  have hsequence : sequenceNesting s < n.nesting := Node.nesting_le_iff.1 (Nat.le_refl _) s hs
  have hpart : m.nesting ≤ sequenceNesting s := sequenceNesting_le_iff.1 (Nat.le_refl _) m hm
  omega

section Sequences

variable {ctx : Context} {nodes : List Node} {k : Nat}

/-- Inline content is as high as the nodes in it. -/
theorem height_le_of_mem_withoutMarks
    (h : ∀ n ∈ nodes, ∀ d, n.format ctx = some d → d.height ≤ k) :
    ∀ d ∈ withoutMarks (leaves ctx nodes), d.height ≤ k := by
  intro d hd
  obtain ⟨n, hn, hformat⟩ := mem_leaves.1 (mem_withoutMarks.1 hd)
  exact h n hn d hformat

/-- A paragraph is one higher than the nodes in it. -/
theorem height_le_of_mem_format (h : ∀ n ∈ nodes, ∀ d, n.format ctx = some d → d.height ≤ k) :
    ∀ d ∈ format ctx nodes, d.height ≤ k + 1 := by
  intro d hd
  obtain ⟨group, hgroup, rfl⟩ := mem_paragraphs.1 hd
  rw [Display.height_plain_le_iff]
  intro e he
  obtain ⟨n, hn, hformat⟩ := mem_leaves.1 (mem_of_mem_groups hgroup he)
  exact h n hn e hformat

end Sequences

/-- What a node is formatted to is at most three elements high for each level of sequences in the
node, and one more. -/
theorem height_format_le (ctx : Context) (n : Node) :
    ∀ d, n.format ctx = some d → d.height ≤ 3 * n.nesting + 1 := by
  induction n using Node.induction_on_parts with
  | step n ih =>
    -- A level less for a part leaves three elements for what stands around it.
    have hpart : ∀ m ∈ n.parts, ∀ d, m.format ctx = some d → d.height ≤ 3 * n.nesting - 2 := by
      intro m hm d hd
      have hheight := ih m hm d hd
      have hnesting := Node.nesting_lt_of_mem_parts hm
      omega
    have hsequences := Node.nesting_le_iff.1 (Nat.le_refl n.nesting)
    intro d hd
    cases n with
    | str s | text s | preformatted text language | mention user =>
      cases hd
      exact Nat.zero_le _
    | heading level text | code text | comment ticket comment text | reference target id text
    | attachment id text ticket | unknown tag fields =>
      cases hd
      exact Nat.le_of_eq (Display.height_element_text _ _ _)
    | rule | lineBreak | image url =>
      cases hd
      exact Nat.le_refl 1
    | paragraphBreak => cases hd
    | list first items =>
      cases hd
      rw [Display.height_listElement_le_iff]
      intro item hitem
      obtain ⟨nodes, hnodes, rfl⟩ := mem_itemElements.1 hitem
      have hlevel := hsequences nodes hnodes
      have hparagraphs : ∀ e ∈ format ctx nodes,
          e.height ≤ 3 * (Node.list first items).nesting - 2 + 1 :=
        height_le_of_mem_format fun m hm => hpart m (List.mem_flatten.2 ⟨nodes, hnodes, hm⟩)
      have hitem : (Display.plain "li" (format ctx nodes)).height ≤
          3 * (Node.list first items).nesting - 2 + 1 + 1 :=
        Display.height_plain_le_iff.2 hparagraphs
      omega
    | quote children =>
      cases hd
      have hlevel := hsequences children (List.mem_singleton_self _)
      have hquote : (Display.plain "blockquote" (format ctx children)).height ≤
          3 * (Node.quote children).nesting - 2 + 1 + 1 :=
        Display.height_plain_le_iff.2 (height_le_of_mem_format hpart)
      exact Nat.le_trans hquote (by omega)
    | styled style children =>
      cases hd
      have hlevel := hsequences children (List.mem_singleton_self _)
      have hstyled : (Display.plain style.displayTag
          (withoutMarks (leaves ctx children))).height ≤
            3 * (Node.styled style children).nesting - 2 + 1 :=
        Display.height_plain_le_iff.2 (height_le_of_mem_withoutMarks hpart)
      exact Nat.le_trans hstyled (by omega)
    | link url label text =>
      cases hd
      cases label with
      | none => exact Nat.le_of_eq (Display.height_element_text _ _ _)
      | some nodes =>
        have hlevel := hsequences nodes (List.mem_singleton_self _)
        have hlink : (Display.element "a" [("href", url)]
            (withoutMarks (leaves ctx nodes))).height ≤
              3 * (Node.link url (some nodes) text).nesting - 2 + 1 :=
          Display.height_element_le_iff.2 (height_le_of_mem_withoutMarks hpart)
        exact Nat.le_trans hlink (by omega)

/-! ## Loaded markup -/

/-- What is loaded nests within the limit. -/
theorem sequenceNesting_le_of_load {limit : Int} {data : Json} {nodes : List Node}
    (h : (load limit data).outcome = .ok nodes) : (sequenceNesting nodes : Int) ≤ limit := by
  have hany : Json.Inherited fun _ => True := ⟨trivial, fun _ _ => trivial⟩
  exact lt_levelsAt_zero_iff.1 (IsLoaded.wellFormed hany ⟨[], data, trivial, h⟩).2

/-- Lists within one another, with a horizontal line in the innermost. -/
def listsToLevel : Nat → List Node
  | 0 => [.rule]
  | level + 1 => [.list none [listsToLevel level]]

/-- Lists to a level are nested to that level. -/
theorem sequenceNesting_listsToLevel (level : Nat) :
    sequenceNesting (listsToLevel level) = level := by
  induction level with
  | zero => rfl
  | succ level ih =>
    simp only [listsToLevel, sequenceNesting, Node.nesting, itemsNesting, ih]
    omega

theorem wellFormed_listsToLevel (level : Nat) : ∀ n ∈ listsToLevel level, n.WellFormed := by
  induction level with
  | zero =>
    exact List.forall_mem_singleton.2 (Node.wellFormed_iff.2 ⟨trivial, fun s hs => by cases hs⟩)
  | succ level ih =>
    refine List.forall_mem_singleton.2 (Node.wellFormed_iff.2 ⟨trivial, fun s hs => ?_⟩)
    obtain rfl := List.mem_singleton.1 hs
    exact ih

/-- They are formatted to one paragraph, which is as high as any can be at their nesting. -/
theorem exists_format_listsToLevel (ctx : Context) (level : Nat) :
    ∃ d, format ctx (listsToLevel level) = [d] ∧ d.height = 3 * level + 2 := by
  induction level with
  | zero => exact ⟨_, rfl, rfl⟩
  | succ level ih =>
    obtain ⟨d, hd, hheight⟩ := ih
    have hformat : format ctx (listsToLevel (level + 1)) =
        [.plain "p" [.plain "ul" [.plain "li" (format ctx (listsToLevel level))]]] := rfl
    refine ⟨_, hformat, ?_⟩
    simp only [hd, Display.plain, Display.height, Display.heightIn, hheight]
    omega

/-- Lists within one another as deep as a limit are loaded. -/
theorem load_dump_listsToLevel (level : Nat) :
    (load level (dump (listsToLevel level))).outcome = .ok (listsToLevel level) := by
  refine loadsBack_of_wellFormed (wellFormed_listsToLevel level) ?_ []
  rw [sequenceNesting_listsToLevel]
  exact lt_levelsAt_zero_iff.2 (Int.le_refl _)

/-- A limit on nesting bounds the height of formatted text: three elements for each level, and two
more. For every limit some data is loaded that reaches the bound, in every context. -/
theorem height_of_load :
    (∀ limit data nodes, (load limit data).outcome = .ok nodes →
      ∀ ctx, ∀ d ∈ format ctx nodes, (d.height : Int) ≤ 3 * limit + 2) ∧
    ∀ limit : Int, 0 ≤ limit → ∃ data nodes, (load limit data).outcome = .ok nodes ∧
      ∀ ctx, ∃ d ∈ format ctx nodes, (d.height : Int) = 3 * limit + 2 := by
  refine ⟨fun limit data nodes hload ctx d hd => ?_, fun limit hlimit => ?_⟩
  · have hnesting := sequenceNesting_le_of_load hload
    have hnodes : ∀ n ∈ nodes, ∀ e, n.format ctx = some e →
        e.height ≤ 3 * sequenceNesting nodes + 1 := by
      intro n hn e he
      have hn := sequenceNesting_le_iff.1 (Nat.le_refl _) n hn
      have he := height_format_le ctx n e he
      omega
    have hheight := height_le_of_mem_format hnodes d hd
    omega
  · obtain ⟨level, rfl⟩ := Int.eq_ofNat_of_zero_le hlimit
    refine ⟨_, _, load_dump_listsToLevel level, fun ctx => ?_⟩
    obtain ⟨d, hd, hheight⟩ := exists_format_listsToLevel ctx level
    refine ⟨d, ?_, ?_⟩
    · rw [hd]
      exact List.mem_singleton_self d
    · rw [hheight]
      omega

/-- A heading in a quote in a list, two levels deep. -/
theorem height_of_load_heading_in_quote :
    (∃ nodes, (load 2 (.arr [.obj [("type", .str "unordered-list"), ("children", .arr
          [.arr [.obj [("type", .str "citation"), ("children", .arr
            [.obj [("type", .str "heading"), ("text", .str "a")]])]]])]])).outcome = .ok nodes ∧
      ∃ d ∈ format .empty nodes, d.height = 7 ∧ (d.height : Int) ≤ 3 * 2 + 2) ∧
    (0 : Int) ≤ 1 ∧ ∃ data nodes, (load 1 data).outcome = .ok nodes ∧
      ∀ ctx, ∃ d ∈ format ctx nodes, (d.height : Int) = 3 * 1 + 2 := by
  have hload : (load 2 (.arr [.obj [("type", .str "unordered-list"), ("children", .arr
      [.arr [.obj [("type", .str "citation"), ("children", .arr
        [.obj [("type", .str "heading"), ("text", .str "a")]])]]])]])).outcome =
      .ok [.list none [[.quote [.heading 1 "a"]]]] := rfl
  have hmem : Display.plain "p" [.plain "ul" [.plain "li" [.plain "p" [.plain "blockquote"
      [.plain "p" [.plain "h1" [.text "a"]]]]]]] ∈
      format .empty [.list none [[.quote [.heading 1 "a"]]]] := List.mem_singleton.2 rfl
  exact ⟨⟨_, hload, _, hmem, rfl, height_of_load.1 2 _ _ hload .empty _ hmem⟩, by decide,
    height_of_load.2 1 (by decide)⟩

end TicketMarkup
