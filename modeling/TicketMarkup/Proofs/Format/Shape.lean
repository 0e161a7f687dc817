import TicketMarkup.Proofs.Format.Members
import TicketMarkup.Proofs.Source.Parts

/-!
# The shape of formatted trees

Formatted text is a sequence of paragraphs, and what may stand where in it does not depend on the
markup (`FormattedElement`): which tags there are, which attributes they have, that paragraphs stand
in quotes and in items and nowhere else below the top, and that items stand in lists and nowhere
else. What a node is formatted to by itself is neither a paragraph nor an item (`IsContent`).

The lists of a formatted text are those of the markup, in the same order, and each has an item for
every item in the markup (`listsIn_format`).
-/

namespace TicketMarkup

/-! ## Elements -/

/-- The tags of formatted text. -/
def formattedTags : List String :=
  ["p", "h1", "h2", "h3", "h4", "h5", "h6", "ul", "ol", "li", "blockquote", "strong", "em",
    "strike", "code", "hr", "br", "a", "img", "span"]

/-- The names of the attributes that elements with a tag have, in order. -/
def attributeNames : String → List String
  | "a" => ["href"]
  | "ol" => ["start"]
  | "img" => ["alt", "src"]
  | "span" => ["class"]
  | _ => []

/-- The conditions on an element of formatted text. -/
structure FormattedElement (tag : String) (attrs : List (String × String))
    (children : List Display) : Prop where
  tag_mem : tag ∈ formattedTags
  names_eq : attrs.map Prod.fst = attributeNames tag
  /-- A numbered list starts with an integer in decimal. -/
  start_eq : tag = "ol" → ∃ n : Int, attrs = [("start", Numeral.text n)]
  ne_nil : tag = "p" → children ≠ []
  void : tag ∈ ["hr", "br", "img"] → children = []
  /-- All the children of quotes and items are paragraphs, and no other element has any. -/
  paragraphs : ∀ c ∈ children, (c.tag? = some "p" ↔ tag ∈ ["blockquote", "li"])
  /-- All the children of lists are items, and no other element has any. -/
  items : ∀ c ∈ children, (c.tag? = some "li" ↔ tag ∈ ["ul", "ol"])

/-- Whether every element in a display tree is as in formatted text. -/
def Display.Formatted : Display → Prop := Display.EveryElement FormattedElement

/-- Whether a display node may stand in a paragraph or in inline content. -/
structure IsContent (d : Display) : Prop where
  formatted : d.Formatted
  not_paragraph : d.tag? ≠ some "p"
  not_item : d.tag? ≠ some "li"

/-- Whether elements with a tag have content of any kind but paragraphs and items, and may be
empty. -/
def HoldsContent (tag : String) : Prop :=
  tag ∈ formattedTags ∧ tag ∉ ["p", "blockquote", "li", "ul", "ol", "hr", "br", "img"]

instance (tag : String) : Decidable (HoldsContent tag) :=
  inferInstanceAs (Decidable (_ ∧ _))

theorem isContent_text (s : String) : IsContent (.text s) :=
  ⟨.text s, by simp [Display.tag?], by simp [Display.tag?]⟩

theorem forall_isContent_text (s : String) : ∀ c ∈ [Display.text s], IsContent c :=
  List.forall_mem_singleton.2 (isContent_text s)

/-- An element with a tag and attributes of content holds content if its children are content. -/
theorem isContent_element {tag : String} {attrs : List (String × String)} {children : List Display}
    (htag : HoldsContent tag) (hnames : attrs.map Prod.fst = attributeNames tag)
    (h : ∀ c ∈ children, IsContent c) : IsContent (.element tag attrs children) := by
  obtain ⟨hmem, hnot⟩ := htag
  simp only [List.mem_cons, List.not_mem_nil, or_false, not_or] at hnot
  obtain ⟨hp, hquote, hli, hul, hol, hhr, hbr, himg⟩ := hnot
  refine ⟨.element ⟨hmem, hnames, fun h => absurd h hol, fun h => absurd h hp, ?_, ?_, ?_⟩
    fun c hc => (h c hc).formatted, by simpa using hp, by simpa using hli⟩
  · simp [hhr, hbr, himg]
  · exact fun c hc => iff_of_false (h c hc).not_paragraph (by simp [hquote, hli])
  · exact fun c hc => iff_of_false (h c hc).not_item (by simp [hul, hol])

theorem isContent_void {tag : String} {attrs : List (String × String)}
    (htag : tag ∈ ["hr", "br", "img"]) (hnames : attrs.map Prod.fst = attributeNames tag) :
    IsContent (.element tag attrs []) := by
  have hall : ∀ t ∈ ["hr", "br", "img"], t ∈ formattedTags ∧ t ≠ "ol" ∧ t ≠ "p" ∧ t ≠ "li" := by
    decide
  obtain ⟨hmem, hol, hp, hli⟩ := hall tag htag
  exact ⟨.element ⟨hmem, hnames, fun h => absurd h hol, fun h => absurd h hp, fun _ => rfl,
    by simp, by simp⟩ (by simp), by simpa using hp, by simpa using hli⟩

/-- A paragraph of some content. -/
theorem formatted_paragraph {group : List Display} (hne : group ≠ [])
    (h : ∀ c ∈ group, IsContent c) : (Display.plain "p" group).Formatted :=
  .element ⟨by decide, rfl, by simp, fun _ => hne, by simp,
    fun c hc => iff_of_false (h c hc).not_paragraph (by decide),
    fun c hc => iff_of_false (h c hc).not_item (by decide)⟩ fun c hc => (h c hc).formatted

/-! ## Sequences -/

/-- The paragraphs of a sequence of content. -/
theorem formatted_of_mem_paragraphs {leaves : List Leaf} (h : ∀ d, some d ∈ leaves → IsContent d)
    {d : Display} (hd : d ∈ paragraphs leaves) : d.tag? = some "p" ∧ d.Formatted := by
  obtain ⟨group, hgroup, rfl⟩ := mem_paragraphs.1 hd
  exact ⟨rfl, formatted_paragraph (ne_nil_of_mem_groups hgroup)
    fun c hc => h c (mem_of_mem_groups hgroup hc)⟩

/-- A quote or an item of paragraphs. -/
theorem formatted_of_paragraphs {tag : String} (htag : tag ∈ ["blockquote", "li"])
    {children : List Display} (h : ∀ c ∈ children, c.tag? = some "p" ∧ c.Formatted) :
    (Display.plain tag children).Formatted := by
  have hall : ∀ t ∈ ["blockquote", "li"], t ∈ formattedTags ∧ attributeNames t = [] ∧ t ≠ "ol" ∧
      t ≠ "p" ∧ t ∉ ["hr", "br", "img"] ∧ t ∉ ["ul", "ol"] := by decide
  obtain ⟨hmem, hnames, hol, hp, hvoid, hlist⟩ := hall tag htag
  refine .element ⟨hmem, hnames.symm, fun h => absurd h hol, fun h => absurd h hp,
    fun h => absurd h hvoid, fun c hc => iff_of_true (h c hc).1 htag, fun c hc => ?_⟩
    fun c hc => (h c hc).2
  exact iff_of_false (by simp [(h c hc).1]) hlist

/-- A list of items, numbered or not. -/
theorem isContent_listElement (first : Option Int) {items : List Display}
    (h : ∀ c ∈ items, c.tag? = some "li" ∧ c.Formatted) :
    IsContent (listElement (first.map Numeral.text) items) := by
  have hparagraphs : ∀ c ∈ items, ∀ tag ∈ ["ul", "ol"],
      (c.tag? = some "p" ↔ tag ∈ ["blockquote", "li"]) := by
    intro c hc tag htag
    refine iff_of_false (by simp [(h c hc).1]) ?_
    have hall : ∀ t ∈ ["ul", "ol"], t ∉ ["blockquote", "li"] := by decide
    exact hall tag htag
  cases first with
  | none =>
    exact ⟨.element ⟨by decide, rfl, by simp, by simp, by simp,
      fun c hc => hparagraphs c hc "ul" (by simp), fun c hc => iff_of_true (h c hc).1 (by simp)⟩
      fun c hc => (h c hc).2, by simp [listElement], by simp [listElement]⟩
  | some n =>
    exact ⟨.element ⟨by decide, rfl, fun _ => ⟨n, rfl⟩, by simp, by simp,
      fun c hc => hparagraphs c hc "ol" (by simp), fun c hc => iff_of_true (h c hc).1 (by simp)⟩
      fun c hc => (h c hc).2, by simp [listElement], by simp [listElement]⟩

/-! ## Nodes -/

/-- A heading holds content and has no attributes. -/
theorem holdsContent_headingTag (level : Int) :
    HoldsContent (headingTag level) ∧ attributeNames (headingTag level) = [] := by
  have hall : ∀ tag ∈ ["h1", "h2", "h3", "h4", "h5", "h6"],
      HoldsContent tag ∧ attributeNames tag = [] := by decide
  exact hall _ (headingTag_mem level)

/-- A link into the tracker is content. -/
theorem isContent_trackerLink (ctx : Context) (path text : String) :
    IsContent (trackerLink ctx path text) :=
  isContent_element (by decide) rfl (forall_isContent_text text)

/-- What a node is formatted to is content. -/
theorem isContent_of_format (ctx : Context) (n : Node) :
    ∀ d, n.format ctx = some d → IsContent d := by
  induction n using Node.induction_on_parts with
  | step n ih =>
    have hseq : ∀ nodes : List Node, (∀ m ∈ nodes, m ∈ n.parts) →
        ∀ d, some d ∈ leaves ctx nodes → IsContent d := by
      intro nodes hnodes d hd
      obtain ⟨m, hm, hmd⟩ := mem_leaves.1 hd
      exact ih m (hnodes m hm) d hmd
    have hinline : ∀ nodes : List Node, (∀ m ∈ nodes, m ∈ n.parts) →
        ∀ d ∈ withoutMarks (leaves ctx nodes), IsContent d :=
      fun nodes hnodes d hd => hseq nodes hnodes d (mem_withoutMarks.1 hd)
    intro d hd
    cases n with
    | str s | text s =>
      cases hd
      exact isContent_text s
    | preformatted text language =>
      cases hd
      exact ⟨.codeBlock text language, by simp [Display.tag?], by simp [Display.tag?]⟩
    | mention user =>
      cases hd
      exact ⟨.userLink user, by simp [Display.tag?], by simp [Display.tag?]⟩
    | heading level text =>
      cases hd
      obtain ⟨htag, hnames⟩ := holdsContent_headingTag level
      exact isContent_element htag hnames.symm (forall_isContent_text text)
    | list first items =>
      cases hd
      refine isContent_listElement first fun c hc => ?_
      obtain ⟨item, hitem, rfl⟩ := mem_itemElements.1 hc
      refine ⟨rfl, formatted_of_paragraphs (by simp) fun e he => ?_⟩
      exact formatted_of_mem_paragraphs
        (hseq item fun m hm => List.mem_flatten.2 ⟨item, hitem, hm⟩) he
    | quote children =>
      cases hd
      have hchildren : (Display.plain "blockquote" (paragraphs (leaves ctx children))).Formatted :=
        formatted_of_paragraphs (by simp) fun e he =>
          formatted_of_mem_paragraphs (hseq children fun m hm => hm) he
      exact ⟨hchildren, by simp, by simp⟩
    | styled style children =>
      cases hd
      cases style <;>
        exact isContent_element (by decide) rfl (hinline children fun m hm => hm)
    | code text =>
      cases hd
      exact isContent_element (by decide) rfl (forall_isContent_text text)
    | rule | lineBreak =>
      cases hd
      exact isContent_void (by simp) rfl
    | link url label text =>
      cases hd
      refine isContent_element (by decide) rfl ?_
      cases label with
      | none => exact forall_isContent_text text
      | some nodes => exact hinline nodes fun m hm => hm
    | comment ticket comment text | reference target id text | attachment id text ticket =>
      cases hd
      exact isContent_trackerLink ctx _ text
    | image url =>
      cases hd
      exact isContent_void (by simp) rfl
    | paragraphBreak => cases hd
    | unknown tag fields =>
      cases hd
      exact isContent_element (by decide) rfl (forall_isContent_text _)

/-- A formatted text is made of paragraphs. -/
theorem formatted_of_mem_format {ctx : Context} {nodes : List Node} {d : Display}
    (hd : d ∈ format ctx nodes) : d.tag? = some "p" ∧ d.Formatted := by
  refine formatted_of_mem_paragraphs (fun e he => ?_) hd
  obtain ⟨n, -, hn⟩ := mem_leaves.1 he
  exact isContent_of_format ctx n e hn

/-! ## Lists -/

namespace Display

mutual

/-- The lists in a display node, each before those in its items. -/
def lists : Display → List Display
  | element tag attrs children =>
    if tag ∈ ["ul", "ol"] then element tag attrs children :: listsIn children
    else listsIn children
  | _ => []

/-- The lists in display nodes, in order. -/
def listsIn : List Display → List Display
  | [] => []
  | d :: rest => d.lists ++ listsIn rest

end

theorem listsIn_eq_flatMap (ds : List Display) : listsIn ds = ds.flatMap lists := by
  induction ds with
  | nil => rfl
  | cons d rest ih => rw [listsIn, ih, List.flatMap_cons]

theorem lists_element {tag : String} (h : tag ∉ ["ul", "ol"]) (attrs : List (String × String))
    (children : List Display) : (element tag attrs children).lists = listsIn children := by
  rw [lists, if_neg h]

theorem lists_plain {tag : String} (h : tag ∉ ["ul", "ol"]) (children : List Display) :
    (plain tag children).lists = listsIn children :=
  lists_element h [] children

/-- A list comes before the lists in it. -/
theorem lists_listElement (first : Option String) (items : List Display) :
    (listElement first items).lists = listElement first items :: listsIn items := by
  cases first <;> simp [listElement, lists]

end Display

mutual

/-- The lists in a node, each before those in its items: the first number, if the list is numbered,
and the items. -/
def Node.lists : Node → List (Option Int × List (List Node))
  | .list first items => (first, items) :: itemLists items
  | .quote children => nodeLists children
  | .styled _ children => nodeLists children
  | .link _ label _ => labelLists label
  | _ => []

/-- The lists in nodes, in order. -/
def nodeLists : List Node → List (Option Int × List (List Node))
  | [] => []
  | n :: rest => n.lists ++ nodeLists rest

/-- The lists in the label of a link, in order. -/
def labelLists : Option (List Node) → List (Option Int × List (List Node))
  | none => []
  | some nodes => nodeLists nodes

/-- The lists in the items of a list, in order. -/
def itemLists : List (List Node) → List (Option Int × List (List Node))
  | [] => []
  | item :: rest => nodeLists item ++ itemLists rest

end

/-- A list with an item for each of the items in the markup, in order. -/
def formattedList (ctx : Context) (list : Option Int × List (List Node)) : Display :=
  listElement (list.1.map Numeral.text)
    (list.2.map fun item => .plain "li" (format ctx item))

open Display (listsIn)

/-- Making paragraphs leaves the lists. -/
theorem listsIn_paragraphs (leaves : List Leaf) :
    listsIn (paragraphs leaves) = listsIn (withoutMarks leaves) := by
  have hparagraph : ∀ group : List Display, (Display.plain "p" group).lists = listsIn group :=
    Display.lists_plain (by decide)
  rw [← flatten_groups, paragraphs]
  induction groups leaves with
  | nil => rfl
  | cons group rest ih =>
    rw [List.map_cons, listsIn, ih, hparagraph, List.flatten_cons, Display.listsIn_eq_flatMap,
      Display.listsIn_eq_flatMap, Display.listsIn_eq_flatMap, List.flatMap_append]

/-- Leaves hold the lists of their nodes, each as it is formatted. -/
theorem listsIn_leaves {ctx : Context} {nodes : List Node}
    (h : ∀ n ∈ nodes, listsIn (n.format ctx).toList = n.lists.map (formattedList ctx)) :
    listsIn (withoutMarks (leaves ctx nodes)) = (nodeLists nodes).map (formattedList ctx) := by
  induction nodes with
  | nil => rfl
  | cons n rest ih =>
    obtain ⟨hn, hrest⟩ := List.forall_mem_cons.1 h
    rw [leaves, withoutMarks_cons, Display.listsIn_eq_flatMap, List.flatMap_append,
      ← Display.listsIn_eq_flatMap, ← Display.listsIn_eq_flatMap, hn, ih hrest, nodeLists,
      List.map_append]

theorem listsIn_itemElements {ctx : Context} {items : List (List Node)}
    (h : ∀ n ∈ items.flatten, listsIn (n.format ctx).toList = n.lists.map (formattedList ctx)) :
    listsIn (itemElements ctx items) = (itemLists items).map (formattedList ctx) := by
  induction items with
  | nil => rfl
  | cons item rest ih =>
    rw [List.flatten_cons, List.forall_mem_append] at h
    rw [itemElements, listsIn, Display.lists_plain (by decide), listsIn_paragraphs,
      listsIn_leaves h.1, ih h.2, itemLists, List.map_append]

/-- The lists of what a node is formatted to are those in the node. -/
theorem listsIn_format_node (ctx : Context) (n : Node) :
    listsIn (n.format ctx).toList = n.lists.map (formattedList ctx) := by
  have hsingle : ∀ d : Display, listsIn [d] = d.lists := fun d => by
    rw [listsIn, listsIn, List.append_nil]
  induction n using Node.induction_on_parts with
  | step n ih =>
    cases n with
    | list first items =>
      have hitems : listsIn (itemElements ctx items) =
          (itemLists items).map (formattedList ctx) := listsIn_itemElements ih
      rw [Node.format, Option.toList_some, hsingle, Display.lists_listElement, hitems, Node.lists,
        List.map_cons, formattedList, itemElements_eq_map]
    | quote children =>
      have hchildren : listsIn (withoutMarks (leaves ctx children)) =
          (nodeLists children).map (formattedList ctx) := listsIn_leaves ih
      rw [Node.format, Option.toList_some, hsingle, Display.lists_plain (by decide),
        listsIn_paragraphs, hchildren, Node.lists]
    | styled style children =>
      have hchildren : listsIn (withoutMarks (leaves ctx children)) =
          (nodeLists children).map (formattedList ctx) := listsIn_leaves ih
      have htag : style.displayTag ∉ ["ul", "ol"] := by cases style <;> decide
      rw [Node.format, Option.toList_some, hsingle, Display.lists_plain htag, hchildren,
        Node.lists]
    | link url label text =>
      rw [Node.format, Option.toList_some, hsingle, Display.lists_element (by decide), Node.lists]
      cases label with
      | none => rfl
      | some nodes => exact @listsIn_leaves ctx nodes ih
    | heading level text =>
      have hall : ∀ tag ∈ ["h1", "h2", "h3", "h4", "h5", "h6"], tag ∉ ["ul", "ol"] := by decide
      rw [Node.format, Option.toList_some, hsingle,
        Display.lists_plain (hall _ (headingTag_mem level))]
      rfl
    | str | preformatted | mention | text | code | rule | lineBreak | comment | reference
    | attachment | image | paragraphBreak | unknown => rfl

/-- A formatted text holds the lists of its nodes, each as it is formatted. -/
theorem listsIn_format (ctx : Context) (nodes : List Node) :
    listsIn (format ctx nodes) = (nodeLists nodes).map (formattedList ctx) := by
  rw [format, listsIn_paragraphs]
  exact listsIn_leaves fun n _ => listsIn_format_node ctx n

/-! ## Formatted text -/

/-- A formatted text is a sequence of paragraphs in which every element is as in formatted text,
and its lists are those of the markup in order, each with an item for every item there. -/
theorem shape_of_format (ctx : Context) (nodes : List Node) :
    (∀ d ∈ format ctx nodes, d.tag? = some "p" ∧ d.Formatted) ∧
    listsIn (format ctx nodes) = (nodeLists nodes).map (formattedList ctx) :=
  ⟨fun _ hd => formatted_of_mem_format hd, listsIn_format ctx nodes⟩

/-- A numbered list in emphasis, with a quote in one item and nothing in the other. -/
theorem shape_of_format_list_in_bold :
    ∃ d ∈ format .empty
        [.styled .bold [.list (some 3) [[.quote [.str "a"]], []], .paragraphBreak]],
      d = .plain "p" [.plain "strong" [.element "ol" [("start", "3")]
        [.plain "li" [.plain "p" [.plain "blockquote" [.plain "p" [.text "a"]]]],
          .plain "li" []]]] ∧
      d.tag? = some "p" ∧ d.Formatted :=
  have hmem : _ ∈ format .empty
      [.styled .bold [.list (some 3) [[.quote [.str "a"]], []], .paragraphBreak]] :=
    List.mem_singleton.2 rfl
  ⟨_, hmem, rfl, (shape_of_format .empty _).1 _ hmem⟩

end TicketMarkup
