import TicketMarkup.Proofs.Format.PlainText
import TicketMarkup.Proofs.Source.Unknown

/-!
# Records of formatting

Formatting leaves one record for every node of an unknown kind, in the order of the document, and
shows one placeholder for it (`placeholdersIn_leaves`). The paragraph breaks that a record counts
are those that stand directly in inline content; the others part paragraphs (`accounts_nodes`).

So the tags that loading tells of, those that formatting tells of and those that are shown are the
same, in the same order (`records_account`).
-/

namespace TicketMarkup

/-! ## Records -/

/-- The tag that a record tells of, if it tells of a node of an unknown kind. -/
def FormatRecord.tag? : FormatRecord → Option Json
  | unknownKind tag => some tag
  | droppedBreaks _ => none

/-- The number of paragraph breaks that a record tells of. -/
def FormatRecord.breaks : FormatRecord → Nat
  | unknownKind _ => 0
  | droppedBreaks count => count

/-- The number of paragraph breaks that records tell of. -/
def recordedBreaks : List FormatRecord → Nat
  | [] => 0
  | record :: rest => record.breaks + recordedBreaks rest

theorem recordedBreaks_append (a b : List FormatRecord) :
    recordedBreaks (a ++ b) = recordedBreaks a + recordedBreaks b := by
  induction a with
  | nil => exact (Nat.zero_add _).symm
  | cons record rest ih =>
    rw [List.cons_append, recordedBreaks, recordedBreaks, ih, Nat.add_assoc]

mutual

/-- The number of paragraph breaks that stand directly in inline content in a node. -/
def Node.inlineBreaks : Node → Nat
  | .list _ items => itemInlineBreaks items
  | .quote children => inlineBreaksIn children
  | .styled _ children => inlineBreaksIn children + children.countP Node.isBreak
  | .link _ label _ => labelInlineBreaks label
  | _ => 0

/-- The number of paragraph breaks that stand directly in inline content in nodes. -/
def inlineBreaksIn : List Node → Nat
  | [] => 0
  | node :: rest => node.inlineBreaks + inlineBreaksIn rest

/-- The number of paragraph breaks in the label of a link and in the inline content in it. -/
def labelInlineBreaks : Option (List Node) → Nat
  | none => 0
  | some nodes => inlineBreaksIn nodes + nodes.countP Node.isBreak

/-- The number of paragraph breaks that stand directly in inline content in the items of a list. -/
def itemInlineBreaks : List (List Node) → Nat
  | [] => 0
  | item :: rest => inlineBreaksIn item + itemInlineBreaks rest

end

/-- Whether records tell of some tags, in order, and of a number of paragraph breaks. -/
structure Accounts (records : List FormatRecord) (tags : List String) (breaks : Nat) : Prop where
  tags_eq : records.filterMap FormatRecord.tag? = tags.map Json.str
  breaks_eq : recordedBreaks records = breaks
  /-- No record tells of no breaks. -/
  breaks_pos : ∀ count, .droppedBreaks count ∈ records → 0 < count

namespace Accounts

variable {records records' : List FormatRecord} {tags tags' : List String} {breaks breaks' : Nat}

theorem nil : Accounts [] [] 0 := ⟨rfl, rfl, by simp⟩

/-- Accounts of two parts are added up. -/
theorem append (h : Accounts records tags breaks) (h' : Accounts records' tags' breaks') :
    Accounts (records ++ records') (tags ++ tags') (breaks + breaks') where
  tags_eq := by rw [List.filterMap_append, List.map_append, h.tags_eq, h'.tags_eq]
  breaks_eq := by rw [recordedBreaks_append, h.breaks_eq, h'.breaks_eq]
  breaks_pos := fun count hcount =>
    (List.mem_append.1 hcount).elim (h.breaks_pos count) (h'.breaks_pos count)

theorem unknownKind (tag : String) : Accounts [.unknownKind (.str tag)] [tag] 0 :=
  ⟨rfl, rfl, by simp⟩

/-- A dropped break leaves one record, and nothing else does. -/
theorem breakRecords (nodes : List Node) :
    Accounts (breakRecords nodes) [] (nodes.countP Node.isBreak) := by
  unfold TicketMarkup.breakRecords
  cases nodes.countP Node.isBreak with
  | zero => exact nil
  | succ n => exact ⟨rfl, rfl, by simp⟩

/-- Inline content tells of its own breaks after those of the nodes in it. -/
theorem inline {nodes : List Node} (h : Accounts records tags breaks) :
    Accounts (records ++ TicketMarkup.breakRecords nodes) tags
      (breaks + nodes.countP Node.isBreak) := by
  simpa using h.append (breakRecords nodes)

end Accounts

mutual

/-- The records of a node account for the unknown nodes and the dropped breaks in it. -/
theorem accounts_node : ∀ n : Node, Accounts n.records n.unknownTags n.inlineBreaks
  | .list _ items => accounts_items items
  | .quote children => accounts_nodes children
  | .styled _ children => (accounts_nodes children).inline
  | .link _ label _ => accounts_label label
  | .unknown tag _ => .unknownKind tag
  | .str _ | .heading _ _ | .preformatted _ _ | .code _ | .rule | .lineBreak | .comment _ _ _
  | .reference _ _ _ | .mention _ | .attachment _ _ _ | .image _ | .paragraphBreak | .text _ => .nil

/-- The records of nodes tell of the nodes of unknown kinds and of the breaks in inline content. -/
theorem accounts_nodes : ∀ nodes : List Node,
    Accounts (nodeRecords nodes) (unknownTags nodes) (inlineBreaksIn nodes)
  | [] => .nil
  | n :: rest => (accounts_node n).append (accounts_nodes rest)

theorem accounts_label : ∀ label : Option (List Node),
    Accounts (labelRecords label) (labelUnknownTags label) (labelInlineBreaks label)
  | none => .nil
  | some nodes => (accounts_nodes nodes).inline

theorem accounts_items : ∀ items : List (List Node),
    Accounts (itemRecords items) (itemUnknownTags items) (itemInlineBreaks items)
  | [] => .nil
  | item :: rest => (accounts_nodes item).append (accounts_items rest)

end

/-! ## Placeholders -/

/-- Whether an element with a tag and attributes stands for something of an unknown kind. -/
def Display.isPlaceholder (tag : String) (attrs : List (String × String)) : Bool :=
  tag = "span" && attribute? "class" attrs = some "unknown-node"

mutual

/-- The texts of the placeholders in a display node, in order. -/
def Display.placeholders : Display → List String
  | .element tag attrs children =>
    (if Display.isPlaceholder tag attrs then [Display.plainTexts children] else []) ++
      placeholdersIn children
  | _ => []

/-- The texts of the placeholders in display nodes, in order. -/
def placeholdersIn : List Display → List String
  | [] => []
  | node :: rest => node.placeholders ++ placeholdersIn rest

end

/-- What the placeholder of a node with a tag shows. -/
def placeholderText (tag : String) : String := "Unknown type " ++ tag

theorem placeholdersIn_append (a b : List Display) :
    placeholdersIn (a ++ b) = placeholdersIn a ++ placeholdersIn b := by
  induction a with
  | nil => rfl
  | cons node rest ih =>
    rw [List.cons_append, placeholdersIn, placeholdersIn, ih, List.append_assoc]

/-- An element that is no placeholder has those of what it holds. -/
theorem placeholders_element {tag : String} {attrs : List (String × String)}
    (h : Display.isPlaceholder tag attrs = false) (children : List Display) :
    (Display.element tag attrs children).placeholders = placeholdersIn children := by
  simp [Display.placeholders, h]

theorem placeholders_plain (tag : String) (children : List Display) :
    (Display.plain tag children).placeholders = placeholdersIn children :=
  placeholders_element (by simp [Display.isPlaceholder, Display.attribute?]) children

theorem placeholdersIn_singleton (d : Display) : placeholdersIn [d] = d.placeholders := by
  simp [placeholdersIn]

@[simp] theorem placeholders_text (s : String) : (Display.text s).placeholders = [] := by
  rw [Display.placeholders]
  simp

theorem placeholdersIn_map_plain (tag : String) (gs : List (List Display)) :
    placeholdersIn (gs.map (Display.plain tag)) = placeholdersIn gs.flatten := by
  induction gs with
  | nil => rfl
  | cons g rest ih =>
    rw [List.map_cons, List.flatten_cons, placeholdersIn, placeholders_plain, ih,
      placeholdersIn_append]

/-- Making paragraphs leaves the placeholders. -/
theorem placeholdersIn_paragraphs (leaves : List Leaf) :
    placeholdersIn (paragraphs leaves) = placeholdersIn (withoutMarks leaves) := by
  rw [paragraphs, placeholdersIn_map_plain, flatten_groups]

/-- Whether what a node is formatted to shows the tags of the nodes of unknown kinds in it. -/
def Node.ShowsTags (ctx : Context) (n : Node) : Prop :=
  placeholdersIn (n.format ctx).toList = n.unknownTags.map placeholderText

/-- Leaves show the tags of the unknown nodes in document order. -/
theorem placeholdersIn_leaves {ctx : Context} {nodes : List Node}
    (h : ∀ n ∈ nodes, n.ShowsTags ctx) :
    placeholdersIn (withoutMarks (leaves ctx nodes)) = (unknownTags nodes).map placeholderText := by
  induction nodes with
  | nil => rfl
  | cons n rest ih =>
    obtain ⟨hn, hrest⟩ := List.forall_mem_cons.1 h
    rw [leaves, withoutMarks_cons, placeholdersIn_append, hn, ih hrest, unknownTags,
      List.map_append]

theorem placeholdersIn_itemElements {ctx : Context} {items : List (List Node)}
    (h : ∀ n ∈ items.flatten, n.ShowsTags ctx) :
    placeholdersIn (itemElements ctx items) = (itemUnknownTags items).map placeholderText := by
  induction items with
  | nil => rfl
  | cons item rest ih =>
    rw [List.flatten_cons, List.forall_mem_append] at h
    rw [itemElements, placeholdersIn, placeholders_plain, placeholdersIn_paragraphs,
      placeholdersIn_leaves h.1, ih h.2, itemUnknownTags, List.map_append]

/-- What a node is formatted to shows the nodes of unknown kinds in it, each one once. -/
theorem Node.showsTags (ctx : Context) (n : Node) : n.ShowsTags ctx := by
  induction n using Node.induction_on_parts with
  | step n ih =>
    cases n with
    | list first items =>
      have hitems := placeholdersIn_itemElements ih
      cases first <;>
        simp [ShowsTags, format, listElement, placeholdersIn_singleton, placeholders_element,
          Display.isPlaceholder, hitems, unknownTags]
    | quote children =>
      have hchildren : placeholdersIn (withoutMarks (leaves ctx children)) =
          (TicketMarkup.unknownTags children).map placeholderText := placeholdersIn_leaves ih
      rw [ShowsTags, format, Option.toList_some, placeholdersIn_singleton, placeholders_plain,
        placeholdersIn_paragraphs, hchildren, unknownTags]
    | styled style children =>
      have hchildren : placeholdersIn (withoutMarks (leaves ctx children)) =
          (TicketMarkup.unknownTags children).map placeholderText := placeholdersIn_leaves ih
      rw [ShowsTags, format, Option.toList_some, placeholdersIn_singleton, placeholders_plain,
        hchildren, unknownTags]
    | link url label text =>
      rw [ShowsTags, format, Option.toList_some, placeholdersIn_singleton,
        placeholders_element rfl, unknownTags]
      cases label with
      | none => simp [labelNodes, placeholdersIn_singleton, labelUnknownTags]
      | some nodes => exact @placeholdersIn_leaves ctx nodes ih
    | unknown tag fields =>
      simp [ShowsTags, format, unknownElement, placeholdersIn_singleton, Display.placeholders,
        Display.isPlaceholder, Display.attribute?, plainTexts_singleton, Display.plainText,
        placeholderText, unknownTags]
    | heading | code | comment | reference | attachment | image | rule | lineBreak =>
      simp [ShowsTags, format, Display.plain, commentLink, referenceLink, attachmentLink,
        trackerLink, imageElement, placeholdersIn_singleton, placeholders_element,
        Display.isPlaceholder, Display.attribute?, placeholdersIn, unknownTags]
    | str | preformatted | mention | text | paragraphBreak => rfl

/-- Paragraphs and inline content show the nodes of unknown kinds. -/
theorem placeholdersIn_format (ctx : Context) (nodes : List Node) :
    placeholdersIn (format ctx nodes) = (unknownTags nodes).map placeholderText ∧
      placeholdersIn (formatInline ctx nodes) = (unknownTags nodes).map placeholderText := by
  have h := placeholdersIn_leaves fun n (_ : n ∈ nodes) => n.showsTags ctx
  refine ⟨?_, h⟩
  rw [format, placeholdersIn_paragraphs, h]

/-! ## Loading, formatting and showing -/

/-- Loading and formatting tell of the same nodes of unknown kinds, which are those of the document,
and the same are shown, in paragraphs as in inline content. The records of dropped paragraph breaks
count those that stand directly in inline content, and there are some in each of them. -/
theorem records_account {limit : Int} {data : Json} {nodes : List Node}
    (h : (load limit data).outcome = .ok nodes) (ctx : Context) :
    (load limit data).records.map LoadRecord.tag = unknownTags nodes ∧
    Accounts (nodeRecords nodes) (unknownTags nodes) (inlineBreaksIn nodes) ∧
    Accounts (inlineRecords nodes) (unknownTags nodes)
      (inlineBreaksIn nodes + nodes.countP Node.isBreak) ∧
    placeholdersIn (format ctx nodes) = (unknownTags nodes).map placeholderText ∧
    placeholdersIn (formatInline ctx nodes) = (unknownTags nodes).map placeholderText :=
  ⟨records_loadSequence limit 0 [] data nodes h, accounts_nodes nodes,
    (accounts_nodes nodes).inline, placeholdersIn_format ctx nodes⟩

/-- A bold text with a paragraph break and something unknown in it, which holds something of an
unknown kind in turn. -/
def boxInBold : Json :=
  .arr [.obj [("type", .str "bold"), ("children", .arr [.str "a", .obj [("type", .str "para")],
    .obj [("type", .str "box"), ("children", .arr [.obj [("type", .str "lid")]])]])]]

/-- What `boxInBold` is loaded as. -/
def boxInBoldNodes : List Node :=
  [.styled .bold [.str "a", .paragraphBreak,
    .unknown "box" [("children", .arr [.obj [("type", .str "lid")]])]]]

/-- Only the outer one of the two is told of and shown, and one break is dropped. -/
theorem records_account_box_in_bold :
    (load defaultDepthLimit boxInBold).outcome = .ok boxInBoldNodes ∧
    (load defaultDepthLimit boxInBold).records.map LoadRecord.tag = ["box"] ∧
    Accounts (nodeRecords boxInBoldNodes) ["box"] 1 ∧
    placeholdersIn (format .empty boxInBoldNodes) = ["Unknown type box"] := by
  have hload : (load defaultDepthLimit boxInBold).outcome = .ok boxInBoldNodes := rfl
  obtain ⟨htags, hrecords, -, hshown, -⟩ := records_account hload .empty
  exact ⟨hload, htags, hrecords, hshown⟩

end TicketMarkup
