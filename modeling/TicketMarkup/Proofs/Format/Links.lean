import TicketMarkup.Draft.Display
import TicketMarkup.Proofs.Draft.WellTyped
import TicketMarkup.Proofs.Source.Parts

/-!
# The address of the tracker shows in references only

A template is a display tree in which every link has a target: an address of its own, or a place in
the tracker (`LinkTarget`). Filling a template in with an address puts that address, a slash and the
place into the links to the tracker, and nothing else depends on it (`Template.fill`).

What a node is formatted to is filled in from one template for all addresses. Its targets are those
of the node: the url of a link, and the place of a comment, a ticket, a commit or an attachment,
which depends on the ticket of the context (`Node.exists_template`).
-/

namespace TicketMarkup

open DraftDisplay (ofDisplay ofDisplays)

/-- Where a link leads. -/
inductive LinkTarget where
  /-- An address of its own. -/
  | url (v : Json)
  /-- A place in the tracker. -/
  | place (path : String)

/-- The address of a target, if the tracker has the given one. -/
def LinkTarget.href (base : Json) : LinkTarget → Json
  | url v => v
  | place path => .str (base.text ++ "/" ++ path)

/-- A display tree of any values with targets in place of the addresses of links. -/
inductive Template where
  | value (v : Json)
  | codeBlock (code language : Json)
  | userLink (user : Json)
  /-- An element that is no link. -/
  | element (tag : String) (not_link : tag ≠ "a") (attrs : Fields) (children : List Template)
  | link (target : LinkTarget) (children : List Template)

namespace Template

mutual

/-- The display of a template for an address of the tracker. -/
def fill (base : Json) : Template → DraftDisplay
  | value v => .value v
  | codeBlock code language => .codeBlock code language
  | userLink user => .userLink user
  | element tag _ attrs children => .element tag attrs (fillAll base children)
  | link target children => .element "a" [("href", target.href base)] (fillAll base children)

/-- The displays of templates for an address of the tracker. -/
def fillAll (base : Json) : List Template → List DraftDisplay
  | [] => []
  | t :: rest => t.fill base :: fillAll base rest

end

mutual

/-- The targets of the links of a template, in order. -/
def targets : Template → List LinkTarget
  | element _ _ _ children => targetsIn children
  | link target children => target :: targetsIn children
  | _ => []

/-- The targets of the links of templates, in order. -/
def targetsIn : List Template → List LinkTarget
  | [] => []
  | t :: rest => t.targets ++ targetsIn rest

end

theorem fillAll_eq_map (base : Json) (ts : List Template) :
    fillAll base ts = ts.map (fill base) := by
  induction ts with
  | nil => rfl
  | cons t rest ih => rw [fillAll, ih, List.map_cons]

/-- The targets of two sequences come one after the other. -/
theorem targetsIn_append (a b : List Template) :
    targetsIn (a ++ b) = targetsIn a ++ targetsIn b := by
  induction a with
  | nil => rfl
  | cons t rest ih => rw [List.cons_append, targetsIn, targetsIn, ih, List.append_assoc]

@[simp] theorem targetsIn_singleton (t : Template) : targetsIn [t] = t.targets := by
  simp [targetsIn]

@[simp] theorem targets_element {tag : String} (not_link : tag ≠ "a") (attrs : Fields)
    (children : List Template) :
    (element tag not_link attrs children).targets = targetsIn children := by
  rw [targets]

@[simp] theorem targets_link (target : LinkTarget) (children : List Template) :
    (link target children).targets = target :: targetsIn children := by
  rw [targets]

/-! ## Paragraphs -/

/-- The paragraphs of templates with breaks. -/
def paragraphs (leaves : List (Option Template)) : List Template :=
  (groups leaves).map (element "p" (by decide) [])

theorem targetsIn_map_element {tag : String} (not_link : tag ≠ "a") (attrs : Fields)
    (gs : List (List Template)) :
    targetsIn (gs.map (element tag not_link attrs)) = targetsIn gs.flatten := by
  induction gs with
  | nil => rfl
  | cons g rest ih =>
    rw [List.map_cons, targetsIn, ih, targets_element, List.flatten_cons, targetsIn_append]

/-- Making paragraphs leaves the targets. -/
theorem targetsIn_paragraphs (leaves : List (Option Template)) :
    targetsIn (paragraphs leaves) = targetsIn (withoutMarks leaves) := by
  rw [paragraphs, targetsIn_map_element, flatten_groups]

theorem map_fill_element (base : Json) {tag : String} (not_link : tag ≠ "a")
    (gs : List (List Template)) :
    (gs.map (element tag not_link [])).map (fill base) =
      (gs.map (List.map (fill base))).map (.plain tag) := by
  rw [List.map_map, List.map_map]
  exact List.map_congr_left fun g _ => by
    rw [Function.comp_apply, fill, fillAll_eq_map]
    rfl

/-- Paragraphs may be made before or after an address is filled in. -/
theorem fill_paragraphs (base : Json) (leaves : List (Option Template)) :
    (paragraphs leaves).map (fill base) =
      Draft.paragraphs (leaves.map (Option.map (fill base))) := by
  rw [Draft.paragraphs, groups_map, paragraphs, map_fill_element]

end Template

/-! ## Targets of nodes -/

/-- The place of an attachment in the tracker. -/
def attachmentPlace (ticket own id : Json) : LinkTarget :=
  .place (attachmentPath ⟨ticket, .null⟩ own id)

mutual

/-- The targets of the links that a node makes, in order. -/
def Node.targets (ticket : Json) : Node → List LinkTarget
  | .list _ items => itemTargets ticket items
  | .quote children => nodeTargets ticket children
  | .styled _ children => nodeTargets ticket children
  | .link url label _ => .url (.str url) :: labelTargets ticket label
  | .comment own comment _ => [.place (commentPath own comment)]
  | .reference target id _ => [.place (target.path id)]
  | .attachment id _ own => [attachmentPlace ticket own id]
  | _ => []

/-- The targets of the links that nodes make, in order. -/
def nodeTargets (ticket : Json) : List Node → List LinkTarget
  | [] => []
  | node :: rest => node.targets ticket ++ nodeTargets ticket rest

/-- The targets of the links in the label of a link. -/
def labelTargets (ticket : Json) : Option (List Node) → List LinkTarget
  | none => []
  | some nodes => nodeTargets ticket nodes

/-- The targets of the links in the items of a list. -/
def itemTargets (ticket : Json) : List (List Node) → List LinkTarget
  | [] => []
  | item :: rest => nodeTargets ticket item ++ itemTargets ticket rest

end

open Template (fill targetsIn)

/-- Whether a node is filled in, for every address, from a template with the targets of the node. -/
def Node.HasTemplate (ticket : Json) (n : Node) : Prop :=
  ∃ t : Option Template, targetsIn t.toList = n.targets ticket ∧
    ∀ base, (n.format ⟨ticket, base⟩).map ofDisplay = t.map (fill base)

/-- Leaves of nodes that have templates have templates. -/
theorem exists_templates {ticket : Json} {nodes : List Node}
    (h : ∀ n ∈ nodes, n.HasTemplate ticket) :
    ∃ ts : List (Option Template), targetsIn (withoutMarks ts) = nodeTargets ticket nodes ∧
      ∀ base, (leaves ⟨ticket, base⟩ nodes).map (Option.map ofDisplay) =
        ts.map (Option.map (fill base)) := by
  induction nodes with
  | nil => exact ⟨[], rfl, fun _ => rfl⟩
  | cons n rest ih =>
    obtain ⟨⟨t, ht, hn⟩, hrest⟩ := List.forall_mem_cons.1 h
    obtain ⟨ts, hts, hleaves⟩ := ih hrest
    refine ⟨t :: ts, ?_, fun base => ?_⟩
    · rw [withoutMarks_cons, Template.targetsIn_append, ht, hts, nodeTargets]
    · rw [leaves, List.map_cons, List.map_cons, hn, hleaves]

section Sequences

variable {ticket : Json} {nodes : List Node} (h : ∀ n ∈ nodes, n.HasTemplate ticket)

include h

/-- Paragraphs are filled in from the paragraphs of a template. -/
theorem exists_template_format :
    ∃ ts, targetsIn ts = nodeTargets ticket nodes ∧
      ∀ base, (format ⟨ticket, base⟩ nodes).map ofDisplay = ts.map (fill base) := by
  obtain ⟨ts, hts, hleaves⟩ := exists_templates h
  refine ⟨Template.paragraphs ts, (Template.targetsIn_paragraphs ts).trans hts, fun base => ?_⟩
  rw [Template.fill_paragraphs, ← hleaves, Draft.paragraphs_map_ofDisplay]
  rfl

/-- Inline content is filled in from the inline content of a template. -/
theorem exists_template_formatInline :
    ∃ ts, targetsIn ts = nodeTargets ticket nodes ∧
      ∀ base, (formatInline ⟨ticket, base⟩ nodes).map ofDisplay = ts.map (fill base) := by
  obtain ⟨ts, hts, hleaves⟩ := exists_templates h
  refine ⟨withoutMarks ts, hts, fun base => ?_⟩
  rw [formatInline, ← withoutMarks_map, hleaves, withoutMarks_map]

end Sequences

theorem exists_template_items {ticket : Json} {items : List (List Node)}
    (h : ∀ item ∈ items, ∀ n ∈ item, n.HasTemplate ticket) :
    ∃ ts, targetsIn ts = itemTargets ticket items ∧
      ∀ base, (itemElements ⟨ticket, base⟩ items).map ofDisplay = ts.map (fill base) := by
  induction items with
  | nil => exact ⟨[], rfl, fun _ => rfl⟩
  | cons item rest ih =>
    obtain ⟨hitem, hrest⟩ := List.forall_mem_cons.1 h
    obtain ⟨body, hbody, hformat⟩ := exists_template_format hitem
    obtain ⟨more, hmore, hitems⟩ := ih hrest
    refine ⟨.element "li" (by decide) [] body :: more, ?_, fun base => ?_⟩
    · rw [targetsIn, Template.targets_element, hbody, hmore, itemTargets]
    · rw [itemElements, List.map_cons, List.map_cons, hitems, Draft.ofDisplay_plain]
      congr 1
      rw [fill, Template.fillAll_eq_map, ← hformat]
      rfl

theorem headingTag_ne_link (level : Int) : headingTag level ≠ "a" := by
  have hall : ∀ tag ∈ ["h1", "h2", "h3", "h4", "h5", "h6"], tag ≠ "a" := by decide
  exact hall _ (headingTag_mem level)

theorem displayTag_ne_link (style : Style) : style.displayTag ≠ "a" := by
  cases style <;> decide

namespace Node

section Kinds

variable {ticket : Json} {n : Node}

/-- A node that is formatted alike for all addresses. -/
theorem hasTemplate_of_const (t : Template) (ht : t.targets = n.targets ticket)
    (h : ∀ base, (n.format ⟨ticket, base⟩).map ofDisplay = some (t.fill base)) :
    n.HasTemplate ticket :=
  ⟨some t, by rw [Option.toList_some, Template.targetsIn_singleton, ht], h⟩

/-- A node that is formatted to a link. -/
theorem hasTemplate_of_link (target : LinkTarget) (ts : List Template)
    (ht : target :: targetsIn ts = n.targets ticket)
    (h : ∀ base, (n.format ⟨ticket, base⟩).map ofDisplay =
      some (.element "a" [("href", target.href base)] (ts.map (fill base)))) :
    n.HasTemplate ticket := by
  refine hasTemplate_of_const (.link target ts) (by rw [Template.targets_link, ht]) fun base => ?_
  rw [h, fill, Template.fillAll_eq_map]

/-- A node that is formatted to an element, no link, of children that are filled in. -/
theorem hasTemplate_of_children {tag : String} (not_link : tag ≠ "a")
    (attrs : List (String × String)) {children : Json → List Display} (ts : List Template)
    (ht : targetsIn ts = n.targets ticket)
    (hchildren : ∀ base, (children base).map ofDisplay = ts.map (fill base))
    (h : ∀ base, n.format ⟨ticket, base⟩ = some (.element tag attrs (children base))) :
    n.HasTemplate ticket := by
  refine hasTemplate_of_const (.element tag not_link (Draft.draftAttrs attrs) ts)
    (by rw [Template.targets_element, ht]) fun base => ?_
  rw [h, Option.map_some, ofDisplay, Draft.ofDisplays_eq_map, hchildren, fill,
    Template.fillAll_eq_map]
  rfl

end Kinds

/-- Every node is filled in from one template for all addresses. -/
theorem hasTemplate (ticket : Json) (n : Node) : n.HasTemplate ticket := by
  induction n using induction_on_parts with
  | step n ih =>
    cases n with
    | str s => exact hasTemplate_of_const (.value (.str s)) rfl fun _ => rfl
    | text s => exact hasTemplate_of_const (.value (.str s)) rfl fun _ => rfl
    | heading level text =>
      exact hasTemplate_of_children (headingTag_ne_link level) [] [.value (.str text)] rfl
        (fun _ => rfl) fun _ => rfl
    | list first items =>
      obtain ⟨ts, hts, hitems⟩ := exists_template_items fun item hitem m hm =>
        ih m (List.mem_flatten.2 ⟨item, hitem, hm⟩)
      cases first with
      | none => exact hasTemplate_of_children (by decide) [] ts hts hitems fun _ => rfl
      | some first =>
        exact hasTemplate_of_children (by decide) [("start", _)] ts hts hitems fun _ => rfl
    | quote children =>
      obtain ⟨ts, hts, hformat⟩ := exists_template_format ih
      exact hasTemplate_of_children (by decide) [] ts hts hformat fun _ => rfl
    | preformatted text language =>
      exact hasTemplate_of_const (.codeBlock (.str text) ((language.map Json.str).getD .null)) rfl
        fun _ => rfl
    | styled style children =>
      obtain ⟨ts, hts, hformat⟩ := exists_template_formatInline ih
      exact hasTemplate_of_children (displayTag_ne_link style) [] ts hts hformat fun _ => rfl
    | code text =>
      exact hasTemplate_of_children (by decide) [] [.value (.str text)] rfl
        (fun _ => rfl) fun _ => rfl
    | rule => exact hasTemplate_of_children (by decide) [] [] rfl (fun _ => rfl) fun _ => rfl
    | lineBreak =>
      exact hasTemplate_of_children (by decide) [] [] rfl (fun _ => rfl) fun _ => rfl
    | link url label text =>
      cases label with
      | none =>
        exact hasTemplate_of_link (.url (.str url)) [.value (.str text)] rfl fun _ => rfl
      | some nodes =>
        obtain ⟨ts, hts, hformat⟩ := exists_template_formatInline ih
        refine hasTemplate_of_link (.url (.str url)) ts ?_ fun base => ?_
        · rw [hts]
          rfl
        · rw [← hformat, ← Draft.ofDisplays_eq_map]
          rfl
    | comment own comment text =>
      exact hasTemplate_of_link (.place _) [.value (.str text)] rfl fun _ => rfl
    | reference target id text =>
      exact hasTemplate_of_link (.place _) [.value (.str text)] rfl fun _ => rfl
    | mention user => exact hasTemplate_of_const (.userLink (.str user)) rfl fun _ => rfl
    | attachment id text own =>
      exact hasTemplate_of_link (attachmentPlace ticket own id) [.value (.str text)] rfl
        fun _ => rfl
    | image url =>
      exact hasTemplate_of_children (by decide) [("alt", ""), ("src", url)] [] rfl
        (fun _ => rfl) fun _ => rfl
    | paragraphBreak => exact ⟨none, rfl, fun _ => rfl⟩
    | unknown tag fields =>
      exact hasTemplate_of_children (by decide) [("class", "unknown-node")]
        [.value (.str ("Unknown type " ++ tag))] rfl (fun _ => rfl) fun _ => rfl

end Node

end TicketMarkup
