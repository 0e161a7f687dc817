import TicketMarkup.Proofs.Draft.WellTyped
import TicketMarkup.Proofs.Markdown.CodeBlocks

/-!
# Code blocks of drafts

Where drafts are formatted to display nodes, a preformatted draft within quotes and items is a code
block within them (`Draft.holdsCode_of_codeAt`), whatever else the drafts are.
-/

namespace TicketMarkup

open DraftDisplay (ofDisplay ofDisplays)
open Markdown (Container HoldsCode)

/-! ## Display nodes among those of any values -/

/-- Only a code block is the draft of one. -/
theorem eq_codeBlock_of_ofDisplay {d : Display} {code : String} {language : Option String}
    (h : ofDisplay d = .codeBlock (.str code) ((language.map Json.str).getD .null)) :
    d = .codeBlock code language := by
  cases d with
  | codeBlock code' language' =>
    rw [ofDisplay] at h
    cases language <;> cases language' <;> simp_all
  | _ => simp [ofDisplay, DraftDisplay.text] at h

/-- Only an element is the draft of one. -/
theorem exists_element_of_ofDisplay {d : Display} {tag : String} {attrs : Fields}
    {children : List DraftDisplay} (h : ofDisplay d = .element tag attrs children) :
    ∃ attrs' children', d = .element tag attrs' children' ∧
      Draft.draftAttrs attrs' = attrs ∧ children'.map ofDisplay = children := by
  cases d with
  | element tag' attrs' children' =>
    rw [ofDisplay, Draft.ofDisplays_eq_map] at h
    cases h
    exact ⟨attrs', children', rfl, rfl, rfl⟩
  | _ => simp [ofDisplay, DraftDisplay.text] at h

theorem exists_plain_of_ofDisplay {d : Display} {tag : String} {children : List DraftDisplay}
    (h : ofDisplay d = .plain tag children) :
    ∃ children', d = .plain tag children' ∧ children'.map ofDisplay = children := by
  obtain ⟨attrs, children', rfl, hattrs, hchildren⟩ := exists_element_of_ofDisplay h
  obtain rfl : attrs = [] := by simpa [Draft.draftAttrs] using hattrs
  exact ⟨children', rfl, hchildren⟩

/-- A list of any values, numbered from the value of an attribute if there is one. -/
def DraftDisplay.listElement (first : Option String) (items : List DraftDisplay) : DraftDisplay :=
  match first with
  | none => .plain "ul" items
  | some first => .element "ol" [("start", .str first)] items

theorem exists_listElement_of_ofDisplay {d : Display} {first : Option String}
    {items : List DraftDisplay} (h : ofDisplay d = .listElement first items) :
    ∃ items', d = TicketMarkup.listElement first items' ∧ items'.map ofDisplay = items := by
  cases first with
  | none => exact exists_plain_of_ofDisplay h
  | some first =>
    obtain ⟨attrs, items', rfl, hattrs, hitems⟩ := exists_element_of_ofDisplay h
    obtain rfl : attrs = [("start", first)] := by
      simpa [Draft.draftAttrs, List.map_eq_cons_iff, Prod.ext_iff] using hattrs
    exact ⟨items', rfl, hitems⟩

namespace Draft

variable {ctx : Context}

/-! ## Sequences -/

/-- Each of the contents is formatted to the part at its index. -/
theorem exists_of_blockContents {contents : List DraftSequence} {parts : List (List DraftDisplay)}
    (h : (blockContents ctx contents).outcome = .ok parts) {index : Nat} {c : DraftSequence}
    (hc : contents[index]? = some c) :
    ∃ part, parts[index]? = some part ∧ (blockContent ctx c).outcome = .ok part := by
  induction contents generalizing index parts with
  | nil => cases hc
  | cons first rest ih =>
    simp only [blockContents, Traced.outcome_bind_eq_ok_iff, Traced.outcome_pure,
      Except.ok.injEq] at h
    obtain ⟨part, hpart, more, hmore, rfl⟩ := h
    cases index with
    | zero =>
      obtain rfl : first = c := by simpa using hc
      exact ⟨part, rfl, hpart⟩
    | succ index => exact ih hmore (by simpa using hc)

/-- A part of what display nodes are, put together, is some of the display nodes. -/
theorem exists_subset_of_mem_flatten {ds : List Display} {parts : List (List DraftDisplay)}
    {part : List DraftDisplay} (h : ds.map ofDisplay = parts.flatten) (hpart : part ∈ parts) :
    ∃ inner, inner ⊆ ds ∧ inner.map ofDisplay = part := by
  obtain ⟨before, after, rfl⟩ := List.append_of_mem hpart
  rw [List.flatten_append, List.flatten_cons, List.map_eq_append_iff] at h
  obtain ⟨front, rest, rfl, -, hrest⟩ := h
  obtain ⟨inner, back, rfl, hinner, -⟩ := List.map_eq_append_iff.1 hrest
  exact ⟨inner, fun d hd => List.mem_append_right _ (List.mem_append_left _ hd), hinner⟩

/-- A draft among others is formatted, and is found again in a paragraph of the display nodes. -/
theorem exists_group_of_mem {members : List Draft} {ds : List Display} {m : Draft}
    (h : (blockContent ctx (.nodes members)).outcome = .ok (ofDisplays ds)) (hm : m ∈ members) :
    ∃ leaf, (m.format ctx).outcome = .ok leaf ∧ ∀ e, leaf = some e →
      ∃ group d, .plain "p" group ∈ ds ∧ d ∈ group ∧ ofDisplay d = e := by
  rw [outcome_blockContent_nodes] at h
  cases hleaves : (leaves ctx members).outcome with
  | error fault =>
    rw [hleaves] at h
    cases h
  | ok found =>
    rw [hleaves] at h
    have hparagraphs : paragraphs found = ds.map ofDisplay :=
      (Except.ok.inj h).trans (ofDisplays_eq_map ds)
    obtain ⟨hformat, hfound⟩ := leaves_eq_ok_iff.1 hleaves
    refine ⟨m.leaf ctx, hformat m hm, fun e he => ?_⟩
    have hmem : some e ∈ found := by
      rw [← hfound, ← he]
      exact List.mem_map_of_mem hm
    obtain ⟨group, hgroup, heGroup⟩ := TicketMarkup.exists_group_of_mem hmem
    have hplain : .plain "p" group ∈ ds.map ofDisplay := by
      rw [← hparagraphs]
      exact List.mem_map_of_mem hgroup
    obtain ⟨p, hp, hofDisplay⟩ := List.mem_map.1 hplain
    obtain ⟨group', rfl, rfl⟩ := exists_plain_of_ofDisplay hofDisplay
    obtain ⟨d, hd, hde⟩ := List.mem_map.1 heGroup
    exact ⟨group', d, hp, hd, hde⟩

/-! ## Preformatted drafts -/

/-- Whether a preformatted draft with a text and a language is among drafts, within some quotes and
items, the outermost first: it is one of them, or among the children of a quote, or in an item of a
list, that is one of them. -/
inductive CodeAt (code : String) (language : Option String) :
    List Container → List Draft → Prop where
  | here {members : List Draft} {fields : Fields} {content : List DraftSequence}
    (hmember : .node .preformatted fields content ∈ members) (htext : text fields = .str code)
    (hlanguage : field "language" .null fields = (language.map Json.str).getD .null) :
    CodeAt code language [] members
  | quote {members children : List Draft} {fields : Fields} {content : List DraftSequence}
    {path : List Container} (hmember : .node .quote fields content ∈ members)
    (hchildren : .nodes children ∈ content) (h : CodeAt code language path children) :
    CodeAt code language (.quote :: path) members
  | bullet {members item : List Draft} {fields : Fields} {content : List DraftSequence}
    {path : List Container} {index : Nat} (hmember : .node .bulletList fields content ∈ members)
    (hitem : content[index]? = some (.nodes item)) (h : CodeAt code language path item) :
    CodeAt code language (.item none :: path) members
  | number {members item : List Draft} {fields : Fields} {content : List DraftSequence}
    {path : List Container} {index : Nat} {first : Int}
    (hmember : .node .numberedList fields content ∈ members)
    (hfirst : field "number" (.int 1) fields = .int first)
    (hitem : content[index]? = some (.nodes item)) (h : CodeAt code language path item) :
    CodeAt code language (.item (some (first + index)) :: path) members

/-- A bulleted list is formatted to an item for each of its contents. -/
theorem exists_listElement_of_bulletList {fields : Fields} {content : List DraftSequence}
    {leaf : DraftLeaf}
    (h : ((Draft.node .bulletList fields content).format ctx).outcome = .ok leaf) :
    ∃ parts, (blockContents ctx content).outcome = .ok parts ∧
      leaf = some (.listElement none (parts.map (.plain "li"))) := by
  simp only [format, Traced.outcome_bind_eq_ok_iff, Traced.outcome_pure, Except.ok.injEq] at h
  obtain ⟨parts, hparts, rfl⟩ := h
  exact ⟨parts, hparts, rfl⟩

/-- A numbered list is formatted to an item for each of its contents, from its first number on. -/
theorem exists_listElement_of_numberedList {fields : Fields} {content : List DraftSequence}
    {leaf : DraftLeaf} {first : Int} (hfirst : field "number" (.int 1) fields = .int first)
    (h : ((Draft.node .numberedList fields content).format ctx).outcome = .ok leaf) :
    ∃ parts, (blockContents ctx content).outcome = .ok parts ∧
      leaf = some (.listElement (some (Numeral.text first)) (parts.map (.plain "li"))) := by
  simp only [format, hfirst, Traced.outcome_bind_eq_ok_iff, Traced.outcome_pure,
    Except.ok.injEq] at h
  obtain ⟨parts, hparts, rfl⟩ := h
  exact ⟨parts, hparts, rfl⟩

/-- A list among drafts whose item is formatted to display nodes with a code block. -/
theorem holdsCode_of_item (first : Option Int) {code : String} {language : Option String}
    {path : List Container} {members item : List Draft} {m : Draft} {content : List DraftSequence}
    {ds : List Display} {index : Nat}
    (hds : (blockContent ctx (.nodes members)).outcome = .ok (ofDisplays ds)) (hm : m ∈ members)
    (hformat : ∀ leaf, (m.format ctx).outcome = .ok leaf →
      ∃ parts, (blockContents ctx content).outcome = .ok parts ∧
        leaf = some (.listElement (first.map Numeral.text) (parts.map (.plain "li"))))
    (hitem : content[index]? = some (.nodes item))
    (ih : ∀ inner : List Display,
      (blockContent ctx (.nodes item)).outcome = .ok (ofDisplays inner) →
        HoldsCode code language path inner) :
    HoldsCode code language (.item (first.map (· + (index : Int))) :: path) ds := by
  obtain ⟨leaf, hleaf, hfound⟩ := exists_group_of_mem hds hm
  obtain ⟨parts, hparts, rfl⟩ := hformat leaf hleaf
  obtain ⟨group, d, hgroup, hd, hofDisplay⟩ := hfound _ rfl
  obtain ⟨items, rfl, hitems⟩ := exists_listElement_of_ofDisplay hofDisplay
  obtain ⟨part, hpart, hblock⟩ := exists_of_blockContents hparts hitem
  have hlookup : (items.map ofDisplay)[index]? = some (.plain "li" part) := by
    rw [hitems, List.getElem?_map, hpart]
    rfl
  -- The items of the list are elements again, one for each of the contents.
  rw [List.getElem?_map, Option.map_eq_some_iff] at hlookup
  obtain ⟨li, hli, hplain⟩ := hlookup
  obtain ⟨inner, rfl, rfl⟩ := exists_plain_of_ofDisplay hplain
  rw [← ofDisplays_eq_map] at hblock
  exact .item hgroup hd hli (ih inner hblock)

/-- Among the display nodes that drafts are formatted to, a preformatted draft is a code block. -/
theorem holdsCode_of_codeAt {code : String} {language : Option String} {path : List Container}
    {members : List Draft} (h : CodeAt code language path members) {ds : List Display}
    (hds : (blockContent ctx (.nodes members)).outcome = .ok (ofDisplays ds)) :
    HoldsCode code language path ds := by
  induction h generalizing ds with
  | here hmember htext hlanguage =>
    obtain ⟨leaf, hleaf, hfound⟩ := exists_group_of_mem hds hmember
    rw [format, htext, hlanguage] at hleaf
    obtain ⟨group, d, hgroup, hd, hofDisplay⟩ := hfound _ (Except.ok.inj hleaf).symm
    obtain rfl := eq_codeBlock_of_ofDisplay hofDisplay
    exact .here hgroup hd
  | quote hmember hchildren _ ih =>
    obtain ⟨leaf, hleaf, hfound⟩ := exists_group_of_mem hds hmember
    simp only [format, Traced.outcome_bind_eq_ok_iff, Traced.outcome_pure, Except.ok.injEq]
      at hleaf
    obtain ⟨parts, hparts, rfl⟩ := hleaf
    obtain ⟨group, d, hgroup, hd, hofDisplay⟩ := hfound _ rfl
    obtain ⟨children, rfl, hmap⟩ := exists_plain_of_ofDisplay hofDisplay
    obtain ⟨index, hindex⟩ := List.mem_iff_getElem?.1 hchildren
    obtain ⟨part, hpart, hblock⟩ := exists_of_blockContents hparts hindex
    obtain ⟨inner, hsubset, rfl⟩ :=
      exists_subset_of_mem_flatten hmap (List.mem_of_getElem? hpart)
    rw [← ofDisplays_eq_map] at hblock
    exact .quote hgroup hd ((ih hblock).mono hsubset)
  | bullet hmember hitem _ ih =>
    exact holdsCode_of_item none hds hmember (fun leaf => exists_listElement_of_bulletList) hitem
      fun inner => ih
  | @number _ _ _ _ _ _ first hmember hfirst hitem _ ih =>
    exact holdsCode_of_item (some first) hds hmember
      (fun leaf => exists_listElement_of_numberedList hfirst) hitem fun inner => ih

end Draft

end TicketMarkup
