import TicketMarkup.Format.Basic
import TicketMarkup.Proofs.Markdown.Containers
import TicketMarkup.Proofs.Markdown.Steps
import TicketMarkup.Proofs.Number.Bound

/-!
# Code blocks in plain text

A code block in a paragraph is a block of its own in plain text, and so are the quotes and the lists
there. So the lines of a code block stand in the text within the quotes and the items that the code
block is in, unchanged but for their marks (`stands_of_holdsCode`).
-/

namespace TicketMarkup.Markdown

open Text

/-- Whether a code block is among paragraphs, within some quotes and items, the outermost first: it
is in one of the paragraphs, or among those of a quote, or of an item of a list, in one of them. -/
inductive HoldsCode (code : String) (language : Option String) :
    List Container → List Display → Prop where
  | here {ds group : List Display} (hgroup : .plain "p" group ∈ ds)
    (hcode : .codeBlock code language ∈ group) : HoldsCode code language [] ds
  | quote {ds group children : List Display} {path : List Container}
    (hgroup : .plain "p" group ∈ ds) (hquote : .plain "blockquote" children ∈ group)
    (h : HoldsCode code language path children) : HoldsCode code language (.quote :: path) ds
  | item {ds group items content : List Display} {path : List Container} {first : Option Int}
    {index : Nat} (hgroup : .plain "p" group ∈ ds)
    (hlist : listElement (first.map Numeral.text) items ∈ group)
    (hitem : items[index]? = some (.plain "li" content))
    (h : HoldsCode code language path content) :
    HoldsCode code language (.item (first.map (· + (index : Int))) :: path) ds

/-- More nodes around a code block do not hide it. -/
theorem HoldsCode.mono {code : String} {language : Option String} {path : List Container}
    {ds ds' : List Display} (h : HoldsCode code language path ds) (hsubset : ds ⊆ ds') :
    HoldsCode code language path ds' := by
  cases h with
  | here hgroup hcode => exact .here (hsubset hgroup) hcode
  | quote hgroup hquote h => exact .quote (hsubset hgroup) hquote h
  | item hgroup hlist hitem h => exact .item (hsubset hgroup) hlist hitem h

/-! ## Blocks -/

theorem fence_ne_nil (code : String) (language : Option String) : fence code language ≠ [] := by
  simp [fence]

/-- The lines of a block stand together in the joined blocks. -/
theorem lines_infix_joinBlocks {s : List Char} {parts : List (List Char)} (h : s ∈ parts)
    (hs : s ≠ []) : lines s <:+: lines (joinBlocks parts) := by
  have hmem : s ∈ parts.filter (· ≠ []) := List.mem_filter.2 ⟨h, by simpa using hs⟩
  exact lines_infix_join 1 hmem

/-- Each node among blocks is one of the parts. -/
theorem exists_asBlock_of_blocks {d : Display} {ds : List Display} {parts : List (List Char)}
    (hd : d ∈ ds) (h : blocks ds = .ok parts) : ∃ a, inline d = .ok a ∧ asBlock d a ∈ parts := by
  induction ds generalizing parts with
  | nil => cases hd
  | cons e rest ih =>
    obtain ⟨a, ha, more, hmore, rfl⟩ := blocks_cons_eq_ok_iff.1 h
    rcases List.mem_cons.1 hd with rfl | hd
    · exact ⟨a, ha, List.mem_cons_self⟩
    · obtain ⟨b, hb, hmem⟩ := ih hd hmore
      exact ⟨b, hb, List.mem_cons_of_mem _ hmem⟩

/-- Each block in a paragraph is a part of its own. -/
theorem exists_asBlock_of_paragraphParts {d : Display} {ds : List Display} {pending : List Char}
    {parts : List (List Char)} (hd : d ∈ ds) (hblock : isBlock d = true)
    (h : paragraphParts pending ds = .ok parts) : ∃ a, inline d = .ok a ∧ asBlock d a ∈ parts := by
  induction ds generalizing pending parts with
  | nil => cases hd
  | cons e rest ih =>
    cases he : isBlock e with
    | true =>
      obtain ⟨a, ha, more, hmore, rfl⟩ := (paragraphParts_cons_of_block he).1 h
      rcases List.mem_cons.1 hd with rfl | hd
      · exact ⟨a, ha, List.mem_cons_of_mem _ List.mem_cons_self⟩
      · obtain ⟨b, hb, hmem⟩ := ih hd hmore
        exact ⟨b, hb, List.mem_cons_of_mem _ (List.mem_cons_of_mem _ hmem)⟩
    | false =>
      obtain ⟨a, ha, hrest⟩ := (paragraphParts_cons_of_not_block he).1 h
      rcases List.mem_cons.1 hd with rfl | hd
      · rw [hblock] at he
        cases he
      · exact ih hd hrest

/-- A block in a paragraph keeps its lines. -/
theorem lines_infix_of_mem_paragraph {d : Display} {ds group : List Display}
    {parts : List (List Char)} (hgroup : .plain "p" group ∈ ds) (hd : d ∈ group)
    (hblock : isBlock d = true) (h : blocks ds = .ok parts) :
    ∃ a, inline d = .ok a ∧
      (asBlock d a ≠ [] → lines (asBlock d a) <:+: lines (joinBlocks parts)) := by
  obtain ⟨s, hs, hmem⟩ := exists_asBlock_of_blocks hgroup h
  obtain ⟨inner, hinner, rfl⟩ : ∃ inner, paragraphParts [] group = .ok inner ∧
      joinBlocks inner = s := by
    simpa only [Display.plain, inline, TagRole.ofTag, bind_eq_ok_iff, pure_eq_ok_iff] using hs
  obtain ⟨a, ha, hmemInner⟩ := exists_asBlock_of_paragraphParts hd hblock hinner
  refine ⟨a, ha, fun hne => ?_⟩
  have hlines := lines_infix_joinBlocks hmemInner hne
  exact hlines.trans (lines_infix_joinBlocks hmem (ne_nil_of_infix_lines hne hlines))

/-! ## Quotes and lists -/

theorem inline_blockquote_eq_ok_iff {children : List Display} {s : List Char} :
    inline (.plain "blockquote" children) = .ok s ↔
      ∃ parts, blocks children = .ok parts ∧ quoteLines (joinBlocks parts) = s := by
  simp only [Display.plain, inline, TagRole.ofTag, bind_eq_ok_iff, pure_eq_ok_iff]

theorem isBlock_listElement (first : Option String) (items : List Display) :
    isBlock (listElement first items) = true := by
  cases first <;> rfl

theorem asBlock_listElement (first : Option String) (items : List Display) (s : List Char) :
    asBlock (listElement first items) s = s := by
  cases first <;> rfl

/-- A list is written item by item, from the number in its attribute. -/
theorem exists_listItems_of_inline {first : Option Int} {items : List Display} {s : List Char}
    (h : inline (listElement (first.map Numeral.text) items) = .ok s) :
    ∃ written, listItems first items = .ok written ∧ join ['\n'] written = s := by
  cases first with
  | none =>
    obtain ⟨-, -, hitems⟩ := inline_ul_eq_ok_iff.1 h
    exact hitems
  | some n =>
    obtain ⟨m, hm, hitems⟩ := inline_ol_eq_ok_iff.1 h
    obtain ⟨-, rfl⟩ := Numeral.read_text_eq_ok_iff.1 hm
    exact hitems

/-- Each item of a list is written with its own bullet. -/
theorem exists_itemText_of_listItems {number : Option Int} {items : List Display} {index : Nat}
    {d : Display} {written : List (List Char)} (hd : items[index]? = some d)
    (h : listItems number items = .ok written) :
    ∃ body, itemBody d = .ok body ∧
      itemText (bulletText (number.map (· + (index : Int)))) body ∈ written := by
  induction items generalizing number index written with
  | nil => cases hd
  | cons e rest ih =>
    obtain ⟨mark, hmark, body, hbody, more, hmore, rfl⟩ := listItems_cons_eq_ok_iff.1 h
    obtain rfl := eq_bulletText_of_bullet hmark
    cases index with
    | zero =>
      obtain rfl : e = d := by simpa using hd
      exact ⟨body, hbody, by simp⟩
    | succ index =>
      obtain ⟨found, hfound, hmem⟩ := ih (by simpa using hd) hmore
      have hnumber : (number.map (· + 1)).map (· + (index : Int)) =
          number.map (· + ((index + 1 : Nat) : Int)) := by
        cases number <;> simp
        omega
      exact ⟨found, hfound, List.mem_cons_of_mem _ (hnumber ▸ hmem)⟩

theorem itemBody_plain_eq_ok_iff {tag : String} {content : List Display} {s : List Char} :
    itemBody (.plain tag content) = .ok s ↔
      ∃ parts, blocks content = .ok parts ∧ joinBlocks parts = s := by
  simp only [Display.plain, itemBody, bind_eq_ok_iff, pure_eq_ok_iff]

/-! ## Code blocks -/

/-- The lines of a code block stand in plain text, within the quotes and items that it is in. -/
theorem stands_of_holdsCode {code : String} {language : Option String} {path : List Container}
    {ds : List Display} (h : HoldsCode code language path ds) {parts : List (List Char)}
    (hparts : blocks ds = .ok parts) :
    Stands (lines (fence code language)) path (lines (joinBlocks parts)) := by
  induction h generalizing parts with
  | here hgroup hcode =>
    obtain ⟨a, -, hlines⟩ := lines_infix_of_mem_paragraph hgroup hcode rfl hparts
    exact hlines (fence_ne_nil code language)
  | quote hgroup hquote _ ih =>
    obtain ⟨a, ha, hlines⟩ := lines_infix_of_mem_paragraph hgroup hquote rfl hparts
    obtain ⟨inner, hinner, rfl⟩ := inline_blockquote_eq_ok_iff.1 ha
    exact ⟨_, _, hlines (quoteLines_ne_nil _), unmarkLines?_lines_quoteLines _, ih hinner⟩
  | @item ds group items content path first index hgroup hlist hitem _ ih =>
    obtain ⟨a, ha, hlines⟩ :=
      lines_infix_of_mem_paragraph hgroup hlist (isBlock_listElement _ _) hparts
    obtain ⟨written, hwritten, rfl⟩ := exists_listItems_of_inline ha
    obtain ⟨body, hbody, hmem⟩ := exists_itemText_of_listItems hitem hwritten
    obtain ⟨inner, hinner, rfl⟩ := itemBody_plain_eq_ok_iff.1 hbody
    rw [asBlock_listElement] at hlines
    have hitemLines := lines_infix_join 0 hmem
    have hlist := hlines (ne_nil_of_infix_lines (itemText_ne_nil _ _) hitemLines)
    exact ⟨_, _, hitemLines.trans hlist, unmarkLines?_lines_itemText _ _, ih hinner⟩

end TicketMarkup.Markdown
