import TicketMarkup.Proofs.Rendering.Splitting

/-!
# Blocks in paragraphs

A paragraph may hold lists, headings, quotes, code and other paragraphs between runs of other
content. In plain text such a block is set apart from the runs around it as if the paragraph ended
before it and another one began behind it (`render_paragraph_block`). This is an equation of
outcomes: if a list in one of the three cannot be numbered, both sides have the same fault.

The parts that the paragraph is made of are split at the block (`paragraphParts_append_block`), and
it does not matter whether parts are joined at once or group by group, since empty ones are left out
either way (`joinBlocks_flatten`).
-/

namespace TicketMarkup.Markdown

open Text

/-! ## Blocks -/

/-- The tags of the elements that are set apart from the text around them. -/
def blockTags : List String :=
  ["p", "h1", "h2", "h3", "h4", "h5", "h6", "ul", "ol", "blockquote", "hr"]

/-- A node that is set apart from the text around it. -/
inductive SetApart : Display → Prop
  | codeBlock (code : String) (language : Option String) : SetApart (.codeBlock code language)
  | element {tag : String} (h : tag ∈ blockTags) (attrs : List (String × String))
      (children : List Display) : SetApart (.element tag attrs children)

theorem isBlock_ofTag_iff (tag : String) :
    (TagRole.ofTag tag).isBlock = true ↔ tag ∈ blockTags := by
  unfold TagRole.ofTag
  split <;> simp_all [TagRole.isBlock, blockTags]

/-- What is set apart in a paragraph. -/
theorem isBlock_iff {d : Display} : isBlock d = true ↔ SetApart d := by
  constructor
  · intro h
    cases d with
    | codeBlock code language => exact .codeBlock code language
    | element tag attrs children => exact .element ((isBlock_ofTag_iff tag).1 h) attrs children
    | text s => cases h
    | userLink user => cases h
  · rintro (⟨code, language⟩ | ⟨htag, attrs, children⟩)
    · rfl
    · exact (isBlock_ofTag_iff _).2 htag

/-! ## Parts -/

/-- Parts may be joined group by group. -/
theorem joinBlocks_flatten (groups : List (List (List Char))) :
    joinBlocks (groups.map joinBlocks) = joinBlocks groups.flatten := by
  refine String.ofList_injective ?_
  induction groups with
  | nil => rfl
  | cons group groups ih =>
    calc String.ofList (joinBlocks ((group :: groups).map joinBlocks))
      _ = joinTwo "\n\n" (String.ofList (joinBlocks [joinBlocks group]))
            (String.ofList (joinBlocks (groups.map joinBlocks))) :=
          joinBlocks_append [joinBlocks group] (groups.map joinBlocks)
      _ = joinTwo "\n\n" (String.ofList (joinBlocks group))
            (String.ofList (joinBlocks groups.flatten)) := by rw [joinBlocks_singleton, ih]
      _ = String.ofList (joinBlocks (group :: groups).flatten) :=
          (joinBlocks_append group groups.flatten).symm

/-- A block ends the run before it, and a new run begins behind it. -/
theorem paragraphParts_append_block {b : Display} (h : isBlock b = true) (pending : List Char)
    (pre post : List Display) :
    paragraphParts pending (pre ++ b :: post) = do
      let before ← paragraphParts pending pre
      let content ← inline b
      let after ← paragraphParts [] post
      return before ++ asBlock b content :: after := by
  induction pre generalizing pending with
  | nil => simp only [List.nil_append, paragraphParts, h, if_true]; rfl
  | cons d pre ih =>
    rw [List.cons_append, paragraphParts, paragraphParts]
    cases inline d with
    | error fault => rfl
    | ok content =>
      by_cases hd : isBlock d = true
      · -- the run before `d` is a part of both sides; `ih` is about an empty run behind it
        simp only [hd, if_true, ih, Except.bind, bind]
        cases paragraphParts [] pre with
        | error fault => rfl
        | ok before =>
          cases inline b with
          | error fault => rfl
          | ok content => cases paragraphParts [] post <;> rfl
      · simp only [hd, Except.bind, bind]
        exact ih (pending ++ content)

/-- Without blocks, a paragraph is one run. -/
theorem paragraphParts_of_not_block {ds : List Display} (h : ∀ d ∈ ds, isBlock d = false)
    (pending : List Char) :
    paragraphParts pending ds = (inlines ds).map fun s => [strip (pending ++ s)] := by
  induction ds generalizing pending with
  | nil => simp [paragraphParts, inlines, Except.map]
  | cons d ds ih =>
    rw [List.forall_mem_cons] at h
    simp only [paragraphParts, inlines, h.1, Bool.false_eq_true, if_false, ih h.2]
    cases inline d with
    | error fault => rfl
    | ok content =>
      cases inlines ds with
      | error fault => rfl
      | ok more => simp [bind, Except.bind, Except.map, pure, Except.pure]

/-- A sequence is written inline node by node. -/
theorem inlines_eq_mapM (ds : List Display) : inlines ds = (ds.mapM inline).map List.flatten := by
  induction ds with
  | nil => rfl
  | cons d ds ih =>
    rw [inlines, List.mapM_cons, ih]
    cases inline d with
    | error fault => rfl
    | ok content => cases ds.mapM inline <;> rfl

/-! ## Paragraphs -/

/-- A paragraph is written as its parts, joined like blocks. -/
theorem inline_paragraph (attrs : List (String × String)) (ds : List Display) :
    inline (.element "p" attrs ds) = (paragraphParts [] ds).map joinBlocks := by
  simp only [inline, TagRole.ofTag]
  cases paragraphParts [] ds <;> rfl

/-- A single paragraph is rendered as its parts, joined like blocks. -/
theorem render_paragraph (attrs : List (String × String)) (ds : List Display) :
    render [.element "p" attrs ds] =
      (paragraphParts [] ds).map fun parts => String.ofList (joinBlocks parts) := by
  rw [render, blocks, inline_paragraph]
  cases paragraphParts [] ds with
  | error fault => rfl
  | ok parts => exact congrArg (Except.ok ∘ String.ofList) (joinBlocks_singleton (joinBlocks parts))

/-- A block in a paragraph is rendered as it would be between two paragraphs, one with what stands
before it and one with what stands behind it, and with the same fault if there is one. A paragraph
without blocks is what its children are within a text, one after the other, without the blanks at
both ends. -/
theorem render_paragraph_block :
    (∀ (b : Display) (pre post : List Display) (attrs : List (String × String)), SetApart b →
      render [.element "p" attrs (pre ++ [b] ++ post)] =
        render [.element "p" attrs pre, b, .element "p" attrs post]) ∧
    ∀ (ds : List Display) (attrs : List (String × String)), (∀ d ∈ ds, ¬SetApart d) →
      render [.element "p" attrs ds] =
        (ds.mapM inline).map fun pieces => String.ofList (strip pieces.flatten) := by
  constructor
  · intro b pre post attrs hb
    have hsplit := paragraphParts_append_block (isBlock_iff.2 hb) [] pre post
    rw [List.append_assoc, List.singleton_append, render_paragraph, hsplit, render]
    simp only [blocks, inline_paragraph]
    cases paragraphParts [] pre with
    | error fault => rfl
    | ok before =>
      cases inline b with
      | error fault => rfl
      | ok content =>
        cases paragraphParts [] post with
        | error fault => rfl
        | ok after =>
          have hjoin : joinBlocks [joinBlocks before, asBlock b content, joinBlocks after] =
              joinBlocks (before ++ asBlock b content :: after) := by
            simpa [joinBlocks_singleton] using
              joinBlocks_flatten [before, [asBlock b content], after]
          exact congrArg (Except.ok ∘ String.ofList) hjoin.symm
  · intro ds attrs hds
    have hrun : ∀ d ∈ ds, isBlock d = false := by
      intro d hd
      exact Bool.eq_false_iff.2 (mt isBlock_iff.1 (hds d hd))
    rw [render_paragraph, paragraphParts_of_not_block hrun, inlines_eq_mapM]
    cases ds.mapM inline with
    | error fault => rfl
    | ok pieces =>
      have hone := joinBlocks_singleton (strip pieces.flatten)
      exact congrArg (Except.ok ∘ String.ofList) hone

/-- Code between two runs, the second of them nothing but blanks, and the first run alone. -/
theorem render_paragraph_block_code :
    SetApart (.codeBlock "x = 1" none) ∧
      render [.element "p" [] ([.text " See "] ++ [.codeBlock "x = 1" none] ++ [.text "  "])] =
        render [.element "p" [] [.text " See "], .codeBlock "x = 1" none,
          .element "p" [] [.text "  "]] ∧
      (∀ d ∈ [Display.text " See "], ¬SetApart d) ∧
      render [.element "p" [] [.text " See "]] = .ok "See" := by
  have hcode : SetApart (.codeBlock "x = 1" none) := .codeBlock _ _
  have hruns : ∀ d ∈ [Display.text " See "], ¬SetApart d := by
    intro d hd h
    rw [List.mem_singleton.1 hd] at h
    cases h
  exact ⟨hcode, render_paragraph_block.1 _ _ _ _ hcode, hruns,
    (render_paragraph_block.2 _ [] hruns).trans rfl⟩

end TicketMarkup.Markdown
