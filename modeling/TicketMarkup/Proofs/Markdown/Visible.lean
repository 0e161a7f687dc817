import TicketMarkup.Display.Html
import TicketMarkup.Proofs.Format.Members
import TicketMarkup.Proofs.Markdown.Steps
import TicketMarkup.Proofs.Text.Visible

/-!
# Plain text with markup keeps the text

Whatever is visible in the texts of a display tree is visible in its plain text with markup, in
order (`kept_blocks`). Markup only adds to texts, and what is taken away is blanks: at the ends of a
run of content, and between the lines of a quote or of an item. Only elements whose role has no
content to write, rules, line breaks and images, could lose text, and they are to have no children
(`Display.VoidsEmpty`).
-/

namespace TicketMarkup

/-- Whether the elements that never have content have no children, at every level. -/
def Display.VoidsEmpty : Display → Prop :=
  Display.EveryElement fun tag _ children => Html.isVoid tag = true → children = []

namespace Markdown

open Text Display

/-! ## Pieces -/

/-- Joining blocks keeps all that is visible in them. -/
theorem kept_joinBlocks (parts : List (List Char)) : Kept parts.flatten (joinBlocks parts) := by
  have h := kept_join "\n\n".toList (parts.filter (· ≠ []))
  rwa [List.flatten_filter_ne_nil] at h

theorem kept_fence (code : String) (language : Option String) :
    Kept code.toList (fence code language) := by
  unfold fence
  simp only [List.append_assoc, List.cons_append]
  refine Kept.of_sublist ?_
  exact (List.sublist_append_left _ _).trans
    (((List.sublist_cons_self _ _).trans (List.sublist_append_right _ _)).trans
      (List.sublist_append_right _ _))

theorem kept_quoteLine (line : List Char) : Kept line (quoteLine line) := by
  unfold quoteLine
  split
  next h => exact h ▸ kept_nil _
  next => exact Kept.of_sublist ((List.sublist_cons_self _ _).trans (List.sublist_cons_self _ _))

theorem kept_quoteLines (body : List Char) : Kept body (quoteLines body) :=
  ((kept_lines body).trans (kept_flatten_map fun line _ => kept_quoteLine line)).trans
    (kept_join _ _)

theorem kept_indentLine (width : Nat) (line : List Char) : Kept line (indentLine width line) := by
  unfold indentLine
  split
  next h => exact h ▸ kept_nil _
  next => exact Kept.of_sublist (List.sublist_append_right _ _)

/-- A bullet and indents keep all that is visible in an item. -/
theorem kept_itemText (mark body : List Char) : Kept body (itemText mark body) := by
  have hlines := kept_lines body
  unfold itemText
  cases h : lines body with
  | nil => exact absurd h (lines_ne_nil body)
  | cons first rest =>
    rw [h, List.flatten_cons] at hlines
    refine hlines.trans (Kept.trans ?_ (kept_join _ _))
    rw [List.flatten_cons]
    refine Kept.append (Kept.of_sublist (List.sublist_append_right _ _)) ?_
    exact kept_flatten_map fun line _ => kept_indentLine _ line

/-- What is put between blocks keeps all that is visible in it. -/
theorem kept_asBlock {d : Display} {s : List Char} (h : Kept d.plainText.toList s) :
    Kept d.plainText.toList (asBlock d s) := by
  unfold asBlock
  split
  next code language => simpa [plainText] using kept_fence code language
  next =>
    split
    · exact h
    · exact h.trans (kept_strip s)

/-! ## Sequences -/

/-- Whether a node is written so that its text is kept, within a text and as an item of a list. -/
structure KeepsText (d : Display) : Prop where
  inline : ∀ s, inline d = .ok s → Kept d.plainText.toList s
  item : ∀ s, itemBody d = .ok s → Kept d.plainText.toList s

section Sequences

variable {ds : List Display} (h : ∀ d ∈ ds, KeepsText d)

include h

/-- A sequence that is written inline keeps all that is visible in it. -/
theorem kept_inlines {s : List Char} (hs : inlines ds = .ok s) :
    Kept (plainTexts ds).toList s := by
  induction ds generalizing s with
  | nil => exact kept_nil s
  | cons d rest ih =>
    obtain ⟨hd, hrest⟩ := List.forall_mem_cons.1 h
    obtain ⟨a, ha, b, hb, rfl⟩ := inlines_cons_eq_ok_iff.1 hs
    rw [plainTexts, String.toList_append]
    exact (hd.inline a ha).append (ih hrest hb)

theorem kept_flatten_blocks {parts : List (List Char)} (hs : blocks ds = .ok parts) :
    Kept (plainTexts ds).toList parts.flatten := by
  induction ds generalizing parts with
  | nil => exact kept_nil _
  | cons d rest ih =>
    obtain ⟨hd, hrest⟩ := List.forall_mem_cons.1 h
    obtain ⟨a, ha, more, hmore, rfl⟩ := blocks_cons_eq_ok_iff.1 hs
    rw [plainTexts, String.toList_append, List.flatten_cons]
    exact (kept_asBlock (hd.inline a ha)).append (ih hrest hmore)

theorem kept_blocks {parts : List (List Char)} (hs : blocks ds = .ok parts) :
    Kept (plainTexts ds).toList (joinBlocks parts) :=
  (kept_flatten_blocks h hs).trans (kept_joinBlocks parts)

/-- The run of content that has begun is kept as well. -/
theorem kept_paragraphParts {pending : List Char} {parts : List (List Char)}
    (hs : paragraphParts pending ds = .ok parts) :
    Kept (pending ++ (plainTexts ds).toList) parts.flatten := by
  induction ds generalizing pending parts with
  | nil =>
    rw [paragraphParts, Except.ok.injEq] at hs
    rw [← hs]
    simpa [plainTexts] using kept_strip pending
  | cons d rest ih =>
    obtain ⟨hd, hrest⟩ := List.forall_mem_cons.1 h
    rw [plainTexts, String.toList_append]
    cases hblock : isBlock d with
    | true =>
      obtain ⟨a, ha, more, hmore, rfl⟩ := (paragraphParts_cons_of_block hblock).1 hs
      rw [List.flatten_cons, List.flatten_cons]
      exact (kept_strip pending).append ((kept_asBlock (hd.inline a ha)).append (ih hrest hmore))
    | false =>
      obtain ⟨a, ha, hmore⟩ := (paragraphParts_cons_of_not_block hblock).1 hs
      rw [← List.append_assoc]
      refine Kept.trans ?_ (ih hrest hmore)
      exact ((Kept.refl pending).append (hd.inline a ha)).append (Kept.refl _)

/-- A list keeps all that is visible in its items. -/
theorem kept_listItems {number : Option Int} {items : List (List Char)}
    (hs : listItems number ds = .ok items) : Kept (plainTexts ds).toList items.flatten := by
  induction ds generalizing number items with
  | nil => exact kept_nil _
  | cons d rest ih =>
    obtain ⟨hd, hrest⟩ := List.forall_mem_cons.1 h
    obtain ⟨mark, -, body, hbody, more, hmore, rfl⟩ := listItems_cons_eq_ok_iff.1 hs
    rw [plainTexts, String.toList_append, List.flatten_cons]
    exact ((hd.item body hbody).trans (kept_itemText mark body)).append (ih hrest hmore)

end Sequences

/-! ## Trees -/

/-- The roles that have no content to write belong to elements that never have content. -/
theorem isVoid_of_ofTag {tag : String}
    (h : TagRole.ofTag tag = .image ∨ TagRole.ofTag tag = .lineBreak ∨ TagRole.ofTag tag = .rule) :
    Html.isVoid tag = true := by
  unfold TagRole.ofTag at h
  split at h <;> simp_all [Html.isVoid]

/-- An element keeps all that is visible in it, if no void element holds anything. -/
theorem kept_element {tag : String} {attrs : List (String × String)} {children : List Display}
    (hvoid : Html.isVoid tag = true → children = []) (h : ∀ c ∈ children, KeepsText c)
    {s : List Char} (hs : inline (.element tag attrs children) = .ok s) :
    Kept (plainTexts children).toList s := by
  have hempty : Html.isVoid tag = true → Kept (plainTexts children).toList s := fun hv => by
    rw [hvoid hv]
    exact kept_nil s
  cases hrole : TagRole.ofTag tag <;>
    simp only [inline, hrole, bind_eq_ok_iff, pure_eq_ok_iff] at hs
  case image => exact hempty (isVoid_of_ofTag (.inl hrole))
  case lineBreak => exact hempty (isVoid_of_ofTag (.inr (.inl hrole)))
  case rule => exact hempty (isVoid_of_ofTag (.inr (.inr hrole)))
  case plain => exact kept_inlines h hs
  case wrapper mark =>
    obtain ⟨content, hcontent, rfl⟩ := hs
    exact (kept_inlines h hcontent).within _ _
  case anchor =>
    obtain ⟨content, hcontent, rfl⟩ := hs
    simpa using (kept_inlines h hcontent).within ['['] _
  case heading level =>
    obtain ⟨content, hcontent, rfl⟩ := hs
    simpa using (kept_inlines h hcontent).within (List.replicate level '#' ++ [' ']) []
  case paragraph =>
    obtain ⟨parts, hparts, rfl⟩ := hs
    exact (kept_paragraphParts h hparts).trans (kept_joinBlocks parts)
  case quote =>
    obtain ⟨parts, hparts, rfl⟩ := hs
    exact (kept_blocks h hparts).trans (kept_quoteLines _)
  case bullets =>
    obtain ⟨-, -, items, hitems, rfl⟩ := hs
    exact (kept_listItems h hitems).trans (kept_join _ _)
  case numbers =>
    obtain ⟨first, -, items, hitems, rfl⟩ := hs
    exact (kept_listItems h hitems).trans (kept_join _ _)

/-- Every node keeps its text, if the elements that never have content have no children. -/
theorem keepsText_of_voidsEmpty {d : Display} (h : d.VoidsEmpty) : KeepsText d := by
  induction h with
  | text s =>
    refine ⟨fun t ht => ?_, fun t ht => ?_⟩
    · rw [inline, Except.ok.injEq] at ht
      exact ht ▸ Kept.refl _
    · rw [itemBody, Except.ok.injEq] at ht
      exact ht ▸ kept_strip _
  | userLink user =>
    have htext : (Display.userLink user).plainText.toList = '@' :: user.toList := by
      simp [plainText]
    refine ⟨fun t ht => ?_, fun t ht => ?_⟩
    · rw [inline, Except.ok.injEq] at ht
      rw [htext, ← ht]
      exact Kept.refl _
    · rw [itemBody, Except.ok.injEq] at ht
      rw [htext, ← ht]
      exact kept_strip _
  | codeBlock code language =>
    refine ⟨fun t ht => ?_, fun t ht => ?_⟩
    · rw [inline, Except.ok.injEq] at ht
      rw [plainText, ← ht]
      simpa using (kept_fence code language).within ['\n'] ['\n']
    · rw [itemBody, Except.ok.injEq] at ht
      rw [plainText, ← ht]
      exact kept_fence code language
  | element own _ ih =>
    refine ⟨fun t ht => ?_, fun t ht => ?_⟩
    · rw [plainText_element]
      exact kept_element own ih ht
    · simp only [itemBody, bind_eq_ok_iff, pure_eq_ok_iff] at ht
      obtain ⟨parts, hparts, rfl⟩ := ht
      rw [plainText_element]
      exact kept_blocks ih hparts

/-- What is visible in the texts of display nodes occurs in their plain text with markup, in
order. -/
theorem sublist_of_render {ds : List Display} (h : ∀ d ∈ ds, d.VoidsEmpty) {s : String}
    (hs : render ds = .ok s) : (visible (plainTexts ds).toList).Sublist s.toList := by
  unfold render at hs
  cases hparts : blocks ds with
  | error fault => simp [hparts, Except.map] at hs
  | ok parts =>
    simp only [hparts, Except.map, Except.ok.injEq] at hs
    rw [← hs, String.toList_ofList]
    exact (kept_blocks (fun d hd => keepsText_of_voidsEmpty (h d hd)) hparts).sublist

end Markdown

end TicketMarkup
