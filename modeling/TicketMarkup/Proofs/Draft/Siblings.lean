import TicketMarkup.Proofs.Draft.PlainText
import TicketMarkup.Proofs.Format.Siblings

/-!
# Siblings among drafts

Drafts stand in paragraphs and in inline content as nodes do (`laidOut_blockContent`), whatever
stands in place of the sequences inside of them. Both ways to format them fail alike.
-/

namespace TicketMarkup

namespace Draft

/-- Whether a draft is a paragraph break. -/
def isBreak : Draft → Bool
  | .node .paragraphBreak _ _ => true
  | _ => false

/-- What a draft is formatted to, if that succeeds. -/
def leaf (ctx : Context) (d : Draft) : DraftLeaf :=
  match (d.format ctx).outcome with
  | .ok found => found
  | .error _ => none

/-- A draft that can be formatted has the leaf it is formatted to. -/
theorem leaf_of_format {ctx : Context} {d : Draft} {found : DraftLeaf}
    (h : (d.format ctx).outcome = .ok found) : d.leaf ctx = found := by
  rw [leaf, h]

/-- Only a paragraph break is formatted to a mark. -/
theorem eq_none_iff_of_format {ctx : Context} {d : Draft} {found : DraftLeaf}
    (h : (d.format ctx).outcome = .ok found) : found = none ↔ d.isBreak = true := by
  cases d with
  | str s =>
    cases h
    simp [isBreak]
  | foreign className =>
    obtain ⟨e, -, ⟨⟩⟩ := Traced.outcome_bind_eq_ok_iff.1 h
    simp [isBreak]
  | unknown tag =>
    obtain ⟨e, -, ⟨⟩⟩ := Traced.outcome_bind_eq_ok_iff.1 h
    simp [isBreak]
  | node kind fields content =>
    cases kind <;> simp only [format, Traced.outcome_bind_eq_ok_iff, Traced.outcome_pure,
      Except.ok.injEq] at h
    case paragraphBreak => simp [isBreak, ← h]
    case preformatted | code | rule | lineBreak | comment | ticket | mention | commit
      | attachment | image | text => simp [isBreak, ← h]
    case link =>
      obtain ⟨label, -, h⟩ := h
      split at h <;>
        · obtain ⟨shown, -, ⟨⟩⟩ := Traced.outcome_bind_eq_ok_iff.1 h
          simp [isBreak]
    all_goals
      obtain ⟨part, -, rfl⟩ := h
      simp [isBreak]

/-- Members can be formatted exactly if each of them can, and give their leaves in order. -/
theorem leaves_eq_ok_iff {ctx : Context} {members : List Draft} {found : List DraftLeaf} :
    (leaves ctx members).outcome = .ok found ↔
      (∀ m ∈ members, (m.format ctx).outcome = .ok (m.leaf ctx)) ∧
        members.map (leaf ctx) = found := by
  induction members generalizing found with
  | nil => simp [leaves]
  | cons m rest ih =>
    rw [leaves, List.forall_mem_cons, List.map_cons]
    simp only [Traced.outcome_bind_eq_ok_iff, Traced.outcome_pure, Except.ok.injEq, ih]
    constructor
    · rintro ⟨first, hfirst, more, ⟨hmore, rfl⟩, rfl⟩
      exact ⟨⟨by rw [leaf_of_format hfirst, hfirst], hmore⟩, by rw [leaf_of_format hfirst]⟩
    · rintro ⟨⟨hm, hmore⟩, rfl⟩
      exact ⟨_, hm, _, ⟨hmore, rfl⟩, rfl⟩

/-- In blocks, members are formatted to paragraphs of their leaves. -/
theorem outcome_blockContent_nodes (ctx : Context) (members : List Draft) :
    (blockContent ctx (.nodes members)).outcome =
      (leaves ctx members).outcome.map paragraphs := by
  rw [blockContent, Traced.outcome_bind]
  cases (leaves ctx members).outcome <;> rfl

/-- Inline, members are formatted to their leaves without the marks. -/
theorem outcome_inlineContent_nodes (ctx : Context) (members : List Draft) :
    (inlineContent ctx (.nodes members)).outcome =
      (leaves ctx members).outcome.map withoutMarks := by
  rw [inlineContent, Traced.outcome_bind]
  cases (leaves ctx members).outcome with
  | error fault => rfl
  | ok found => exact outcome_withoutBreaks found

/-- Whether nodes are the paragraphs of drafts that are formatted, each of them, and are laid out
in the paragraphs as in inline content. -/
def LaidOut (ctx : Context) (members : List Draft) (ps : List DraftDisplay) : Prop :=
  ∃ paragraphs inline, ps = paragraphs.map (DraftDisplay.plain "p") ∧
    (inlineContent ctx (.nodes members)).outcome = .ok inline ∧
    (∀ m ∈ members, (m.format ctx).outcome = .ok (m.leaf ctx)) ∧
    Layout isBreak (leaf ctx) members paragraphs inline

/-- Paragraphs are the leaves of the members, divided where the marks are. -/
theorem laidOut_blockContent {ctx : Context} {members : List Draft} {ps : List DraftDisplay}
    (h : (blockContent ctx (.nodes members)).outcome = .ok ps) : LaidOut ctx members ps := by
  rw [outcome_blockContent_nodes] at h
  cases hleaves : (leaves ctx members).outcome with
  | error fault => simp [hleaves, Except.map] at h
  | ok found =>
    simp only [hleaves, Except.map, Except.ok.injEq] at h
    obtain ⟨hmembers, rfl⟩ := leaves_eq_ok_iff.1 hleaves
    refine ⟨_, _, h.symm, ?_, hmembers,
      layout_groups fun m hm => eq_none_iff_of_format (hmembers m hm)⟩
    rw [outcome_inlineContent_nodes, hleaves]
    rfl

/-- Members fail in blocks as they fail inline. -/
theorem outcome_blockContent_eq_error_iff {ctx : Context} {members : List Draft}
    {fault : DraftFault} :
    (blockContent ctx (.nodes members)).outcome = .error fault ↔
      (inlineContent ctx (.nodes members)).outcome = .error fault := by
  rw [outcome_blockContent_nodes, outcome_inlineContent_nodes]
  cases (leaves ctx members).outcome <;> simp [Except.map]

end Draft

/-- Siblings, nodes or drafts, stand in the paragraphs that the breaks between them make, in the
same order as in inline content. A sequence with marks has one division into groups at its marks,
and a mark separates what stands before it from what stands after it. -/
theorem siblings_grouped_at_breaks :
    (∀ ctx nodes, ∃ paragraphs, format ctx nodes = paragraphs.map (Display.plain "p") ∧
      Layout Node.isBreak (Node.format ctx) nodes paragraphs (formatInline ctx nodes)) ∧
    (∀ ctx members,
      (∀ fault, (Draft.blockContent ctx (.nodes members)).outcome = .error fault ↔
        (Draft.inlineContent ctx (.nodes members)).outcome = .error fault) ∧
      ∀ ps, (Draft.blockContent ctx (.nodes members)).outcome = .ok ps →
        Draft.LaidOut ctx members ps) ∧
    (∀ (α : Type) (leaves : List (Option α)) (gs : List (List α)),
      IsGrouping leaves gs ↔ gs = groups leaves) ∧
    ∀ (α : Type) (before after : List (Option α)),
      groups (before ++ none :: after) = groups before ++ groups after :=
  ⟨layout_format,
    fun _ _ => ⟨fun _ => Draft.outcome_blockContent_eq_error_iff,
      fun _ => Draft.laidOut_blockContent⟩,
    fun _ _ _ => isGrouping_iff, fun _ => groups_append_mark⟩

/-- Two drafts around a break, the second with a break inside of it. -/
theorem siblings_grouped_at_breaks_text_and_bold :
    (Draft.blockContent .empty (.nodes [.str "a", .node .paragraphBreak [] [],
        .node .bold [] [.nodes [.str "b", .node .paragraphBreak [] []]]])).outcome =
      .ok [.plain "p" [.text "a"], .plain "p" [.plain "strong" [.text "b"]]] ∧
    Draft.LaidOut .empty [.str "a", .node .paragraphBreak [] [],
        .node .bold [] [.nodes [.str "b", .node .paragraphBreak [] []]]]
      [.plain "p" [.text "a"], .plain "p" [.plain "strong" [.text "b"]]] :=
  ⟨rfl, (siblings_grouped_at_breaks.2.1 .empty _).2 _ rfl⟩

end TicketMarkup
