import TicketMarkup.Draft.Format
import TicketMarkup.Proofs.Format.PlainText

/-!
# Formatting keeps the text of drafts

The text of a draft (`Draft.sourceText?`) is that of a node, with a text in place of a sequence
standing for itself. A draft that has a text is formatted without fault to what has that text
(`exists_format`).
-/

namespace TicketMarkup

/-! ## The text of drafts -/

namespace Draft

/-- The text in the field that holds it, unless another value stands there. -/
def fieldText? (fields : Fields) : Option String :=
  match text fields with
  | .str s => some s
  | _ => none

mutual

/-- The text of a draft. There is none if something in it is not of the type that its place asks
for: another value for a text, the level of a heading or a sequence, or something that is no
node. -/
def sourceText? : Draft → Option String
  | .str s => some s
  | .foreign _ => none
  | .unknown (.str tag) => some ("Unknown type " ++ tag)
  | .unknown _ => none
  | .node kind fields content =>
    match kind with
    | .heading =>
      match field "level" (.int 1) fields with
      | .int _ => fieldText? fields
      | _ => none
    | .bulletList | .numberedList | .quote | .bold | .italic | .strike => contentText? content
    | .preformatted | .code | .comment | .ticket | .commit | .attachment | .text =>
      fieldText? fields
    | .mention => (fieldText? fields).map ("@" ++ ·)
    | .link => if content.isEmpty then fieldText? fields else contentText? content
    | .rule | .lineBreak | .image | .paragraphBreak => some ""

/-- The texts of drafts, one after the other. -/
def membersText? : List Draft → Option String
  | [] => some ""
  | d :: rest => do
    let first ← d.sourceText?
    let more ← membersText? rest
    return first ++ more

/-- The text of a sequence of drafts; a text in its place is all of it. -/
def sequenceText? : DraftSequence → Option String
  | .text s => some s
  | .nodes members => membersText? members
  | .value _ => none

/-- The texts of the sequences of a draft, one after the other. -/
def contentText? : List DraftSequence → Option String
  | [] => some ""
  | s :: rest => do
    let first ← sequenceText? s
    let more ← contentText? rest
    return first ++ more

end

end Draft

/-! ## The text of what drafts format to -/

namespace DraftDisplay

/-- The texts of display nodes of any values, one after the other. -/
def joinedText (ds : List DraftDisplay) : Except DraftFault String :=
  (plainTexts ds).bind (joinTexts 0)

theorem joinTexts_cons_eq_ok_iff {index : Nat} {v : Json} {vs : List Json} {s : String} :
    joinTexts index (v :: vs) = .ok s ↔
      ∃ a b, v = .str a ∧ joinTexts (index + 1) vs = .ok b ∧ a ++ b = s := by
  cases v with
  | str a => cases h : joinTexts (index + 1) vs <;> simp [joinTexts, h, Except.map]
  | _ => simp [joinTexts]

/-- The index of the first text counts only in faults. -/
theorem joinTexts_eq_ok_iff_zero {index : Nat} {vs : List Json} {s : String} :
    joinTexts index vs = .ok s ↔ joinTexts 0 vs = .ok s := by
  induction vs generalizing index s with
  | nil => simp [joinTexts]
  | cons v vs ih =>
    simp only [joinTexts_cons_eq_ok_iff]
    simp only [@ih (index + 1), @ih (0 + 1)]

/-- The text of a sequence is that of its first member and then that of the rest. -/
theorem joinedText_cons_eq_ok_iff {d : DraftDisplay} {ds : List DraftDisplay} {s : String} :
    joinedText (d :: ds) = .ok s ↔
      ∃ a b, d.plainText = .ok (.str a) ∧ joinedText ds = .ok b ∧ a ++ b = s := by
  unfold joinedText
  rw [plainTexts]
  cases d.plainText with
  | error fault => simp [Except.bind]
  | ok v =>
    cases plainTexts ds with
    | error fault => simp [Except.bind, Except.map]
    | ok vs =>
      simp only [Except.map, Except.bind, joinTexts_cons_eq_ok_iff, Except.ok.injEq]
      simp only [@joinTexts_eq_ok_iff_zero (0 + 1)]

/-- The text of two sequences is that of the first and then that of the second. -/
theorem joinedText_append_eq_ok_iff {a b : List DraftDisplay} {s : String} :
    joinedText (a ++ b) = .ok s ↔
      ∃ x y, joinedText a = .ok x ∧ joinedText b = .ok y ∧ x ++ y = s := by
  induction a generalizing s with
  | nil => simp [joinedText, plainTexts, joinTexts, Except.bind]
  | cons d rest ih =>
    simp only [List.cons_append, joinedText_cons_eq_ok_iff, ih]
    constructor
    · rintro ⟨x, -, hd, ⟨y, z, hrest, hb, rfl⟩, rfl⟩
      exact ⟨x ++ y, z, ⟨x, y, hd, hrest, rfl⟩, hb, String.append_assoc ..⟩
    · rintro ⟨-, z, ⟨x, y, hd, hrest, rfl⟩, hb, rfl⟩
      exact ⟨x, y ++ z, hd, ⟨y, z, hrest, hb, rfl⟩, (String.append_assoc ..).symm⟩

/-- An element has the text of what it holds. -/
theorem plainText_element_of_joinedText {tag : String} {attrs : Fields} {ds : List DraftDisplay}
    {s : String} (h : joinedText ds = .ok s) : (element tag attrs ds).plainText = .ok (.str s) := by
  unfold joinedText at h
  rw [plainText]
  cases htexts : plainTexts ds with
  | error fault => simp [htexts, Except.bind] at h
  | ok texts =>
    have hjoin : joinTexts 0 texts = .ok s := by simpa [htexts, Except.bind] using h
    simp [hjoin, Except.map]

theorem joinedText_singleton {d : DraftDisplay} {s : String} (h : d.plainText = .ok (.str s)) :
    joinedText [d] = .ok s :=
  joinedText_cons_eq_ok_iff.2 ⟨s, "", h, rfl, String.append_empty⟩

theorem joinedText_element {tag : String} {attrs : Fields} {ds : List DraftDisplay} {s : String}
    (h : joinedText ds = .ok s) : joinedText [element tag attrs ds] = .ok s :=
  joinedText_singleton (plainText_element_of_joinedText h)

theorem joinedText_text (s : String) : joinedText [text s] = .ok s :=
  joinedText_singleton (by rw [text, plainText])

/-- Wrapping groups in elements leaves the text. -/
theorem joinedText_map_plain {tag : String} {groups : List (List DraftDisplay)} {s : String}
    (h : joinedText groups.flatten = .ok s) : joinedText (groups.map (plain tag)) = .ok s := by
  induction groups generalizing s with
  | nil => exact h
  | cons group rest ih =>
    obtain ⟨x, y, hgroup, hrest, rfl⟩ := joinedText_append_eq_ok_iff.1 h
    exact joinedText_cons_eq_ok_iff.2
      ⟨x, y, plainText_element_of_joinedText hgroup, ih hrest, rfl⟩

end DraftDisplay

/-! ## Nothing is lost -/

namespace Draft

open DraftDisplay (joinedText)

/-- Whether a step succeeds in giving display nodes with a text. -/
def GivesText (x : Formatting (List DraftDisplay)) (s : String) : Prop :=
  ∃ ds, x.outcome = .ok ds ∧ joinedText ds = .ok s

/-- A text field that is known as a text is that text. -/
theorem fieldText?_eq_some {fields : Fields} {s : String} (h : fieldText? fields = some s) :
    text fields = .str s := by
  unfold fieldText? at h
  split at h <;> simp_all

theorem outcome_withoutBreaks (leaves : List DraftLeaf) :
    (withoutBreaks leaves).outcome = .ok (withoutMarks leaves) := by
  unfold withoutBreaks
  split <;> rfl

/-- Making paragraphs leaves the text. -/
theorem joinedText_paragraphs {leaves : List DraftLeaf} {s : String}
    (h : joinedText (withoutMarks leaves) = .ok s) : joinedText (paragraphs leaves) = .ok s :=
  DraftDisplay.joinedText_map_plain (by rwa [flatten_groups])

/-- Leaves have the text of the first and then that of the rest, and marks have none. -/
theorem joinedText_withoutMarks_cons {leaf : DraftLeaf} {rest : List DraftLeaf} {s t : String}
    (hleaf : joinedText leaf.toList = .ok s) (hrest : joinedText (withoutMarks rest) = .ok t) :
    joinedText (withoutMarks (leaf :: rest)) = .ok (s ++ t) := by
  rw [withoutMarks_cons]
  exact DraftDisplay.joinedText_append_eq_ok_iff.2 ⟨s, t, hleaf, hrest, rfl⟩

/-- A node of an unknown kind shows its tag. -/
theorem exists_format_unknown (ctx : Context) (tag : String) :
    ∃ leaf, ((Draft.unknown (.str tag)).format ctx).outcome = .ok leaf ∧
      joinedText leaf.toList = .ok ("Unknown type " ++ tag) := by
  refine ⟨some (.ofDisplay (unknownElement tag)), ?_, DraftDisplay.joinedText_singleton ?_⟩
  · simp only [format, placeholder, Traced.outcome_bind_eq_ok_iff]
    exact ⟨_, ⟨(), rfl, rfl⟩, rfl⟩
  · rw [DraftDisplay.plainText_ofDisplay]
    simp [unknownElement, Display.plainText, Display.plainTexts]

/-- A draft of a kind keeps its text if its sequences keep theirs. -/
theorem exists_format_node {ctx : Context} {kind : Kind} {fields : Fields}
    {content : List DraftSequence} {s : String}
    (hblock : ∀ t, contentText? content = some t →
      ∃ dss, (blockContents ctx content).outcome = .ok dss ∧ joinedText dss.flatten = .ok t)
    (hinline : ∀ t, contentText? content = some t →
      ∃ dss, (inlineContents ctx content).outcome = .ok dss ∧ joinedText dss.flatten = .ok t)
    (h : (Draft.node kind fields content).sourceText? = some s) :
    ∃ leaf, ((Draft.node kind fields content).format ctx).outcome = .ok leaf ∧
      joinedText leaf.toList = .ok s := by
  cases kind <;> simp only [sourceText?] at h
  case heading =>
    split at h
    next level hlevel =>
      simp only [format, hlevel, levelTag, fieldText?_eq_some h]
      exact ⟨_, rfl, DraftDisplay.joinedText_element (DraftDisplay.joinedText_text s)⟩
    · cases h
  case bulletList | numberedList =>
    obtain ⟨items, hitems, hs⟩ := hblock s h
    simp only [format, Traced.outcome_bind_eq_ok_iff]
    exact ⟨_, ⟨items, hitems, rfl⟩,
      DraftDisplay.joinedText_element (DraftDisplay.joinedText_map_plain hs)⟩
  case quote =>
    obtain ⟨children, hchildren, hs⟩ := hblock s h
    simp only [format, Traced.outcome_bind_eq_ok_iff]
    exact ⟨_, ⟨children, hchildren, rfl⟩, DraftDisplay.joinedText_element hs⟩
  case bold | italic | strike =>
    obtain ⟨children, hchildren, hs⟩ := hinline s h
    simp only [format, Traced.outcome_bind_eq_ok_iff]
    exact ⟨_, ⟨children, hchildren, rfl⟩, DraftDisplay.joinedText_element hs⟩
  case preformatted =>
    simp only [format, fieldText?_eq_some h]
    exact ⟨_, rfl, DraftDisplay.joinedText_singleton (by rw [DraftDisplay.plainText])⟩
  case code | comment | ticket | commit | attachment =>
    simp only [format, link, fieldText?_eq_some h]
    exact ⟨_, rfl, DraftDisplay.joinedText_element (DraftDisplay.joinedText_text s)⟩
  case text =>
    simp only [format, fieldText?_eq_some h]
    exact ⟨_, rfl, DraftDisplay.joinedText_text s⟩
  case mention =>
    obtain ⟨user, huser, rfl⟩ := Option.map_eq_some_iff.1 h
    simp only [format, fieldText?_eq_some huser]
    exact ⟨_, rfl, DraftDisplay.joinedText_singleton (by rw [DraftDisplay.plainText, Json.text])⟩
  case link =>
    simp only [format, Traced.outcome_bind_eq_ok_iff]
    split at h
    next hempty =>
      rw [List.isEmpty_iff.1 hempty, fieldText?_eq_some h]
      exact ⟨_, ⟨[], rfl, rfl⟩,
        DraftDisplay.joinedText_element (DraftDisplay.joinedText_text s)⟩
    next hempty =>
      obtain ⟨label, hlabel, hs⟩ := hinline s h
      refine ⟨some (.element "a" [("href", field "url" (.str "") fields)] label.flatten),
        ⟨label, hlabel, ?_⟩, DraftDisplay.joinedText_element hs⟩
      rw [if_neg hempty]
      rfl
  case rule | lineBreak =>
    cases h
    exact ⟨_, rfl, DraftDisplay.joinedText_element rfl⟩
  case image =>
    cases h
    simp only [format, imageElement, DraftDisplay.ofDisplay]
    exact ⟨_, rfl, DraftDisplay.joinedText_element rfl⟩
  case paragraphBreak =>
    cases h
    exact ⟨none, rfl, rfl⟩

mutual

/-- A draft with a text can be formatted, and its leaf has that text. -/
theorem exists_format (ctx : Context) : ∀ {d : Draft} {s : String}, d.sourceText? = some s →
    ∃ leaf, (d.format ctx).outcome = .ok leaf ∧ joinedText leaf.toList = .ok s
  | .str s, _, h => by
    cases h
    exact ⟨some (.text s), format_str ctx s, DraftDisplay.joinedText_text s⟩
  | .foreign _, _, h => by cases h
  | .unknown tag, _, h => by
    cases tag with
    | str tag =>
      cases h
      exact exists_format_unknown ctx tag
    | _ => cases h
  | .node _ _ _, _, h => by
    exact exists_format_node (fun _ ht => (givesText_contents ctx ht).1)
      (fun _ ht => (givesText_contents ctx ht).2) h

/-- Members with a text can be formatted, and their leaves have that text. -/
theorem exists_leaves (ctx : Context) : ∀ {ds : List Draft} {s : String},
    membersText? ds = some s →
    ∃ found, (leaves ctx ds).outcome = .ok found ∧ joinedText (withoutMarks found) = .ok s
  | [], _, h => by
    cases h
    exact ⟨[], rfl, rfl⟩
  | d :: rest, s, h => by
    simp only [membersText?, Option.bind_eq_bind, Option.bind_eq_some_iff] at h
    obtain ⟨a, ha, b, hb, ⟨⟩⟩ := h
    obtain ⟨leaf, hleaf, htext⟩ := exists_format ctx ha
    obtain ⟨found, hfound, htexts⟩ := exists_leaves ctx hb
    refine ⟨leaf :: found, ?_, joinedText_withoutMarks_cons htext htexts⟩
    rw [leaves]
    simp only [Traced.outcome_bind_eq_ok_iff]
    exact ⟨leaf, hleaf, found, hfound, rfl⟩

/-- Content with a text is formatted to that text, in blocks as well as inline. -/
theorem givesText_content (ctx : Context) : ∀ {c : DraftSequence} {s : String},
    sequenceText? c = some s →
    GivesText (blockContent ctx c) s ∧ GivesText (inlineContent ctx c) s
  | .text s, _, h => by
    cases h
    have htext := DraftDisplay.joinedText_text s
    exact ⟨⟨_, by rw [blockContent, Traced.outcome_pure], htext⟩,
      _, by rw [inlineContent, Traced.outcome_pure], htext⟩
  | .nodes members, s, h => by
    obtain ⟨found, hfound, htext⟩ := exists_leaves ctx h
    refine ⟨⟨paragraphs found, ?_, joinedText_paragraphs htext⟩, withoutMarks found, ?_, htext⟩
    · rw [blockContent, Traced.outcome_bind_eq_ok_iff]
      exact ⟨found, hfound, rfl⟩
    · rw [inlineContent, Traced.outcome_bind_eq_ok_iff]
      exact ⟨found, hfound, outcome_withoutBreaks found⟩
  | .value _, _, h => by cases h

theorem givesText_contents (ctx : Context) : ∀ {cs : List DraftSequence} {s : String},
    contentText? cs = some s →
    (∃ dss, (blockContents ctx cs).outcome = .ok dss ∧ joinedText dss.flatten = .ok s) ∧
      ∃ dss, (inlineContents ctx cs).outcome = .ok dss ∧ joinedText dss.flatten = .ok s
  | [], _, h => by
    cases h
    exact ⟨⟨[], rfl, rfl⟩, [], rfl, rfl⟩
  | c :: rest, s, h => by
    simp only [contentText?, Option.bind_eq_bind, Option.bind_eq_some_iff] at h
    obtain ⟨a, ha, b, hb, ⟨⟩⟩ := h
    obtain ⟨⟨block, hblock, hablock⟩, inlined, hinlined, hainlined⟩ := givesText_content ctx ha
    obtain ⟨⟨blocks, hblocks, hbblocks⟩, more, hmore, hbmore⟩ := givesText_contents ctx hb
    refine ⟨⟨block :: blocks, ?_, ?_⟩, inlined :: more, ?_, ?_⟩
    · simp only [blockContents, Traced.outcome_bind_eq_ok_iff]
      exact ⟨block, hblock, blocks, hblocks, rfl⟩
    · exact DraftDisplay.joinedText_append_eq_ok_iff.2 ⟨a, b, hablock, hbblocks, rfl⟩
    · simp only [inlineContents, Traced.outcome_bind_eq_ok_iff]
      exact ⟨inlined, hinlined, more, hmore, rfl⟩
    · exact DraftDisplay.joinedText_append_eq_ok_iff.2 ⟨a, b, hainlined, hbmore, rfl⟩

end

end Draft

/-- Formatting keeps the text, of nodes and of drafts that have one: what a sequence becomes as
paragraphs and as inline content has the text of the sequence. -/
theorem text_of_formatted (ctx : Context) :
    (∀ nodes : List Node,
      Display.plainTexts (format ctx nodes) = sourceTexts nodes ∧
        Display.plainTexts (formatInline ctx nodes) = sourceTexts nodes) ∧
    ∀ (content : DraftSequence) (s : String), Draft.sequenceText? content = some s →
      (∃ ds, (Draft.blockContent ctx content).outcome = .ok ds ∧
        DraftDisplay.joinedText ds = .ok s) ∧
      ∃ ds, (Draft.inlineContent ctx content).outcome = .ok ds ∧
        DraftDisplay.joinedText ds = .ok s :=
  ⟨plainTexts_format ctx, fun _ _ h => Draft.givesText_content ctx h⟩

/-- A quote of a text, and in a paragraph of its own a link without label. -/
theorem text_of_formatted_quote_link :
    Draft.sequenceText? (.nodes [.node .quote [] [.text "a"], .node .paragraphBreak [] [],
      .node .link [("text", .str "b")] []]) = some "ab" ∧
    ∃ ds, (Draft.blockContent .empty (.nodes [.node .quote [] [.text "a"],
      .node .paragraphBreak [] [], .node .link [("text", .str "b")] []])).outcome = .ok ds ∧
      DraftDisplay.joinedText ds = .ok "ab" :=
  ⟨by decide, ((text_of_formatted .empty).2 _ "ab" (by decide)).1⟩

end TicketMarkup
