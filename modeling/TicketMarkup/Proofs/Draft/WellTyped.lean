import TicketMarkup.Proofs.Draft.Siblings
import TicketMarkup.Proofs.Format.Members
import TicketMarkup.Proofs.Markdown.Visible
import TicketMarkup.Proofs.Source.Grammar

/-!
# Well-typed drafts

A draft is well typed (`Draft.WellTyped`) if every field that its kind asks for, where it is given,
holds a value of the type that the kind asks for, and only texts and sequences of well-typed drafts
stand where sequences belong. Well-typed drafts are formatted to display trees, in which the
elements that never have content have no children (`exists_blockContent`).
-/

namespace TicketMarkup

/-- Whether the field of a rule, where it is given, holds a value of the type that the rule asks
for. Values that only stand for one of that type do not count. -/
def FieldRule.HasType (fields : Fields) : FieldRule → Prop
  | text name nullable => ∀ v, Fields.get? name fields = some v →
      (∃ s, v = .str s) ∨ nullable = true ∧ v = .null
  | integer name _ => ∀ v, Fields.get? name fields = some v → ∃ n, v = .int n
  | children => True
  | label => True
  | items => True

namespace Draft

mutual

/-- Whether a draft is a node whose fields have the types that its kind asks for, at every level. -/
def WellTyped : Draft → Prop
  | .str _ => True
  | .foreign _ => False
  | .unknown tag => ∃ s, tag = .str s
  | .node kind fields content =>
    (∀ rule ∈ kind.rules, rule.HasType fields) ∧ ContentWellTyped content

/-- Whether drafts are well typed. -/
def MembersWellTyped : List Draft → Prop
  | [] => True
  | d :: rest => d.WellTyped ∧ MembersWellTyped rest

/-- Whether a text or a sequence of well-typed drafts stands in the place of a sequence. -/
def SequenceWellTyped : DraftSequence → Prop
  | .text _ => True
  | .nodes members => MembersWellTyped members
  | .value _ => False

/-- Whether the sequences of a draft are well typed. -/
def ContentWellTyped : List DraftSequence → Prop
  | [] => True
  | s :: rest => SequenceWellTyped s ∧ ContentWellTyped rest

end

/-! ## Fields -/

section Fields

variable {name : String} {nullable : Bool} {fields : Fields}

/-- A text field of the right type is a text, also where it is absent. -/
theorem exists_field_text (h : (FieldRule.text name false).HasType fields) (default : String) :
    ∃ s, field name (.str default) fields = .str s := by
  unfold field
  cases hget : Fields.get? name fields with
  | none => exact ⟨default, rfl⟩
  | some v => simpa using h v hget

/-- An optional text field of the right type is a text or null. -/
theorem exists_field_optionalText (h : (FieldRule.text name true).HasType fields) :
    ∃ s : Option String, field name .null fields = (s.map Json.str).getD .null := by
  unfold field
  cases hget : Fields.get? name fields with
  | none => exact ⟨none, rfl⟩
  | some v =>
    rcases h v hget with ⟨s, rfl⟩ | ⟨-, rfl⟩
    · exact ⟨some s, rfl⟩
    · exact ⟨none, rfl⟩

/-- An integer field of the right type is an integer, also where it is absent. -/
theorem exists_field_integer (h : (FieldRule.integer name nullable).HasType fields)
    (default : Int) : ∃ n, field name (.int default) fields = .int n := by
  unfold field
  cases hget : Fields.get? name fields with
  | none => exact ⟨default, rfl⟩
  | some v => exact h v hget

end Fields

/-! ## Display trees -/

open DraftDisplay (ofDisplay ofDisplays)

theorem ofDisplays_eq_map (ds : List Display) : ofDisplays ds = ds.map ofDisplay := by
  induction ds with
  | nil => rfl
  | cons d rest ih => rw [ofDisplays, ih, List.map_cons]

theorem ofDisplay_plain (tag : String) (ds : List Display) :
    ofDisplay (.plain tag ds) = .plain tag (ds.map ofDisplay) := by
  rw [Display.plain, ofDisplay, ofDisplays_eq_map]
  rfl

/-- Whether a step succeeds in giving a display node, or a mark, without content where none
belongs. -/
def GivesDisplay (x : Formatting DraftLeaf) : Prop :=
  ∃ leaf : Leaf, x.outcome = .ok (leaf.map ofDisplay) ∧ ∀ d ∈ leaf, d.VoidsEmpty

/-- Whether a step succeeds in giving display nodes without content where none belongs. -/
def GivesDisplays (x : Formatting (List DraftDisplay)) : Prop :=
  ∃ ds : List Display, x.outcome = .ok (ds.map ofDisplay) ∧ ∀ d ∈ ds, d.VoidsEmpty

/-- Whether a step succeeds in giving display nodes for each of some sequences. -/
def GivesContents (x : Formatting (List (List DraftDisplay))) : Prop :=
  ∃ dss : List (List Display), x.outcome = .ok (dss.map (List.map ofDisplay)) ∧
    ∀ ds ∈ dss, ∀ d ∈ ds, d.VoidsEmpty

/-- An element with a tag that is not void has empty voids if all that it holds has. -/
theorem voidsEmpty_element {tag : String} (htag : Html.isVoid tag = false)
    {attrs : List (String × String)} {children : List Display}
    (h : ∀ c ∈ children, c.VoidsEmpty) : (Display.element tag attrs children).VoidsEmpty :=
  .element (fun hvoid => absurd hvoid (by simp [htag])) h

theorem voidsEmpty_text (s : String) : ∀ c ∈ [Display.text s], c.VoidsEmpty :=
  List.forall_mem_singleton.2 (.text s)

theorem givesDisplay_of_outcome {x : Formatting DraftLeaf} {d : Display}
    (h : x.outcome = .ok (some (ofDisplay d))) (hd : d.VoidsEmpty) : GivesDisplay x :=
  ⟨some d, h, by rintro _ ⟨⟩; exact hd⟩

theorem voidsEmpty_of_mem_paragraphs {leaves : List Leaf}
    (h : ∀ d, some d ∈ leaves → d.VoidsEmpty) :
    ∀ d ∈ TicketMarkup.paragraphs leaves, d.VoidsEmpty := by
  intro d hd
  obtain ⟨group, hgroup, rfl⟩ := mem_paragraphs.1 hd
  exact voidsEmpty_element (by decide) fun e he => h e (mem_of_mem_groups hgroup he)

/-- The paragraphs of display nodes. -/
theorem paragraphs_map_ofDisplay (leaves : List Leaf) :
    paragraphs (leaves.map (Option.map ofDisplay)) =
      (TicketMarkup.paragraphs leaves).map ofDisplay := by
  rw [paragraphs, groups_map, TicketMarkup.paragraphs, List.map_map, List.map_map]
  exact List.map_congr_left fun group _ => (ofDisplay_plain "p" group).symm

/-! ## Nodes -/

theorem isVoid_headingTag (level : Int) : Html.isVoid (headingTag level) = false := by
  have hall : ∀ tag ∈ ["h1", "h2", "h3", "h4", "h5", "h6"], Html.isVoid tag = false := by decide
  exact hall _ (headingTag_mem level)

theorem isVoid_displayTag (style : Style) : Html.isVoid style.displayTag = false := by
  cases style <;> decide

/-- The attributes of a display element as those of a draft. -/
def draftAttrs (attrs : List (String × String)) : Fields := attrs.map fun a => (a.1, .str a.2)

theorem givesDisplay_text {tag : String} (htag : Html.isVoid tag = false)
    (attrs : List (String × String)) (s : String) :
    GivesDisplay (pure (some (.element tag (draftAttrs attrs) [.value (.str s)]))) :=
  givesDisplay_of_outcome (d := .element tag attrs [.text s]) rfl
    (voidsEmpty_element htag (voidsEmpty_text s))

/-- An element of the contents of a draft, put together. -/
theorem givesDisplay_flatten {x : Formatting (List (List DraftDisplay))} (hx : GivesContents x)
    {tag : String} (htag : Html.isVoid tag = false) (attrs : List (String × String)) :
    GivesDisplay (do
      let parts ← x
      return some (.element tag (draftAttrs attrs) parts.flatten)) := by
  obtain ⟨dss, hdss, hempty⟩ := hx
  refine givesDisplay_of_outcome (d := .element tag attrs dss.flatten) ?_
    (voidsEmpty_element htag fun d hd => ?_)
  · rw [Traced.outcome_bind, hdss, ofDisplay, ofDisplays_eq_map, List.map_flatten]
    rfl
  · obtain ⟨ds, hds, hd⟩ := List.mem_flatten.1 hd
    exact hempty ds hds d hd

/-- An element of the contents of a draft, an item each. -/
theorem givesDisplay_items {x : Formatting (List (List DraftDisplay))} (hx : GivesContents x)
    {tag : String} (htag : Html.isVoid tag = false) (attrs : List (String × String)) :
    GivesDisplay (do
      let items ← x
      return some (.element tag (draftAttrs attrs) (items.map (.plain "li")))) := by
  obtain ⟨dss, hdss, hempty⟩ := hx
  have hitems : (dss.map (List.map ofDisplay)).map (DraftDisplay.plain "li") =
      (dss.map (Display.plain "li")).map ofDisplay := by
    rw [List.map_map, List.map_map]
    exact List.map_congr_left fun ds _ => (ofDisplay_plain "li" ds).symm
  refine givesDisplay_of_outcome (d := .element tag attrs (dss.map (.plain "li"))) ?_
    (voidsEmpty_element htag fun d hd => ?_)
  · rw [Traced.outcome_bind, hdss, ofDisplay, ofDisplays_eq_map, ← hitems]
    rfl
  · obtain ⟨ds, hds, rfl⟩ := List.mem_map.1 hd
    exact voidsEmpty_element (by decide) (hempty ds hds)

/-- A draft of a kind is formatted to a display node if its sequences are. -/
theorem givesDisplay_node {ctx : Context} {kind : Kind} {fields : Fields}
    {content : List DraftSequence} (hfields : ∀ rule ∈ kind.rules, rule.HasType fields)
    (hblock : GivesContents (blockContents ctx content))
    (hinline : GivesContents (inlineContents ctx content)) :
    GivesDisplay ((Draft.node kind fields content).format ctx) := by
  cases kind <;> simp only [Kind.rules, List.forall_mem_cons, List.not_mem_nil, false_imp_iff,
    implies_true, and_true] at hfields <;> simp only [format]
  case heading =>
    obtain ⟨n, hn⟩ := exists_field_integer hfields.1 1
    obtain ⟨s, hs⟩ := exists_field_text hfields.2 ""
    rw [text, hs, hn]
    exact givesDisplay_text (isVoid_headingTag n) [] s
  case bulletList => exact givesDisplay_items hblock (by decide) []
  case numberedList =>
    exact givesDisplay_items hblock (by decide) [("start", (field "number" (.int 1) fields).text)]
  case quote => exact givesDisplay_flatten hblock (by decide) []
  case bold | italic | strike => exact givesDisplay_flatten hinline (isVoid_displayTag _) []
  case preformatted =>
    obtain ⟨s, hs⟩ := exists_field_text hfields.1 ""
    obtain ⟨language, hlanguage⟩ := exists_field_optionalText hfields.2
    rw [text, hs, hlanguage]
    exact givesDisplay_of_outcome (d := .codeBlock s language) rfl (.codeBlock s language)
  case code =>
    obtain ⟨s, hs⟩ := exists_field_text hfields ""
    rw [text, hs]
    exact givesDisplay_text (by decide) [] s
  case rule =>
    exact givesDisplay_of_outcome (d := .plain "hr" []) rfl (.element (fun _ => rfl) (by simp))
  case lineBreak =>
    exact givesDisplay_of_outcome (d := .plain "br" []) rfl (.element (fun _ => rfl) (by simp))
  case link =>
    obtain ⟨url, hurl⟩ := exists_field_text hfields.2.1 ""
    obtain ⟨s, hs⟩ := exists_field_text hfields.2.2 ""
    rw [text, hs, hurl]
    cases content with
    | nil => exact givesDisplay_text (by decide) [("href", url)] s
    | cons first rest => exact givesDisplay_flatten hinline (by decide) [("href", url)]
  case comment | ticket | commit | attachment =>
    obtain ⟨s, hs⟩ := exists_field_text hfields ""
    rw [text, hs]
    exact givesDisplay_text (by decide) [("href", ctx.address _)] s
  case mention =>
    obtain ⟨s, hs⟩ := exists_field_text hfields ""
    rw [text, hs]
    exact givesDisplay_of_outcome (d := .userLink s) rfl (.userLink s)
  case image =>
    exact givesDisplay_of_outcome (d := imageElement (field "url" (.str "") fields).text) rfl
      (.element (fun _ => rfl) (by simp))
  case paragraphBreak => exact ⟨none, rfl, by simp⟩
  case text =>
    obtain ⟨s, hs⟩ := exists_field_text hfields ""
    rw [text, hs]
    exact givesDisplay_of_outcome (d := .text s) rfl (.text s)

mutual

/-- A draft whose fields have their types is formatted to the draft of a display tree. -/
theorem givesDisplay_format (ctx : Context) :
    ∀ {d : Draft}, d.WellTyped → GivesDisplay (d.format ctx)
  | .str s, _ => givesDisplay_of_outcome (d := .text s) rfl (.text s)
  | .foreign _, h => h.elim
  | .unknown tag, h => by
    obtain ⟨s, rfl⟩ := h
    exact givesDisplay_of_outcome (d := unknownElement s) rfl
      (voidsEmpty_element (by decide) (voidsEmpty_text _))
  | .node _ _ _, h => by
    obtain ⟨hfields, hcontent⟩ := h
    exact givesDisplay_node hfields (givesContents ctx hcontent).1 (givesContents ctx hcontent).2

/-- Members whose fields have their types give leaves of a display tree. -/
theorem exists_leaves_ofDisplay (ctx : Context) :
    ∀ {members : List Draft}, MembersWellTyped members →
      ∃ found : List Leaf, (leaves ctx members).outcome = .ok (found.map (Option.map ofDisplay)) ∧
        ∀ d, some d ∈ found → d.VoidsEmpty
  | [], _ => ⟨[], rfl, by simp⟩
  | m :: rest, h => by
    obtain ⟨leaf, hleaf, hempty⟩ := givesDisplay_format ctx h.1
    obtain ⟨found, hfound, hfoundEmpty⟩ := exists_leaves_ofDisplay ctx h.2
    refine ⟨leaf :: found, ?_, fun d hd => ?_⟩
    · rw [leaves]
      simp only [Traced.outcome_bind, hleaf, hfound]
      rfl
    · rcases List.mem_cons.1 hd with hd | hd
      · exact hempty d hd.symm
      · exact hfoundEmpty d hd

/-- Content whose fields have their types gives display trees, in blocks as well as inline. -/
theorem givesDisplays_content (ctx : Context) :
    ∀ {c : DraftSequence}, SequenceWellTyped c →
      GivesDisplays (blockContent ctx c) ∧ GivesDisplays (inlineContent ctx c)
  | .text s, _ => ⟨⟨[.text s], rfl, voidsEmpty_text s⟩, [.text s], rfl, voidsEmpty_text s⟩
  | .nodes members, h => by
    obtain ⟨found, hfound, hempty⟩ := exists_leaves_ofDisplay ctx h
    refine ⟨⟨TicketMarkup.paragraphs found, ?_, voidsEmpty_of_mem_paragraphs hempty⟩,
      withoutMarks found, ?_, fun d hd => hempty d (mem_withoutMarks.1 hd)⟩
    · rw [outcome_blockContent_nodes, hfound, Except.map, paragraphs_map_ofDisplay]
    · rw [outcome_inlineContent_nodes, hfound, Except.map, withoutMarks_map]
  | .value _, h => h.elim

theorem givesContents (ctx : Context) :
    ∀ {cs : List DraftSequence}, ContentWellTyped cs →
      GivesContents (blockContents ctx cs) ∧ GivesContents (inlineContents ctx cs)
  | [], _ => ⟨⟨[], rfl, by simp⟩, [], rfl, by simp⟩
  | c :: rest, h => by
    obtain ⟨⟨block, hblock, hblockEmpty⟩, inline, hinline, hinlineEmpty⟩ :=
      givesDisplays_content ctx h.1
    obtain ⟨⟨blocks, hblocks, hblocksEmpty⟩, inlines, hinlines, hinlinesEmpty⟩ :=
      givesContents ctx h.2
    refine ⟨⟨block :: blocks, ?_, ?_⟩, inline :: inlines, ?_, ?_⟩
    · simp only [blockContents, Traced.outcome_bind, hblock, hblocks]
      rfl
    · exact List.forall_mem_cons.2 ⟨hblockEmpty, hblocksEmpty⟩
    · simp only [inlineContents, Traced.outcome_bind, hinline, hinlines]
      rfl
    · exact List.forall_mem_cons.2 ⟨hinlineEmpty, hinlinesEmpty⟩

end

/-- Siblings that are well typed are formatted to display nodes. -/
theorem exists_blockContent {ctx : Context} {members : List Draft} (h : MembersWellTyped members) :
    ∃ ds : List Display,
      (blockContent ctx (.nodes members)).outcome = .ok (ofDisplays ds) ∧
        ∀ d ∈ ds, d.VoidsEmpty := by
  obtain ⟨⟨ds, hds, hempty⟩, -⟩ := givesDisplays_content ctx (c := .nodes members) h
  exact ⟨ds, by rw [hds, ofDisplays_eq_map], hempty⟩

end Draft

end TicketMarkup
