import TicketMarkup.Proofs.Draft.Siblings
import TicketMarkup.Proofs.Format.Links

/-!
# The address of the tracker in drafts

Drafts are filled in from templates as nodes are (`Draft.filledIn_format`). Whether formatting
fails, with which fault, and which records it leaves is the same for all addresses, because the step
that is filled in does not know the address (`FilledIn`).
-/

namespace TicketMarkup

namespace Traced

variable {ρ ε α β γ : Type}

/-- A step with its result changed. -/
def map (f : α → β) (x : Traced ρ ε α) : Traced ρ ε β := ⟨x.records, x.outcome.map f⟩

theorem bind_map (x : Traced ρ ε α) (f : β → γ) (k : α → Traced ρ ε β) :
    (x >>= fun a => (k a).map f) = (x >>= k).map f := by
  show andThen x _ = (andThen x k).map f
  unfold andThen
  cases x.outcome <;> rfl

theorem map_bind (x : Traced ρ ε α) (f : α → β) (k : β → Traced ρ ε γ) :
    x.map f >>= k = x >>= fun a => k (f a) := by
  show andThen (x.map f) k = andThen x _
  unfold andThen map
  cases x.outcome <;> rfl

/-- What is done after a step matters only for the values that the step gives. -/
theorem bind_congr {x : Traced ρ ε α} {k k' : α → Traced ρ ε β}
    (h : ∀ a, x.outcome = .ok a → k a = k' a) : x >>= k = x >>= k' := by
  show andThen x k = andThen x k'
  unfold andThen
  split
  next a ha => rw [h a ha]
  next => rfl

end Traced

namespace Draft

open Template (fill targetsIn)

/-! ## Steps that are filled in -/

section Steps

variable {α β γ δ : Type}

/-- Whether a step for each address is one step for all of them whose result, which is good, is
filled in with the address. -/
def FilledIn (fill : Json → β → α) (good : β → Prop) (x : Json → Formatting α) : Prop :=
  ∃ y : Formatting β, (∀ base, x base = y.map (fill base)) ∧ ∀ b, y.outcome = .ok b → good b

variable {fill : Json → β → α} {good : β → Prop} {x : Json → Formatting α}
  {fill' : Json → δ → γ} {good' : δ → Prop}

theorem filledIn_pure (b : β) (hb : good b) (h : ∀ base, x base = pure (fill base b)) :
    FilledIn fill good x := by
  refine ⟨pure b, h, ?_⟩
  rintro _ ⟨⟩
  exact hb

/-- A fault is the same whatever the address. -/
theorem filledIn_fail (fault : DraftFault) (h : ∀ base, x base = Traced.fail fault) :
    FilledIn fill good x :=
  ⟨Traced.fail fault, h, fun _ hb => nomatch hb⟩

/-- Two steps that are filled in one after the other are filled in together. -/
theorem FilledIn.bind (hx : FilledIn fill good x) {k : Json → α → Formatting γ}
    (hk : ∀ b, good b → FilledIn fill' good' fun base => k base (fill base b)) :
    FilledIn fill' good' fun base => x base >>= k base := by
  obtain ⟨y, hy, hgood⟩ := hx
  -- What follows a result that is not good never runs.
  have hsteps : ∀ b, ∃ z : Formatting δ, good b →
      (∀ base, k base (fill base b) = z.map (fill' base)) ∧ ∀ d, z.outcome = .ok d → good' d := by
    intro b
    by_cases hb : good b
    · obtain ⟨z, hz⟩ := hk b hb
      exact ⟨z, fun _ => hz⟩
    · exact ⟨Traced.fail (.notNode ""), fun h => absurd h hb⟩
  obtain ⟨z, hz⟩ := Classical.skolem.1 hsteps
  refine ⟨y >>= z, fun base => ?_, fun d hd => ?_⟩
  · show x base >>= k base = _
    rw [hy, Traced.map_bind, ← Traced.bind_map]
    exact Traced.bind_congr fun b hb => (hz b (hgood b hb)).1 base
  · obtain ⟨b, hb, hd⟩ := Traced.outcome_bind_eq_ok_iff.1 hd
    exact (hz b (hgood b hb)).2 d hd

/-- A step that does not look at the address. -/
theorem filledIn_const (good : α → Prop) (y : Formatting α)
    (hgood : ∀ a, y.outcome = .ok a → good a) :
    FilledIn (fun _ a => a) good fun _ => y := by
  refine ⟨y, fun _ => ?_, hgood⟩
  obtain ⟨records, outcome⟩ := y
  cases outcome <;> rfl

end Steps

/-- Whether a step gives a leaf that is filled in from a template with some targets. -/
abbrev LeafFilledIn (ts : List LinkTarget) (x : Json → Formatting DraftLeaf) : Prop :=
  FilledIn (fun base => Option.map (fill base))
    (fun t : Option Template => targetsIn t.toList = ts) x

/-- Whether a step gives displays that are filled in from templates with some targets. -/
abbrev AllFilledIn (ts : List LinkTarget) (x : Json → Formatting (List DraftDisplay)) : Prop :=
  FilledIn (fun base => List.map (fill base)) (fun t : List Template => targetsIn t = ts) x

/-- Whether a step gives lists of displays that are filled in from templates with some targets. -/
abbrev ContentsFilledIn (ts : List LinkTarget) (x : Json → Formatting (List (List DraftDisplay))) :
    Prop :=
  FilledIn (fun base => List.map (List.map (fill base)))
    (fun t : List (List Template) => targetsIn t.flatten = ts) x

/-! ## Targets of drafts -/

mutual

/-- The targets of the links that a draft makes, in order. -/
def targets (ticket : Json) : Draft → List LinkTarget
  | .node kind fields content =>
    match kind with
    | .link => .url (field "url" (.str "") fields) :: contentTargets ticket content
    | .comment =>
      [.place (commentPath (field "ticket" .null fields) (field "comment" .null fields))]
    | .ticket => [.place (Target.ticket.path (field "id" .null fields))]
    | .commit => [.place (Target.commit.path (field "id" .null fields))]
    | .attachment =>
      [attachmentPlace ticket (field "ticket" .null fields) (field "id" .null fields)]
    | .bulletList | .numberedList | .quote | .bold | .italic | .strike =>
      contentTargets ticket content
    | _ => []
  | _ => []

/-- The targets of the links that drafts make, in order. -/
def memberTargets (ticket : Json) : List Draft → List LinkTarget
  | [] => []
  | d :: rest => d.targets ticket ++ memberTargets ticket rest

/-- The targets of the links in a sequence of drafts, or in what stands in its place. -/
def sequenceTargets (ticket : Json) : DraftSequence → List LinkTarget
  | .nodes members => memberTargets ticket members
  | _ => []

/-- The targets of the links in sequences, in order. -/
def contentTargets (ticket : Json) : List DraftSequence → List LinkTarget
  | [] => []
  | s :: rest => sequenceTargets ticket s ++ contentTargets ticket rest

end

/-! ## Values in place of sequences -/

theorem leafFilledIn_pure {ts : List LinkTarget} {x : Json → Formatting DraftLeaf}
    (t : Template) (ht : t.targets = ts) (h : ∀ base, x base = pure (some (t.fill base))) :
    LeafFilledIn ts x :=
  filledIn_pure (some t) (by simp [ht]) h

theorem filledIn_placeholder (tag : Json) :
    FilledIn fill (fun t : Template => t.targets = []) fun _ => placeholder tag :=
  .bind (filledIn_const (fun _ => True) (Traced.leave (.unknownKind tag)) fun _ _ => trivial)
    fun _ _ => filledIn_pure
      (.element "span" (by decide) [("class", .str "unknown-node")]
        [.value (.str ("Unknown type " ++ tag.text))]) rfl fun _ => rfl

theorem allFilledIn_inlineMembers (items : List Json) :
    AllFilledIn [] fun _ => inlineMembers items := by
  induction items with
  | nil => exact filledIn_pure [] rfl fun _ => rfl
  | cons v rest ih =>
    cases v
    case str s =>
      refine .bind ih fun ts hts => ?_
      exact filledIn_pure (.value (.str s) :: ts) hts fun _ => rfl
    all_goals
      refine .bind (filledIn_placeholder _) fun t ht => .bind ih fun ts hts => ?_
      exact filledIn_pure (t :: ts) (by rw [targetsIn, ht, hts]; rfl) fun _ => rfl

theorem allFilledIn_inlineValue (v : Json) : AllFilledIn [] fun _ => inlineValue v := by
  cases v
  case str s => exact filledIn_pure [.value (.str s)] rfl fun _ => rfl
  case arr items => exact allFilledIn_inlineMembers items
  case obj fields => exact allFilledIn_inlineMembers _
  all_goals exact filledIn_fail _ fun _ => rfl

/-! ## Kinds -/

section Kinds

variable {ticket : Json} {ts : List LinkTarget} {content : List DraftSequence}

theorem levelTag_ne_link {v : Json} {tag : String} (h : levelTag v = .ok tag) : tag ≠ "a" := by
  have hnumber : ∀ s : String, "h" ++ s ≠ "a" := by
    intro s hs
    have hhead := congrArg (fun t => t.toList.head?) hs
    simp at hhead
  unfold levelTag at h
  split at h
  · cases h
    exact headingTag_ne_link _
  · cases h
    exact headingTag_ne_link 1
  · cases h
    split
    · split
      · exact hnumber _
      · exact headingTag_ne_link 1
    · exact headingTag_ne_link 6
  · cases h

/-- An element, no link, of the contents of a draft put together. -/
theorem leafFilledIn_flatten {x : Json → Formatting (List (List DraftDisplay))}
    (hx : ContentsFilledIn ts x) {tag : String} (not_link : tag ≠ "a") :
    LeafFilledIn ts fun base => do
      let parts ← x base
      return some (.plain tag parts.flatten) :=
  .bind hx fun parts hparts =>
    leafFilledIn_pure (.element tag not_link [] parts.flatten) hparts fun base => by
      rw [fill, Template.fillAll_eq_map, List.map_flatten]
      rfl

/-- An element, no link, with the contents of a draft as items. -/
theorem leafFilledIn_items {x : Json → Formatting (List (List DraftDisplay))}
    (hx : ContentsFilledIn ts x) {tag : String} (not_link : tag ≠ "a") (attrs : Fields) :
    LeafFilledIn ts fun base => do
      let items ← x base
      return some (.element tag attrs (items.map (.plain "li"))) :=
  .bind hx fun items hitems =>
    leafFilledIn_pure
      (.element tag not_link attrs (items.map (Template.element "li" (by decide) [])))
      (by rw [Template.targets_element, Template.targetsIn_map_element, hitems]) fun base => by
        rw [fill, Template.fillAll_eq_map, Template.map_fill_element]

/-- A draft of a kind is filled in if its sequences are. -/
theorem leafFilledIn_node (kind : Kind) (fields : Fields)
    (hblock : ContentsFilledIn (contentTargets ticket content) fun base =>
      blockContents ⟨ticket, base⟩ content)
    (hinline : ContentsFilledIn (contentTargets ticket content) fun base =>
      inlineContents ⟨ticket, base⟩ content) :
    LeafFilledIn ((Draft.node kind fields content).targets ticket) fun base =>
      (Draft.node kind fields content).format ⟨ticket, base⟩ := by
  cases kind <;> simp only [format, targets]
  case heading =>
    refine .bind (filledIn_const (· ≠ "a") _ fun tag => levelTag_ne_link) fun tag htag => ?_
    exact leafFilledIn_pure (.element tag htag [] [.value (text fields)]) rfl fun _ => rfl
  case bulletList => exact leafFilledIn_items hblock (by decide) []
  case numberedList => exact leafFilledIn_items hblock (by decide) _
  case quote => exact leafFilledIn_flatten hblock (by decide)
  case bold | italic | strike => exact leafFilledIn_flatten hinline (by decide)
  case preformatted =>
    exact leafFilledIn_pure (.codeBlock (text fields) (field "language" .null fields)) rfl
      fun _ => rfl
  case code =>
    exact leafFilledIn_pure (.element "code" (by decide) [] [.value (text fields)]) rfl fun _ => rfl
  case rule => exact leafFilledIn_pure (.element "hr" (by decide) [] []) rfl fun _ => rfl
  case lineBreak => exact leafFilledIn_pure (.element "br" (by decide) [] []) rfl fun _ => rfl
  case link =>
    refine .bind hinline fun parts hparts => ?_
    have hlabel : ∀ base, fill base (.link (.url (field "url" (.str "") fields)) parts.flatten) =
        .element "a" [("href", field "url" (.str "") fields)]
          (parts.map (List.map (fill base))).flatten := fun base => by
      rw [fill, Template.fillAll_eq_map, List.map_flatten]
      rfl
    cases content with
    | nil =>
      refine .bind (allFilledIn_inlineValue (text fields)) fun shown hshown => ?_
      exact leafFilledIn_pure (.link (.url _) shown) (by rw [Template.targets_link, hshown]; rfl)
        fun base => by rw [fill, Template.fillAll_eq_map]; rfl
    | cons first rest =>
      exact leafFilledIn_pure (.link (.url _) parts.flatten) (by rw [Template.targets_link, hparts])
        fun base => by rw [hlabel]; rfl
  case comment | ticket | commit | attachment =>
    exact leafFilledIn_pure (.link (.place _) [.value (text fields)]) rfl fun _ => rfl
  case mention => exact leafFilledIn_pure (.userLink (text fields)) rfl fun _ => rfl
  case image =>
    exact leafFilledIn_pure (.element "img" (by decide) [("alt", .str ""), ("src", .str _)] []) rfl
      fun _ => rfl
  case paragraphBreak => exact filledIn_pure none rfl fun _ => rfl
  case text => exact leafFilledIn_pure (.value (text fields)) rfl fun _ => rfl

end Kinds

/-! ## Drafts -/

theorem filledIn_withoutBreaks {ts : List LinkTarget} {leaves : List (Option Template)}
    (h : targetsIn (withoutMarks leaves) = ts) :
    AllFilledIn ts fun base => withoutBreaks (leaves.map (Option.map (fill base))) := by
  have hmarks : ∀ base, (leaves.map (Option.map (fill base))).countP Option.isNone =
      leaves.countP Option.isNone := fun base => by
    rw [List.countP_map]
    exact List.countP_congr fun leaf _ => by cases leaf <;> simp
  simp only [withoutBreaks, hmarks, withoutMarks_map]
  cases leaves.countP Option.isNone with
  | zero => exact filledIn_pure (withoutMarks leaves) h fun _ => rfl
  | succ n =>
    exact .bind (filledIn_const (fun _ => True) (Traced.leave _) fun _ _ => trivial)
      fun _ _ => filledIn_pure (withoutMarks leaves) h fun _ => rfl

mutual

/-- Every draft is filled in from one template for all addresses, if it is formatted at all. -/
theorem filledIn_format (ticket : Json) :
    ∀ d : Draft, LeafFilledIn (d.targets ticket) fun base => d.format ⟨ticket, base⟩
  | .str s => leafFilledIn_pure (.value (.str s)) rfl fun _ => rfl
  | .foreign className => by
    refine .bind (filledIn_placeholder (.str className)) fun t ht => ?_
    exact leafFilledIn_pure t ht fun _ => rfl
  | .unknown tag => by
    refine .bind (filledIn_placeholder tag) fun t ht => ?_
    exact leafFilledIn_pure t ht fun _ => rfl
  | .node kind fields content =>
    leafFilledIn_node kind fields (filledIn_contents ticket content).1
      (filledIn_contents ticket content).2

/-- The leaves of members are filled in with the targets of these. -/
theorem filledIn_leaves (ticket : Json) :
    ∀ members : List Draft,
      FilledIn (fun base => List.map (Option.map (fill base)))
        (fun ts : List (Option Template) =>
          targetsIn (withoutMarks ts) = memberTargets ticket members)
        fun base => leaves ⟨ticket, base⟩ members
  | [] => filledIn_pure [] rfl fun _ => rfl
  | m :: rest => by
    refine .bind (filledIn_format ticket m) fun t ht => ?_
    refine .bind (filledIn_leaves ticket rest) fun ts hts => ?_
    refine filledIn_pure (t :: ts) ?_ fun _ => rfl
    rw [withoutMarks_cons, Template.targetsIn_append, ht, hts, memberTargets]

/-- What stands for content is filled in, in blocks as well as inline. -/
theorem filledIn_content (ticket : Json) :
    ∀ s : DraftSequence,
      (AllFilledIn (sequenceTargets ticket s) fun base => blockContent ⟨ticket, base⟩ s) ∧
        AllFilledIn (sequenceTargets ticket s) fun base => inlineContent ⟨ticket, base⟩ s
  | .text s =>
    ⟨filledIn_pure [.value (.str s)] rfl fun _ => rfl,
      filledIn_pure [.value (.str s)] rfl fun _ => rfl⟩
  | .nodes members => by
    refine ⟨.bind (filledIn_leaves ticket members) fun ts hts => ?_,
      .bind (filledIn_leaves ticket members) fun ts hts => filledIn_withoutBreaks hts⟩
    refine filledIn_pure (Template.paragraphs ts) ((Template.targetsIn_paragraphs ts).trans hts)
      fun base => ?_
    rw [Template.fill_paragraphs]
  | .value v => ⟨filledIn_fail _ fun _ => rfl, filledIn_fail _ fun _ => rfl⟩

theorem filledIn_contents (ticket : Json) :
    ∀ content : List DraftSequence,
      (ContentsFilledIn (contentTargets ticket content) fun base =>
          blockContents ⟨ticket, base⟩ content) ∧
        ContentsFilledIn (contentTargets ticket content) fun base =>
          inlineContents ⟨ticket, base⟩ content
  | [] => ⟨filledIn_pure [] rfl fun _ => rfl, filledIn_pure [] rfl fun _ => rfl⟩
  | s :: rest => by
    obtain ⟨hblock, hinline⟩ := filledIn_content ticket s
    obtain ⟨hblocks, hinlines⟩ := filledIn_contents ticket rest
    have hflatten : ∀ t ts, targetsIn t = sequenceTargets ticket s →
        targetsIn (List.flatten ts) = contentTargets ticket rest →
        targetsIn (List.flatten (t :: ts)) = contentTargets ticket (s :: rest) := by
      intro t ts ht hts
      rw [List.flatten_cons, Template.targetsIn_append, ht, hts, contentTargets]
    exact ⟨.bind hblock fun t ht => .bind hblocks fun ts hts =>
        filledIn_pure (t :: ts) (hflatten t ts ht hts) fun _ => rfl,
      .bind hinline fun t ht => .bind hinlines fun ts hts =>
        filledIn_pure (t :: ts) (hflatten t ts ht hts) fun _ => rfl⟩

end

end Draft

open Template (fill targetsIn)

/-- For every ticket, nodes and drafts are filled in from one template for all addresses of the
tracker, as paragraphs and as inline content. The links of the template lead where those of the
nodes do, in order: to addresses of their own, or to places in the tracker. Drafts that cannot be
formatted fail alike for all addresses, and the records are the same. -/
theorem base_only_in_links (ticket : Json) :
    (∀ nodes : List Node,
      (∃ ts, targetsIn ts = nodeTargets ticket nodes ∧
        ∀ base, (format ⟨ticket, base⟩ nodes).map DraftDisplay.ofDisplay = ts.map (fill base)) ∧
      ∃ ts, targetsIn ts = nodeTargets ticket nodes ∧
        ∀ base, (formatInline ⟨ticket, base⟩ nodes).map DraftDisplay.ofDisplay =
          ts.map (fill base)) ∧
    ∀ s : DraftSequence,
      (∃ step : Formatting (List Template),
        (∀ base, Draft.blockContent ⟨ticket, base⟩ s = step.map (List.map (fill base))) ∧
        ∀ ts, step.outcome = .ok ts → targetsIn ts = Draft.sequenceTargets ticket s) ∧
      ∃ step : Formatting (List Template),
        (∀ base, Draft.inlineContent ⟨ticket, base⟩ s = step.map (List.map (fill base))) ∧
        ∀ ts, step.outcome = .ok ts → targetsIn ts = Draft.sequenceTargets ticket s :=
  ⟨fun _ => ⟨exists_template_format fun n _ => n.hasTemplate ticket,
    exists_template_formatInline fun n _ => n.hasTemplate ticket⟩,
    Draft.filledIn_content ticket⟩

end TicketMarkup
