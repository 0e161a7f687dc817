import TicketMarkup.Proofs.Format.Tickets
import TicketMarkup.Rendering

/-!
# The ticket of a text

The attachments of a text that name no ticket belong to the ticket of the text. This is the ticket
among the options, or else the one that the document names, or else zero (`effectiveTicket`); a
ticket counts as given unless it is null, so that zero or an empty one takes precedence as well.

Main statement: `render_of_effectiveTicket`, rendering depends on the options' and the document's
ticket through that ticket alone, and through the attachments alone: once these name it, the other
two may be any.
-/

namespace TicketMarkup

/-! ## Documents -/

/-- The fields without those of a key. -/
def Fields.erase (key : String) (fields : Fields) : Fields := fields.filter fun f => f.1 ≠ key

/-- Erasing a field leaves the others. -/
theorem Fields.get?_erase_of_ne {key k : String} (h : k ≠ key) (fields : Fields) :
    Fields.get? k (Fields.erase key fields) = Fields.get? k fields := by
  induction fields with
  | nil => rfl
  | cons f rest ih =>
    obtain ⟨l, v⟩ := f
    rw [Fields.erase, List.filter_cons]
    split
    next => rw [Fields.get?, Fields.get?, ← Fields.erase, ih]
    next hl =>
      have hlk : l ≠ k := fun hlk => hl (by simpa [hlk] using h)
      rw [Fields.get?, if_neg hlk, ← Fields.erase, ih]

/-- The ticket that a document names, null if it names none. -/
def documentTicket : Json → Json
  | .obj fields => idField "ticket" fields
  | _ => .null

/-- The ticket of a text: a ticket given for it, or else the one that its document names, or else
zero. -/
def effectiveTicket (given data : Json) : Json :=
  if given ≠ .null then given
  else if documentTicket data ≠ .null then documentTicket data else .int 0

/-- Gives the attachments in a document that name no ticket a ticket. -/
def assignTickets (ticket : Json) : Json → Json
  | .obj fields => .obj (Fields.adjust "nodes" (assignSequence ticket) fields)
  | v => assignSequence ticket v

/-- Replaces the ticket that a document names, or removes it. A sequence of nodes names none. -/
def replaceTicket (own : Option Json) : Json → Json
  | .obj fields =>
    match own with
    | some ticket => .obj (Fields.insert "ticket" ticket fields)
    | none => .obj (Fields.erase "ticket" fields)
  | v => v

/-- The nodes of a document do not depend on the ticket that it names. -/
theorem outcome_loadDocument_replaceTicket (limit : Int) (own : Option Json) (data : Json) :
    (loadDocument limit (replaceTicket own data)).outcome.map Document.nodes =
      (loadDocument limit data).outcome.map Document.nodes := by
  cases data with
  | obj fields =>
    obtain ⟨fields', hreplace, hnodes⟩ : ∃ fields', replaceTicket own (.obj fields) = .obj fields' ∧
        Fields.get? "nodes" fields' = Fields.get? "nodes" fields := by
      cases own with
      | none => exact ⟨_, rfl, Fields.get?_erase_of_ne (by decide) fields⟩
      | some ticket => exact ⟨_, rfl, by rw [Fields.get?_insert, if_neg (by decide)]⟩
    rw [hreplace, loadDocument, loadDocument, hnodes]
    cases Fields.get? "nodes" fields with
    | none => rfl
    | some v =>
      simp only [Traced.outcome_bind, Traced.outcome_pure]
      cases (loadSequence limit 0 [.nodes] v).outcome <;> rfl
  | _ => rfl

/-- A document whose attachments were given a ticket has the nodes of the document, with the
attachments given that ticket. -/
theorem outcome_loadDocument_assignTickets (limit : Int) (ticket data : Json) :
    (loadDocument limit (assignTickets ticket data)).outcome =
      (loadDocument limit data).outcome.map fun d => ⟨Node.assignAll ticket d.nodes, d.ticket⟩ := by
  cases data with
  | obj fields =>
    have hticket : idField "ticket" (Fields.adjust "nodes" (assignSequence ticket) fields) =
        idField "ticket" fields :=
      idField_congr (Fields.get?_adjust_of_ne (by decide) _ _)
    rw [assignTickets, loadDocument, loadDocument, Fields.get?_adjust_self, hticket]
    cases Fields.get? "nodes" fields with
    | none => rfl
    | some v => exact Traced.outcome_bind_map outcome_loadSequence_assign fun nodes => rfl
  | arr vs => exact Traced.outcome_bind_map outcome_loadSequence_assign fun nodes => rfl
  | _ => rfl

/-- A loaded document belongs to the ticket that it names. -/
theorem ticket_of_loadDocument {limit : Int} {data : Json} {d : Document}
    (h : (loadDocument limit data).outcome = .ok d) : d.ticket = documentTicket data := by
  cases data with
  | obj fields =>
    rw [loadDocument] at h
    cases hnodes : Fields.get? "nodes" fields with
    | none => simp [hnodes] at h
    | some v =>
      simp only [hnodes] at h
      obtain ⟨nodes, -, hd⟩ := Traced.outcome_bind_eq_ok_iff.1 h
      cases hd
      rfl
  | _ =>
    obtain ⟨nodes, -, hd⟩ := Traced.outcome_bind_eq_ok_iff.1 h
    cases hd
    rfl

/-! ## Rendering -/

namespace Rendering

theorem base_context (r : Rendering) (d : Document) : (r.context d).base = .str r.base := rfl

/-- The ticket of a text is the one that formatting falls back on. -/
theorem attachmentTicket_context (r : Rendering) {data : Json} {d : Document}
    (h : d.ticket = documentTicket data) :
    attachmentTicket (r.context d) .null = effectiveTicket r.ticket data := by
  simp only [attachmentTicket, context, effectiveTicket, h]
  split
  · contradiction
  · by_cases hr : r.ticket = .null <;> simp [hr]

/-- A display tree is made of what is loaded and of the context that it has. -/
theorem display_eq_map (r : Rendering) (data : Json) :
    r.display data =
      (loadDocument r.limit data).outcome.map fun d => format (r.context d) d.nodes := by
  unfold display
  cases (loadDocument r.limit data).outcome <;> rfl

/-- The display tree of markup whose attachments were given the ticket of the text. -/
theorem display_assignTickets (r : Rendering) (ticket : Json) (own : Option Json) (data : Json) :
    { r with ticket := ticket }.display
        (replaceTicket own (assignTickets (effectiveTicket r.ticket data) data)) =
      r.display data := by
  have hnodes := outcome_loadDocument_replaceTicket r.limit own
    (assignTickets (effectiveTicket r.ticket data) data)
  rw [outcome_loadDocument_assignTickets] at hnodes
  rw [display_eq_map, display_eq_map]
  -- Both documents are loaded or neither is, and if they are, only their nodes count.
  generalize (loadDocument r.limit (replaceTicket own
    (assignTickets (effectiveTicket r.ticket data) data))).outcome = given at hnodes ⊢
  cases hd : (loadDocument r.limit data).outcome <;> rw [hd] at hnodes <;> cases given <;>
    simp only [Except.map, Except.ok.injEq, Except.error.injEq, reduceCtorEq] at hnodes ⊢
  case error.error => exact hnodes
  case ok.ok d d' =>
    have hticket := r.attachmentTicket_context (ticket_of_loadDocument hd)
    have hbase : (context { r with ticket := ticket } d').base = (r.context d).base := by
      rw [base_context, base_context]
    rw [hnodes, ← hticket, format_assignAll hbase]

/-- Where a ticket is given for the text, the ticket that the document names does not matter. -/
theorem display_replaceTicket {r : Rendering} (h : r.ticket ≠ .null) (own : Option Json)
    (data : Json) : r.display (replaceTicket own data) = r.display data := by
  have hcontext : ∀ d, r.context d = ⟨r.ticket, .str r.base⟩ := fun d => by rw [context, if_pos h]
  have hdisplay : ∀ v, r.display v = ((loadDocument r.limit v).outcome.map Document.nodes).map
      (format ⟨r.ticket, .str r.base⟩) := by
    intro v
    rw [display_eq_map]
    simp only [hcontext]
    cases (loadDocument r.limit v).outcome <;> rfl
  rw [hdisplay, hdisplay, outcome_loadDocument_replaceTicket]

/-- The text of markup whose attachments were given the ticket of the text. -/
theorem render_assignTickets (r : Rendering) (ticket : Json) (own : Option Json) (data : Json) :
    { r with ticket := ticket }.render
        (replaceTicket own (assignTickets (effectiveTicket r.ticket data) data)) =
      r.render data := by
  rw [render, render, display_assignTickets]

/-- The ticket among the options is that of the rendering, which does not depend on it otherwise. -/
theorem ofOptions_ticket (options : Options) (settings : Settings) (ticket : Json) :
    ofOptions { options with ticket := ticket } settings =
      (ofOptions options settings).map fun r => { r with ticket := ticket } := by
  unfold ofOptions
  cases OutputFormat.ofName (Options.textOr options.format settings.format) <;> rfl

/-- The ticket of a rendering is that of the options. -/
theorem ticket_of_ofOptions {options : Options} {settings : Settings} {r : Rendering}
    (h : ofOptions options settings = .ok r) : r.ticket = options.ticket := by
  unfold ofOptions at h
  split at h
  next => cases h
  next =>
    cases h
    rfl

/-- What options make of markup, they make with any ticket of the markup whose attachments were
given the ticket of the text. -/
theorem map_render_assignTickets (options : Options) (settings : Settings) (ticket : Json)
    (own : Option Json) (data : Json) :
    (ofOptions options settings).map (fun r => r.render data) =
      (ofOptions { options with ticket := ticket } settings).map fun r =>
        r.render (replaceTicket own
          (assignTickets (effectiveTicket options.ticket data) data)) := by
  rw [ofOptions_ticket options settings ticket]
  cases h : ofOptions options settings with
  | error e => rfl
  | ok r =>
    rw [← ticket_of_ofOptions h]
    exact congrArg Except.ok (r.render_assignTickets ticket own data).symm

end Rendering

/-- Rendering depends on the tickets that the options and the document name only through the ticket
of the text, which attachments that name none belong to: once these were given it, the other two may
be any. Where every attachment names its ticket, the other two do not matter at all, and where the
options name one, be it zero, that of the document does not matter. -/
theorem render_of_effectiveTicket :
    (∀ options settings ticket own data,
      (Rendering.ofOptions options settings).map (fun r => r.render data) =
        (Rendering.ofOptions { options with ticket := ticket } settings).map fun r =>
          r.render (replaceTicket own
            (assignTickets (effectiveTicket options.ticket data) data))) ∧
    (∀ options settings ticket own data, (∀ t, assignTickets t data = data) →
      (Rendering.ofOptions options settings).map (fun r => r.render data) =
        (Rendering.ofOptions { options with ticket := ticket } settings).map fun r =>
          r.render (replaceTicket own data)) ∧
    ∀ options settings own data, options.ticket ≠ .null →
      (Rendering.ofOptions options settings).map (fun r => r.render data) =
        (Rendering.ofOptions options settings).map fun r => r.render (replaceTicket own data) := by
  refine ⟨Rendering.map_render_assignTickets, fun options settings ticket own data hdata => ?_,
    fun options settings own data hticket => ?_⟩
  · rw [Rendering.map_render_assignTickets options settings ticket own data, hdata]
  · cases h : Rendering.ofOptions options settings with
    | error e => rfl
    | ok r =>
      have hr : r.ticket ≠ .null := by rwa [Rendering.ticket_of_ofOptions h]
      simp only [Except.map, Rendering.render, Rendering.display_replaceTicket hr]

/-- Zero among the options takes precedence over the ticket of a document, but not over the one of
an attachment; a ticket that an attachment names is never replaced, even if it is false. -/
theorem render_of_effectiveTicket_zero :
    ((Rendering.ofOptions { format := some "text", base := some "b", ticket := .int 0 }
        .default).map (fun r => r.render (.obj [("ticket", .int 7), ("nodes", .arr
          [.obj [("type", .str "bold"), ("children", .arr
            [.obj [("type", .str "attachment"), ("id", .int 1)],
              .obj [("type", .str "attachment"), ("id", .int 2), ("ticket", .int 5)]])]])])) =
        .ok (.ok "**[](b/attachment/ticket/0/1)[](b/attachment/ticket/5/2)**") ∧
      (Rendering.ofOptions { format := some "text", base := some "b", ticket := .int 9 }
        .default).map (fun r => r.render (.obj [("nodes", .arr
          [.obj [("type", .str "bold"), ("children", .arr
            [.obj [("type", .str "attachment"), ("id", .int 1), ("ticket", .int 0)],
              .obj [("type", .str "attachment"), ("id", .int 2), ("ticket", .int 5)]])]])])) =
        .ok (.ok "**[](b/attachment/ticket/0/1)[](b/attachment/ticket/5/2)**")) ∧
    ((∀ t, assignTickets t (.arr [.obj [("type", .str "attachment"), ("ticket", .bool false)]]) =
        .arr [.obj [("type", .str "attachment"), ("ticket", .bool false)]]) ∧
      (Rendering.ofOptions { base := some "b", ticket := .int 9 } .default).map (fun r =>
          r.render (.arr [.obj [("type", .str "attachment"), ("ticket", .bool false)]])) =
        (Rendering.ofOptions { base := some "b" } .default).map fun r =>
          r.render (.arr [.obj [("type", .str "attachment"), ("ticket", .bool false)]])) ∧
    (Json.int 0 ≠ .null ∧
      (Rendering.ofOptions { ticket := .int 0 } .default).map (fun r =>
          r.render (.obj [("nodes", .arr [.obj [("type", .str "attachment")]])])) =
        (Rendering.ofOptions { ticket := .int 0 } .default).map fun r =>
          r.render (.obj [("nodes", .arr [.obj [("type", .str "attachment")]]),
            ("ticket", .int 7)])) := by
  have hzero := render_of_effectiveTicket.1 ⟨some "text", some "b", none, .int 0, none⟩ .default
    (.int 9) none (.obj [("ticket", .int 7), ("nodes", .arr
      [.obj [("type", .str "bold"), ("children", .arr
        [.obj [("type", .str "attachment"), ("id", .int 1)],
          .obj [("type", .str "attachment"), ("id", .int 2), ("ticket", .int 5)]])]])])
  have hrendered : (Rendering.ofOptions ⟨some "text", some "b", none, .int 0, none⟩ .default).map
      (fun r => r.render (.obj [("ticket", .int 7), ("nodes", .arr
        [.obj [("type", .str "bold"), ("children", .arr
          [.obj [("type", .str "attachment"), ("id", .int 1)],
            .obj [("type", .str "attachment"), ("id", .int 2), ("ticket", .int 5)]])]])])) =
      .ok (.ok "**[](b/attachment/ticket/0/1)[](b/attachment/ticket/5/2)**") := rfl
  have hnamed : ∀ t,
      assignTickets t (.arr [.obj [("type", .str "attachment"), ("ticket", .bool false)]]) =
        .arr [.obj [("type", .str "attachment"), ("ticket", .bool false)]] := fun _ => rfl
  have hgiven : Json.int 0 ≠ .null := by simp
  exact ⟨⟨hrendered, hzero.symm.trans hrendered⟩,
    ⟨hnamed,
      render_of_effectiveTicket.2.1 ⟨none, some "b", none, .int 9, none⟩ .default .null none _
        hnamed⟩,
    hgiven,
    render_of_effectiveTicket.2.2 ⟨none, none, none, .int 0, none⟩ .default (some (.int 7)) _
      hgiven⟩

end TicketMarkup
