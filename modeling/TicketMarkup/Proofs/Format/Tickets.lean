import TicketMarkup.Format.Basic
import TicketMarkup.Proofs.Source.Tickets

/-!
# Formatting with tickets given

Of the ticket of a context, formatting uses what an attachment without a ticket belongs to
(`attachmentTicket`), and nothing else. A tree whose attachments were given that ticket is therefore
formatted in any context of the same tracker as the tree itself is in its own (`format_assignAll`).
-/

namespace TicketMarkup

variable {ctx ctx' : Context}

/-- An attachment always has a ticket when it is formatted. -/
theorem attachmentTicket_ne_null (ctx : Context) (ticket : Json) :
    attachmentTicket ctx ticket ≠ .null := by
  unfold attachmentTicket
  split
  · assumption
  · split
    · assumption
    · simp

/-- A ticket that an attachment names is not replaced. -/
theorem attachmentTicket_of_ne_null {ticket : Json} (h : ticket ≠ .null) :
    attachmentTicket ctx ticket = ticket :=
  if_pos h

/-- An attachment that was given the ticket of one context belongs to it in every context. -/
theorem attachmentTicket_assign (ctx ctx' : Context) (own : Json) :
    attachmentTicket ctx' (if own = .null then attachmentTicket ctx .null else own) =
      attachmentTicket ctx own := by
  split
  next h => rw [attachmentTicket_of_ne_null (attachmentTicket_ne_null ctx .null), h]
  next h => rw [attachmentTicket_of_ne_null h, attachmentTicket_of_ne_null h]

/-- Links into the same tracker do not depend on the rest of the context. -/
theorem trackerLink_congr (hbase : ctx'.base = ctx.base) (path text : String) :
    trackerLink ctx' path text = trackerLink ctx path text := by
  simp only [trackerLink, Context.address, hbase]

/-- The link to an attachment that was given the ticket of a context is that of the context. -/
theorem attachmentLink_assign (hbase : ctx'.base = ctx.base) (id own : Json) (text : String) :
    attachmentLink ctx' id text (if own = .null then attachmentTicket ctx .null else own) =
      attachmentLink ctx id text own := by
  unfold attachmentLink attachmentPath
  rw [trackerLink_congr hbase, attachmentTicket_assign ctx ctx' own]

/-- The sequence of a node, if each of its members is formatted alike. -/
theorem leaves_assignAll_of_forall {ticket : Json} {nodes : List Node}
    (h : ∀ n ∈ nodes, (n.assign ticket).format ctx' = n.format ctx) :
    leaves ctx' (Node.assignAll ticket nodes) = leaves ctx nodes := by
  rw [leaves_eq_map, leaves_eq_map, Node.assignAll_eq_map, List.map_map]
  exact List.map_congr_left h

/-- A node whose attachments were given the ticket of a context is formatted as in that context. -/
theorem Node.format_assign (hbase : ctx'.base = ctx.base) (n : Node) :
    (n.assign (attachmentTicket ctx .null)).format ctx' = n.format ctx := by
  induction n using Node.induction_on_parts with
  | step n ih =>
    have hsequence : ∀ nodes : List Node, (∀ m ∈ nodes, m ∈ n.parts) →
        leaves ctx' (assignAll (attachmentTicket ctx .null) nodes) = leaves ctx nodes :=
      fun nodes hnodes => leaves_assignAll_of_forall fun m hm => ih m (hnodes m hm)
    cases n with
    | attachment id text own =>
      simp only [assign, format, attachmentLink_assign hbase]
    | comment ticket comment text =>
      simp only [assign, format, commentLink, trackerLink_congr hbase]
    | reference target id text =>
      simp only [assign, format, referenceLink, trackerLink_congr hbase]
    | list first items =>
      have hitems : itemElements ctx' (assignItems (attachmentTicket ctx .null) items) =
          itemElements ctx items := by
        rw [itemElements_eq_map, itemElements_eq_map, assignItems_eq_map, List.map_map]
        refine List.map_congr_left fun item hitem => ?_
        have hleaves := hsequence item fun m hm => List.mem_flatten.2 ⟨item, hitem, hm⟩
        simp only [Function.comp_apply, TicketMarkup.format, hleaves]
      simp only [assign, format, hitems]
    | quote children => simp only [assign, format, hsequence children fun _ hm => hm]
    | styled style children => simp only [assign, format, hsequence children fun _ hm => hm]
    | link url label text =>
      cases label with
      | none => rfl
      | some nodes =>
        simp only [assign, assignLabel, format, labelNodes, hsequence nodes fun _ hm => hm]
    | _ => rfl

/-- A tree whose attachments were given the ticket of a context is formatted as in that context. -/
theorem format_assignAll (hbase : ctx'.base = ctx.base) (nodes : List Node) :
    format ctx' (Node.assignAll (attachmentTicket ctx .null) nodes) = format ctx nodes := by
  rw [format, leaves_assignAll_of_forall fun n _ => n.format_assign hbase, format]

end TicketMarkup
