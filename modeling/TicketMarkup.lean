import TicketMarkup.Draft.Dump
import TicketMarkup.Main
import TicketMarkup.Proofs.Draft.PlainText
import TicketMarkup.Proofs.Draft.Siblings
import TicketMarkup.Proofs.Html.Formatted
import TicketMarkup.Proofs.Markdown.Formatted
import TicketMarkup.Proofs.Rendering.Tickets
import TicketMarkup.Proofs.Source.RoundTrip
import TicketMarkup.Proofs.Rendering.Files
import TicketMarkup.Proofs.Source.Infinite
import TicketMarkup.Proofs.Batch.Independent
import TicketMarkup.Proofs.Markdown.Numbering
import TicketMarkup.Proofs.Rendering.Numbering
import TicketMarkup.Proofs.Format.Height
import TicketMarkup.Proofs.Rendering.Splitting
import TicketMarkup.Proofs.Rendering.Reported
import TicketMarkup.Proofs.Markdown.Preformatted
import TicketMarkup.Proofs.Batch.Inputs
import TicketMarkup.Proofs.Batch.Repeated
import TicketMarkup.Proofs.Draft.Links
import TicketMarkup.Proofs.Format.Recorded
import TicketMarkup.Proofs.CommandLine.Status
import TicketMarkup.Proofs.Source.FirstFault
import TicketMarkup.Proofs.Markdown.Paragraphs
import TicketMarkup.Proofs.Markdown.ReadLists
import TicketMarkup.Proofs.Markdown.Quotes
import TicketMarkup.Proofs.Rendering.Limits
import TicketMarkup.Proofs.Source.FieldsRead
import TicketMarkup.Proofs.Batch.Accepted
import TicketMarkup.Proofs.Html.Escaped
import TicketMarkup.Proofs.Files.Rendered
