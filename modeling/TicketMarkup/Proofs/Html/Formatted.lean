import TicketMarkup.Proofs.Format.Members
import TicketMarkup.Proofs.Html.ReadBack
import TicketMarkup.Proofs.Source.Parts

/-!
# Formatted trees in HTML

HTML can hold every tree that formatting makes (`allReadable_format`), whatever the texts, addresses
and identifiers in the markup and in the context are. So the HTML of formatted markup is read back,
and two formatted texts have the same HTML exactly if their trees have the same merged form.
-/

namespace TicketMarkup.Html

/-! ## Formatted trees -/

/-- A tag of elements with content that are no code block. -/
def IsContentTag (tag : String) : Prop := isName tag = true ∧ tag ≠ "pre" ∧ isVoid tag = false

instance (tag : String) : Decidable (IsContentTag tag) :=
  inferInstanceAs (Decidable (isName tag = true ∧ tag ≠ "pre" ∧ isVoid tag = false))

theorem isContentTag_headingTag (level : Int) : IsContentTag (headingTag level) := by
  have hall : ∀ tag ∈ ["h1", "h2", "h3", "h4", "h5", "h6"], IsContentTag tag := by decide
  exact hall _ (headingTag_mem level)

theorem isContentTag_displayTag (style : Style) : IsContentTag style.displayTag := by
  cases style <;> decide

/-- An element with a readable tag is readable if what it holds is. -/
theorem readable_element {tag : String} {attrs : List (String × String)} {children : List Display}
    (htag : ReadableTag tag attrs) (hvoid : isVoid tag = false) (h : AllReadable children) :
    Readable (.element tag attrs children) :=
  ⟨htag, fun hv => absurd hv (by simp [hvoid]), h⟩

theorem readable_plain {tag : String} (htag : IsContentTag tag) {children : List Display}
    (h : AllReadable children) : Readable (.plain tag children) := by
  obtain ⟨hname, hpre, hvoid⟩ := htag
  exact readable_element ⟨hname, by simp, hpre, by simp⟩ hvoid h

theorem readable_link (address : String) {children : List Display} (h : AllReadable children) :
    Readable (.element "a" [("href", address)] children) :=
  readable_element ⟨by decide, by simpa using show isName "href" = true by decide, by decide,
    by simp⟩ (by decide) h

theorem allReadable_text (s : String) : AllReadable [.text s] := ⟨trivial, trivial⟩

/-- Paragraphs of readable leaves are readable. -/
theorem allReadable_paragraphs {leaves : List Leaf} (h : ∀ d, some d ∈ leaves → Readable d) :
    AllReadable (paragraphs leaves) := by
  rw [allReadable_iff]
  intro d hd
  obtain ⟨group, hgroup, rfl⟩ := mem_paragraphs.1 hd
  refine readable_plain (by decide) ?_
  exact allReadable_iff.2 fun e he => h e (mem_of_mem_groups hgroup he)

theorem allReadable_withoutMarks {leaves : List Leaf} (h : ∀ d, some d ∈ leaves → Readable d) :
    AllReadable (withoutMarks leaves) :=
  allReadable_iff.2 fun d hd => h d (mem_withoutMarks.1 hd)

/-- HTML can hold whatever a node is formatted to. -/
theorem readable_of_format (ctx : Context) (n : Node) :
    ∀ d, n.format ctx = some d → Readable d := by
  induction n using Node.induction_on_parts with
  | step n ih =>
    have hseq : ∀ nodes : List Node, (∀ m ∈ nodes, m ∈ n.parts) →
        ∀ d, some d ∈ leaves ctx nodes → Readable d := by
      intro nodes hnodes d hd
      obtain ⟨m, hm, hmd⟩ := mem_leaves.1 hd
      exact ih m (hnodes m hm) d hmd
    intro d hd
    cases n with
    | str s | text s | preformatted s language | mention s =>
      cases hd
      trivial
    | heading level text =>
      cases hd
      exact readable_plain (isContentTag_headingTag level) (allReadable_text text)
    | list first items =>
      have hitems : AllReadable (itemElements ctx items) := by
        rw [allReadable_iff]
        intro e he
        obtain ⟨item, hitem, rfl⟩ := mem_itemElements.1 he
        refine readable_plain (by decide) ?_
        exact allReadable_paragraphs
          (hseq item fun m hm => List.mem_flatten.2 ⟨item, hitem, hm⟩)
      cases hd
      cases first with
      | none => exact readable_plain (by decide) hitems
      | some n =>
        exact readable_element ⟨by decide, by simpa using show isName "start" = true by decide,
          by decide, by simp⟩ (by decide) hitems
    | quote children =>
      cases hd
      exact readable_plain (by decide) (allReadable_paragraphs (hseq children fun m hm => hm))
    | styled style children =>
      cases hd
      exact readable_plain (isContentTag_displayTag style)
        (allReadable_withoutMarks (hseq children fun m hm => hm))
    | code text =>
      cases hd
      exact readable_plain (by decide) (allReadable_text text)
    | rule | lineBreak =>
      cases hd
      exact ⟨⟨by decide, by simp, by decide, by simp⟩, fun _ => rfl, trivial⟩
    | link url label text =>
      cases hd
      refine readable_link url ?_
      cases label with
      | none => exact allReadable_text text
      | some nodes => exact allReadable_withoutMarks (hseq nodes fun m hm => hm)
    | comment ticket comment text | reference target id text | attachment id text ticket =>
      cases hd
      exact readable_link _ (allReadable_text text)
    | image url =>
      cases hd
      have hnames : isName "alt" = true ∧ isName "src" = true := by decide
      exact ⟨⟨by decide, by simpa using hnames, by decide, by simp⟩, fun _ => rfl, trivial⟩
    | paragraphBreak => cases hd
    | unknown tag fields =>
      cases hd
      exact readable_element ⟨by decide, by simpa using show isName "class" = true by decide,
        by decide, by decide⟩ (by decide) (allReadable_text _)

/-- A formatted text is readable. -/
theorem allReadable_format (ctx : Context) (nodes : List Node) :
    AllReadable (format ctx nodes) := by
  refine allReadable_paragraphs fun d hd => ?_
  obtain ⟨n, -, hn⟩ := mem_leaves.1 hd
  exact readable_of_format ctx n d hn

/-- No text stands at the top of a formatted text. -/
theorem isText_of_mem_format {ctx : Context} {nodes : List Node} :
    ∀ d ∈ format ctx nodes, isText d = false := by
  intro d hd
  obtain ⟨group, -, rfl⟩ := mem_paragraphs.1 hd
  rfl

/-- The HTML of formatted markup is balanced and is read back as the formatted tree in its merged
form, so two formatted texts have the same HTML exactly if their trees have the same merged form. -/
theorem read_render_format (profiles : String) :
    (∀ ctx nodes,
      read profiles (render profiles (format ctx nodes)) = some (merged (format ctx nodes))) ∧
    ∀ ctx ctx' nodes nodes',
      render profiles (format ctx nodes) = render profiles (format ctx' nodes') ↔
        merged (format ctx nodes) = merged (format ctx' nodes') := by
  have hread : ∀ ctx nodes,
      read profiles (render profiles (format ctx nodes)) = some (merged (format ctx nodes)) :=
    fun ctx nodes => read_render profiles (allReadable_format ctx nodes) isText_of_mem_format
  refine ⟨hread, fun ctx ctx' nodes nodes' => ⟨fun h => ?_, fun h => ?_⟩⟩
  · have heq := hread ctx nodes
    rw [h, hread ctx' nodes'] at heq
    exact (Option.some.inj heq).symm
  · rw [← render_merged profiles isText_of_mem_format, h,
      render_merged profiles isText_of_mem_format]

end TicketMarkup.Html
