import TicketMarkup.Format.Basic
import TicketMarkup.Proofs.Markdown.Containers
import TicketMarkup.Proofs.Markdown.Paragraphs

/-!
# Quotes read back

In plain text, a quote marks every line of what it quotes, the empty ones too, and adds no line. So
the quoted text is read back by taking the mark off every line, whatever the text is
(`readQuote?_quoteText`).

A paragraph that holds nothing but a quote is written as the quote is (`render_paragraph_of_block`),
without loss at its ends. So where each of some quotes is all that the one around it shows, every
line has as many marks as there are quotes, and without them the lines are those of the innermost
text (`quotes_read_back`).
-/

namespace TicketMarkup.Markdown

open Text

/-! ## Texts -/

/-- A text as a quote. -/
def quoteText (s : String) : String := String.ofList (quoteLines s.toList)

/-- A text within so many quotes. -/
def quoteTimes : Nat → String → String
  | 0, s => s
  | depth + 1, s => quoteText (quoteTimes depth s)

/-- What a quote quotes: its lines without their marks, none if a line has no mark. -/
def readQuote? (s : String) : Option String :=
  (Container.quote.unmarkLines? true (lines s.toList)).map fun body =>
    String.ofList (join ['\n'] body)

/-- What stands within so many quotes. The marks of the outermost quote are taken off first. -/
def readQuotes? : Nat → String → Option String
  | 0, s => some s
  | depth + 1, s => (readQuote? s).bind (readQuotes? depth)

/-- Whether a text is another one within so many quotes: it has as many lines, they begin with the
mark if there is a quote, and without their marks they are the lines of the other text. -/
structure IsQuoteOf (depth : Nat) (text body : String) : Prop where
  length_lines : (lines text.toList).length = (lines body.toList).length
  marked : 0 < depth → ∀ line ∈ lines text.toList, ['>'] <+: line
  read_back : readQuotes? depth text = some body

theorem lines_quoteText (s : String) :
    lines (quoteText s).toList = (lines s.toList).map quoteLine := by
  rw [quoteText, String.toList_ofList, lines_quoteLines]

/-- What is quoted is read back. -/
theorem readQuote?_quoteText (s : String) : readQuote? (quoteText s) = some s := by
  rw [readQuote?, quoteText, String.toList_ofList, unmarkLines?_lines_quoteLines, Option.map_some,
    join_lines, String.ofList_toList]

/-- What is quoted several times is read back in as many steps. -/
theorem readQuotes?_quoteTimes (depth : Nat) (s : String) :
    readQuotes? depth (quoteTimes depth s) = some s := by
  induction depth with
  | zero => rfl
  | succ depth ih => rw [quoteTimes, readQuotes?, readQuote?_quoteText, Option.bind_some, ih]

/-- Quoting keeps the number of lines. -/
theorem length_lines_quoteTimes (depth : Nat) (s : String) :
    (lines (quoteTimes depth s).toList).length = (lines s.toList).length := by
  induction depth with
  | zero => rfl
  | succ depth ih => rw [quoteTimes, lines_quoteText, List.length_map, ih]

theorem prefix_quoteLine (line : List Char) : ['>'] <+: quoteLine line := by
  unfold quoteLine
  split
  · exact List.prefix_refl _
  · exact ⟨' ' :: line, rfl⟩

/-- A text quoted several times is a quote of it, as deep as that. -/
theorem isQuoteOf_quoteTimes (depth : Nat) (s : String) :
    IsQuoteOf depth (quoteTimes depth s) s where
  length_lines := length_lines_quoteTimes depth s
  marked := by
    intro hdepth marked hmarked
    obtain ⟨depth, rfl⟩ := Nat.exists_eq_add_one.2 hdepth
    rw [quoteTimes, lines_quoteText] at hmarked
    obtain ⟨line, -, rfl⟩ := List.mem_map.1 hmarked
    exact prefix_quoteLine line
  read_back := readQuotes?_quoteTimes depth s

/-! ## Display trees -/

/-- Whether display nodes are others within so many quotes. Each quote is all that the one around it
shows, by itself or in paragraphs of its own. -/
inductive QuotedIn (inner : List Display) : Nat → List Display → Prop where
  | here : QuotedIn inner 0 inner
  | quote {depth : Nat} {tree : List Display} (h : QuotedIn inner depth tree)
    (attrs : List (String × String)) : QuotedIn inner (depth + 1) [.element "blockquote" attrs tree]
  | paragraph {depth : Nat} {d : Display} (h : QuotedIn inner (depth + 1) [d])
    (attrs : List (String × String)) : QuotedIn inner (depth + 1) [.element "p" attrs [d]]

theorem QuotedIn.isBlock {inner : List Display} {depth : Nat} {d : Display}
    (h : QuotedIn inner (depth + 1) [d]) : Markdown.isBlock d = true := by
  cases h with
  | quote h attrs => rfl
  | paragraph h attrs => rfl

/-- A quote element is written as the quote of what it holds. -/
theorem inline_blockquote (attrs : List (String × String)) (children : List Display) :
    inline (.element "blockquote" attrs children) =
      (render children).map fun s => (quoteText s).toList := by
  simp only [inline, TagRole.ofTag, render, quoteText, String.toList_ofList]
  cases blocks children with
  | error fault => rfl
  | ok parts => exact congrArg Except.ok (congrArg quoteLines String.toList_ofList.symm)

/-- A quote alone is the text of its children as a quote. -/
theorem render_blockquote (attrs : List (String × String)) (children : List Display) :
    render [.element "blockquote" attrs children] = (render children).map quoteText := by
  rw [render, blocks, inline_blockquote]
  cases render children with
  | error fault => rfl
  | ok body =>
    have hone : String.ofList (joinBlocks [(quoteText body).toList]) = quoteText body := by
      rw [joinBlocks_singleton, String.ofList_toList]
    exact congrArg Except.ok hone

/-- A paragraph that holds nothing but a block is written as the block is. -/
theorem render_paragraph_of_block {b : Display} (h : isBlock b = true)
    (attrs : List (String × String)) : render [.element "p" attrs [b]] = render [b] := by
  have hparts := paragraphParts_append_block h [] [] []
  rw [List.nil_append] at hparts
  rw [render_paragraph, hparts, render, blocks]
  cases inline b with
  | error fault => rfl
  | ok content =>
    -- The runs on both sides of the block are empty, and are left out.
    have hempty : strip [] = [] := rfl
    have hruns : joinBlocks [strip [], asBlock b content, strip []] =
        joinBlocks [asBlock b content] := by
      by_cases hcontent : asBlock b content = [] <;> simp [joinBlocks, hempty, hcontent]
    exact congrArg (Except.ok ∘ String.ofList) hruns

/-- A tree in quotes is rendered to the quoted text of the tree in it. -/
theorem QuotedIn.render_eq {inner tree : List Display} {depth : Nat}
    (h : QuotedIn inner depth tree) : render tree = (render inner).map (quoteTimes depth) := by
  induction h with
  | here => cases render inner <;> rfl
  | quote h attrs ih =>
    rw [render_blockquote, ih]
    cases render inner <;> rfl
  | paragraph h attrs ih => rw [render_paragraph_of_block h.isBlock, ih]

theorem QuotedIn.exists_isQuoteOf {inner tree : List Display} {depth : Nat} {body : String}
    (h : QuotedIn inner depth tree) (hbody : render inner = .ok body) :
    ∃ text, render tree = .ok text ∧ IsQuoteOf depth text body := by
  refine ⟨quoteTimes depth body, ?_, isQuoteOf_quoteTimes depth body⟩
  rw [h.render_eq, hbody]
  rfl

/-! ## Markup -/

/-- Nodes within so many quotes, each of them all that the one around it holds. -/
def quotedNodes : Nat → List Node → List Node
  | 0, nodes => nodes
  | depth + 1, nodes => [.quote (quotedNodes depth nodes)]

theorem format_quote (ctx : Context) (nodes : List Node) :
    format ctx [.quote nodes] = [.plain "p" [.plain "blockquote" (format ctx nodes)]] := rfl

/-- Quoted nodes are formatted to quotes of what the nodes are formatted to. -/
theorem quotedIn_format (ctx : Context) (depth : Nat) (nodes : List Node) :
    QuotedIn (format ctx nodes) depth (format ctx (quotedNodes depth nodes)) := by
  induction depth with
  | zero => exact .here
  | succ depth ih =>
    rw [quotedNodes, format_quote]
    exact .paragraph (.quote ih []) []

/-- The text of a quote is read back to the text of what it quotes, wherever the quote stands: it
has as many lines, each of them marked, and without the marks they are the lines of that text. The
same holds of quotes in quotes, one mark for each of them, and of markup with quotes in quotes. -/
theorem quotes_read_back :
    (∀ attrs children body, render children = .ok body →
      ∃ text, render [.element "blockquote" attrs children] = .ok text ∧
        inline (.element "blockquote" attrs children) = .ok text.toList ∧
        IsQuoteOf 1 text body) ∧
    (∀ inner depth tree body, QuotedIn inner depth tree → render inner = .ok body →
      ∃ text, render tree = .ok text ∧ IsQuoteOf depth text body) ∧
    ∀ ctx nodes depth body, render (format ctx nodes) = .ok body →
      ∃ text, render (format ctx (quotedNodes depth nodes)) = .ok text ∧
        IsQuoteOf depth text body := by
  refine ⟨fun attrs children body hbody => ⟨quoteText body, ?_, ?_, isQuoteOf_quoteTimes 1 body⟩,
    fun inner depth tree body htree hbody => htree.exists_isQuoteOf hbody,
    fun ctx nodes depth body hbody => (quotedIn_format ctx depth nodes).exists_isQuoteOf hbody⟩
  · rw [render_blockquote, hbody]
    rfl
  · rw [inline_blockquote, hbody]
    rfl

/-- Code with an empty line and one that begins like a quote. -/
def quotableCode : List Node := [.preformatted "\n> x " none]

/-- The code in one quote, in a quote within a paragraph of another, and in two quotes of markup. -/
theorem quotes_read_back_code :
    (render (format .empty quotableCode) = .ok "```\n\n> x \n```" ∧
      render [.plain "blockquote" (format .empty quotableCode)] = .ok "> ```\n>\n> > x \n> ```" ∧
      IsQuoteOf 1 "> ```\n>\n> > x \n> ```" "```\n\n> x \n```") ∧
    (QuotedIn (format .empty quotableCode) 2
        [.plain "blockquote" [.plain "p" [.plain "blockquote" (format .empty quotableCode)]]] ∧
      render [.plain "blockquote" [.plain "p" [.plain "blockquote" (format .empty quotableCode)]]] =
        .ok "> > ```\n> >\n> > > x \n> > ```" ∧
      IsQuoteOf 2 "> > ```\n> >\n> > > x \n> > ```" "```\n\n> x \n```") ∧
    render (format .empty (quotedNodes 2 quotableCode)) =
      .ok "> > ```\n> >\n> > > x \n> > ```" := by
  have hbody : render (format .empty quotableCode) = .ok "```\n\n> x \n```" := rfl
  obtain ⟨one, hone, -, honeQuote⟩ := quotes_read_back.1 [] _ _ hbody
  obtain rfl : "> ```\n>\n> > x \n> ```" = one := Except.ok.inj hone
  have htree : QuotedIn (format .empty quotableCode) 2
      [.plain "blockquote" [.plain "p" [.plain "blockquote" (format .empty quotableCode)]]] :=
    .quote (.paragraph (.quote .here []) []) []
  obtain ⟨two, htwo, htwoQuote⟩ := quotes_read_back.2.1 _ _ _ _ htree hbody
  obtain rfl : "> > ```\n> >\n> > > x \n> > ```" = two := Except.ok.inj htwo
  obtain ⟨markup, hmarkup, -⟩ := quotes_read_back.2.2 .empty quotableCode 2 _ hbody
  obtain rfl : "> > ```\n> >\n> > > x \n> > ```" = markup := Except.ok.inj hmarkup
  exact ⟨⟨hbody, hone, honeQuote⟩, ⟨htree, htwo, htwoQuote⟩, hmarkup⟩

end TicketMarkup.Markdown
