import TicketMarkup.Proofs.Draft.CodeBlocks

/-!
# Preformatted text in plain text

A preformatted node comes through plain text as it is, at any depth of quotes and lists and among
any other nodes. Its text, between two fences, is a run of the lines of the whole, each with the
marks of the quotes and items that it stands in (`showsCode_of_render`); no line is lost or changed,
and blank lines and the blanks at the ends of lines stay.
-/

namespace TicketMarkup.Markdown

open Text

/-- Whether a preformatted node with a text and a language is among nodes, within some quotes and
items, the outermost first: it is one of them, or among the children of a quote, or in an item of a
list, that is one of them. -/
inductive CodeAt (code : String) (language : Option String) :
    List Container → List Node → Prop where
  | here {nodes : List Node} (hnode : .preformatted code language ∈ nodes) :
    CodeAt code language [] nodes
  | quote {nodes children : List Node} {path : List Container} (hnode : .quote children ∈ nodes)
    (h : CodeAt code language path children) : CodeAt code language (.quote :: path) nodes
  | item {nodes item : List Node} {items : List (List Node)} {path : List Container}
    {first : Option Int} {index : Nat} (hnode : .list first items ∈ nodes)
    (hitem : items[index]? = some item) (h : CodeAt code language path item) :
    CodeAt code language (.item (first.map (· + (index : Int))) :: path) nodes

/-- What a node is formatted to stands in a paragraph. -/
theorem exists_group_of_format (ctx : Context) {nodes : List Node} {n : Node} {d : Display}
    (hn : n ∈ nodes) (h : n.format ctx = some d) :
    ∃ group, .plain "p" group ∈ format ctx nodes ∧ d ∈ group := by
  obtain ⟨group, hgroup, hd⟩ := exists_group_of_mem (mem_leaves.2 ⟨n, hn, h⟩)
  exact ⟨group, mem_paragraphs.2 ⟨group, hgroup, rfl⟩, hd⟩

/-- Among formatted nodes, a preformatted node is a code block. -/
theorem holdsCode_of_codeAt (ctx : Context) {code : String} {language : Option String}
    {path : List Container} {nodes : List Node} (h : CodeAt code language path nodes) :
    HoldsCode code language path (format ctx nodes) := by
  induction h with
  | here hnode =>
    obtain ⟨group, hgroup, hcode⟩ := exists_group_of_format ctx hnode rfl
    exact .here hgroup hcode
  | quote hnode _ ih =>
    obtain ⟨group, hgroup, hquote⟩ := exists_group_of_format ctx hnode rfl
    exact .quote hgroup hquote ih
  | item hnode hitem _ ih =>
    obtain ⟨group, hgroup, hlist⟩ := exists_group_of_format ctx hnode rfl
    refine .item hgroup hlist ?_ ih
    rw [itemElements_eq_map, List.getElem?_map, hitem]
    rfl

/-! ## Plain text -/

/-- The lines of a text between two fences, the first of which names a language if there is one. -/
def codeLines (code : String) (language : Option String) : List (List Char) :=
  lines ("```" ++ language.getD "" ++ "\n" ++ code ++ "\n```").toList

theorem codeLines_eq (code : String) (language : Option String) :
    codeLines code language = lines (fence code language) := by
  simp [codeLines, fence]

/-- Whether a text shows a code block within some quotes and items: the lines of the block stand in
the text within them, and so are a run of its lines, each without its marks. -/
structure ShowsCode (code : String) (language : Option String) (path : List Container)
    (s : String) : Prop where
  stands : Stands (codeLines code language) path (lines s.toList)
  run : ∃ run, run <:+: lines s.toList ∧ IsMarked (codeLines code language) path run

/-- A code block that a tree holds is shown where it stands. -/
theorem showsCode_of_holdsCode {code : String} {language : Option String} {path : List Container}
    {ds : List Display} {s : String} (h : HoldsCode code language path ds)
    (hs : render ds = .ok s) : ShowsCode code language path s := by
  unfold render at hs
  cases hparts : blocks ds with
  | error fault =>
    rw [hparts] at hs
    cases hs
  | ok parts =>
    rw [hparts] at hs
    obtain rfl : String.ofList (joinBlocks parts) = s := Except.ok.inj hs
    have hstands : Stands (codeLines code language) path
        (lines (String.ofList (joinBlocks parts)).toList) := by
      rw [codeLines_eq, String.toList_ofList]
      exact stands_of_holdsCode h hparts
    exact ⟨hstands, hstands.exists_run⟩

/-- Whenever formatted nodes are written as plain text, the text shows every preformatted node that
stands in quotes and items only, at any depth, within them. The same holds of drafts that are
formatted to display nodes. -/
theorem showsCode_of_render :
    (∀ ctx nodes s, render (format ctx nodes) = .ok s →
      ∀ code language path, CodeAt code language path nodes → ShowsCode code language path s) ∧
    ∀ ctx members ds,
      (Draft.blockContent ctx (.nodes members)).outcome = .ok (DraftDisplay.ofDisplays ds) →
        ∀ s, render ds = .ok s → ∀ code language path, Draft.CodeAt code language path members →
          ShowsCode code language path s := by
  refine ⟨fun ctx nodes s hs code language path h => ?_,
    fun ctx members ds hds s hs code language path h => ?_⟩
  · exact showsCode_of_holdsCode (holdsCode_of_codeAt ctx h) hs
  · exact showsCode_of_holdsCode (Draft.holdsCode_of_codeAt h hds) hs

/-- Code with blanks, in the second item of a list in a quote; and code in a quote of drafts. -/
theorem showsCode_of_render_list_in_quote :
    (render (format .empty [.quote [.str " a", .list (some 9)
          [[.str "b"], [.preformatted " c\n\n \n" (some "sh"), .str "d"]]]]) =
        .ok "> a\n>\n> 9. b\n> 10. ```sh\n>      c\n>\n>      \n>\n>     ```\n>\n>     d" ∧
      ShowsCode " c\n\n \n" (some "sh") [.quote, .item (some 10)]
        "> a\n>\n> 9. b\n> 10. ```sh\n>      c\n>\n>      \n>\n>     ```\n>\n>     d") ∧
    ((Draft.blockContent .empty (.nodes
          [.node .quote [] [.nodes [.node .preformatted [("text", .str "c")] []]]])).outcome =
        .ok (DraftDisplay.ofDisplays
          [.plain "p" [.plain "blockquote" [.plain "p" [.codeBlock "c" none]]]]) ∧
      ShowsCode "c" none [.quote] "> ```\n> c\n> ```") := by
  have hlist : CodeAt " c\n\n \n" (some "sh") [.item ((some 9).map (· + ((1 : Nat) : Int)))]
      [.str " a",
        .list (some 9) [[.str "b"], [.preformatted " c\n\n \n" (some "sh"), .str "d"]]] :=
    .item (List.mem_cons_of_mem _ (List.mem_singleton_self _)) rfl (.here List.mem_cons_self)
  have hdrafts : Draft.CodeAt "c" none [.quote]
      [.node .quote [] [.nodes [.node .preformatted [("text", .str "c")] []]]] :=
    .quote (List.mem_singleton_self _) (List.mem_singleton_self _)
      (.here (List.mem_singleton_self _) rfl rfl)
  have hds : (Draft.blockContent .empty (.nodes
      [.node .quote [] [.nodes [.node .preformatted [("text", .str "c")] []]]])).outcome =
        .ok (DraftDisplay.ofDisplays
          [.plain "p" [.plain "blockquote" [.plain "p" [.codeBlock "c" none]]]]) := rfl
  exact ⟨⟨rfl, showsCode_of_render.1 .empty _ _ rfl _ _ _
    (.quote (List.mem_singleton_self _) hlist)⟩, hds,
    showsCode_of_render.2 _ _ _ hds _ rfl _ _ _ hdrafts⟩

end TicketMarkup.Markdown
