import TicketMarkup.Proofs.Draft.WellTyped
import TicketMarkup.Proofs.Format.Shape

/-!
# Formatted text in plain text

The plain text of formatted markup, of nodes and of well-typed drafts, shows all their text: every
character of it that is no blank, in order (`visible_sublist_of_render`). The same holds of every
display tree in which the elements that never have content have no children, as they do in
formatted text.
-/

namespace TicketMarkup.Markdown

open Text

/-- In a formatted text nothing stands in a void element. -/
theorem voidsEmpty_of_formatted {d : Display} (h : d.Formatted) : d.VoidsEmpty := by
  refine Display.EveryElement.mono (fun tag _ _ hown hvoid => hown.void ?_) h
  simpa [Html.isVoid, or_comm, or_left_comm] using hvoid

/-- Plain text that is written of display nodes has all that is visible in their texts, in order:
of formatted nodes, of well-typed drafts, which all have display nodes, and of any display nodes
whose elements without content have no children. -/
theorem visible_sublist_of_render :
    (∀ ctx nodes s, render (format ctx nodes) = .ok s →
      (visible (Display.plainTexts (format ctx nodes)).toList).Sublist s.toList) ∧
    (∀ ctx members, Draft.MembersWellTyped members →
      ∃ ds, (Draft.blockContent ctx (.nodes members)).outcome = .ok (DraftDisplay.ofDisplays ds) ∧
        ∀ s, render ds = .ok s → (visible (Display.plainTexts ds).toList).Sublist s.toList) ∧
    ∀ ds, (∀ d ∈ ds, d.VoidsEmpty) → ∀ s, render ds = .ok s →
      (visible (Display.plainTexts ds).toList).Sublist s.toList := by
  refine ⟨fun ctx nodes s hs => ?_, fun ctx members hmembers => ?_, fun ds hds s hs => ?_⟩
  · exact sublist_of_render (fun d hd => voidsEmpty_of_formatted (formatted_of_mem_format hd).2) hs
  · obtain ⟨ds, hds, hempty⟩ := Draft.exists_blockContent hmembers
    exact ⟨ds, hds, fun s hs => sublist_of_render hempty hs⟩
  · exact sublist_of_render hds hs

/-- A list in a quote, with blanks around and within its text; a draft of a quote with a text in
place of its children; and a list of what are no items. -/
theorem visible_sublist_of_render_list_in_quote :
    (render (format .empty [.quote [.str " a", .list (some 9) [[.str "b\nc "], [.rule]]]]) =
        .ok "> a\n>\n> 9. b\n>    c\n> 10. ---" ∧
      (visible (Display.plainTexts (format .empty
        [.quote [.str " a", .list (some 9) [[.str "b\nc "], [.rule]]]])).toList).Sublist
        "> a\n>\n> 9. b\n>    c\n> 10. ---".toList) ∧
    (Draft.MembersWellTyped [.node .quote [] [.text "a b"]] ∧
      ∃ ds, (Draft.blockContent .empty (.nodes [.node .quote [] [.text "a b"]])).outcome =
          .ok (DraftDisplay.ofDisplays ds) ∧
        ∀ s, render ds = .ok s → (visible (Display.plainTexts ds).toList).Sublist s.toList) ∧
    (∀ d ∈ [Display.plain "ul" [.text "x ", .plain "b" [.codeBlock "y" none]]], d.VoidsEmpty) ∧
    render [.plain "ul" [.text "x ", .plain "b" [.codeBlock "y" none]]] =
      .ok "- x\n- ```\n  y\n  ```" ∧
    (visible (Display.plainTexts
      [.plain "ul" [.text "x ", .plain "b" [.codeBlock "y" none]]]).toList).Sublist
      "- x\n- ```\n  y\n  ```".toList := by
  have hdrafts : Draft.MembersWellTyped [.node .quote [] [.text "a b"]] :=
    ⟨⟨List.forall_mem_singleton.2 trivial, trivial, trivial⟩, trivial⟩
  have hempty : ∀ d ∈ [Display.plain "ul" [.text "x ", .plain "b" [.codeBlock "y" none]]],
      d.VoidsEmpty :=
    List.forall_mem_singleton.2 (.element (by decide) (List.forall_mem_cons.2 ⟨.text _,
      List.forall_mem_singleton.2 (.element (by decide) (List.forall_mem_singleton.2
        (.codeBlock _ _)))⟩))
  exact ⟨⟨rfl, visible_sublist_of_render.1 _ _ _ rfl⟩,
    ⟨hdrafts, visible_sublist_of_render.2.1 _ _ hdrafts⟩,
    hempty, rfl, visible_sublist_of_render.2.2 _ hempty _ rfl⟩

end TicketMarkup.Markdown
