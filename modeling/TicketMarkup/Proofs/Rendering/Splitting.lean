import TicketMarkup.Proofs.Format.Members
import TicketMarkup.Proofs.Source.Placement
import TicketMarkup.Rendering

/-!
# Markup that is cut at a paragraph break

Nothing reaches over a paragraph break at the top of a text. What stands before it and what stands
behind it can be loaded, formatted and rendered on their own, and the two texts put together, with
what a renderer writes between two paragraphs (`Renderer.separator`), are the text of the whole. A
part that shows nothing leaves no trace, not even a separator (`render_append_break`).
-/

namespace TicketMarkup

/-! ## Two texts -/

namespace Text

/-- Two texts with a separator between them, which is left out if one of them is empty. -/
def joinTwo (sep s t : String) : String :=
  if s = "" then t else if t = "" then s else s ++ sep ++ t

/-- Two sequences of pieces are joined with a separator where they meet. -/
theorem join_append {sep : List Char} {a b : List (List Char)} (ha : a ≠ []) (hb : b ≠ []) :
    join sep (a ++ b) = join sep a ++ sep ++ join sep b := by
  induction a with
  | nil => exact absurd rfl ha
  | cons s rest ih =>
    by_cases hrest : rest = []
    · subst hrest
      exact join_cons_of_ne_nil sep s hb
    · have hmore : rest ++ b ≠ [] := by simp [hrest]
      rw [List.cons_append, join_cons_of_ne_nil sep s hmore, join_cons_of_ne_nil sep s hrest,
        ih hrest]
      simp only [List.append_assoc]

/-- Pieces that are not empty are joined to a text that is not empty. -/
theorem join_ne_nil {sep : List Char} {a : List (List Char)} (h : ∀ s ∈ a, s ≠ []) (ha : a ≠ []) :
    join sep a ≠ [] := by
  obtain ⟨s, rest, rfl⟩ := List.exists_cons_of_ne_nil ha
  have hs : s ≠ [] := h s List.mem_cons_self
  cases rest with
  | nil => exact hs
  | cons t rest => simp [hs]

/-- Where no piece is empty, two sequences of pieces are joined to two texts. -/
theorem ofList_join_append {sep : List Char} {a b : List (List Char)} (ha : ∀ s ∈ a, s ≠ [])
    (hb : ∀ s ∈ b, s ≠ []) :
    String.ofList (join sep (a ++ b)) =
      joinTwo (String.ofList sep) (String.ofList (join sep a)) (String.ofList (join sep b)) := by
  by_cases hanil : a = []
  · subst hanil
    simp [joinTwo]
  have hjoin : String.ofList (join sep a) ≠ "" := by
    simpa [String.ofList_eq_empty_iff] using join_ne_nil ha hanil
  by_cases hbnil : b = []
  · subst hbnil
    simp [joinTwo, hjoin]
  have hjoin' : String.ofList (join sep b) ≠ "" := by
    simpa [String.ofList_eq_empty_iff] using join_ne_nil hb hbnil
  rw [joinTwo, if_neg hjoin, if_neg hjoin', join_append hanil hbnil, String.ofList_append,
    String.ofList_append]

end Text

open Text (joinTwo)

/-! ## Renderers -/

/-- An element is never written as nothing. -/
theorem Html.node_ne_nil (profiles : String) {d : Display} (h : d.tag? ≠ none) :
    node profiles d ≠ [] := by
  cases d with
  | element tag attrs children =>
    rw [node]
    split <;> simp [voidTag, openTag]
  | _ => exact absurd rfl h

/-- Blocks of two sequences are joined as two texts, where empty ones leave no separator. -/
theorem Markdown.joinBlocks_append (a b : List (List Char)) :
    String.ofList (joinBlocks (a ++ b)) =
      joinTwo "\n\n" (String.ofList (joinBlocks a)) (String.ofList (joinBlocks b)) := by
  have hfilter : ∀ parts : List (List Char), ∀ s ∈ parts.filter (· ≠ []), s ≠ [] := by
    intro parts s hs
    simpa using (List.mem_filter.1 hs).2
  rw [joinBlocks, List.filter_append, Text.ofList_join_append (hfilter a) (hfilter b)]
  rfl

namespace Renderer

/-- What is written between two paragraphs. -/
def separator : Renderer → String
  | html _ => "\n"
  | text => "\n\n"

/-- Elements are rendered piece by piece. -/
theorem render_append (r : Renderer) {a b : List Display} (ha : ∀ d ∈ a, d.tag? ≠ none)
    (hb : ∀ d ∈ b, d.tag? ≠ none) :
    r.render (a ++ b) =
      (r.render a).bind fun s => (r.render b).map fun t => joinTwo r.separator s t := by
  cases r with
  | html profiles =>
    have hnode : ∀ ds : List Display, (∀ d ∈ ds, d.tag? ≠ none) →
        ∀ s ∈ ds.map (Html.node profiles), s ≠ [] := by
      intro ds hds s hs
      obtain ⟨d, hd, rfl⟩ := List.mem_map.1 hs
      exact Html.node_ne_nil profiles (hds d hd)
    simp only [render, Html.render, List.map_append,
      Text.ofList_join_append (hnode a ha) (hnode b hb)]
    rfl
  | text =>
    simp only [render, Markdown.render, Markdown.blocks_append]
    cases Markdown.blocks a with
    | error fault => rfl
    | ok s =>
      cases Markdown.blocks b with
      | error fault => rfl
      | ok t => exact congrArg Except.ok (Markdown.joinBlocks_append s t)

end Renderer

/-! ## Formatted markup -/

/-- What stands before a paragraph break and what stands behind it are formatted on their own. -/
theorem format_append_break (ctx : Context) (a b : List Node) :
    format ctx (a ++ .paragraphBreak :: b) = format ctx a ++ format ctx b := by
  have hleaves : leaves ctx (a ++ .paragraphBreak :: b) =
      leaves ctx a ++ none :: leaves ctx b := by
    rw [leaves_append]
    rfl
  rw [format, hleaves, paragraphs, groups_append_mark, List.map_append]
  rfl

/-- At the top of a formatted text there are elements only. -/
theorem tag?_of_mem_format {ctx : Context} {nodes : List Node} {d : Display}
    (h : d ∈ format ctx nodes) : d.tag? ≠ none := by
  obtain ⟨group, -, rfl⟩ := mem_paragraphs.1 h
  simp

/-! ## Loaded markup -/

/-- The data of a paragraph break. -/
def breakData : Json := .obj [("type", .str Kind.paragraphBreak.tag)]

/-- Two sequences that are loaded are loaded with a paragraph break between them. -/
theorem load_append_break {limit : Int} {a b : List Json} {nodes more : List Node}
    (ha : (load limit (.arr a)).outcome = .ok nodes)
    (hb : (load limit (.arr b)).outcome = .ok more) :
    (load limit (.arr (a ++ breakData :: b))).outcome = .ok (nodes ++ .paragraphBreak :: more) := by
  obtain ⟨_, ⟨⟩, hlimit, ha⟩ := outcome_loadSequence.1 ha
  obtain ⟨_, ⟨⟩, -, hb⟩ := outcome_loadSequence.1 hb
  have hbreak : (loadNodes limit 0 [] 0 (breakData :: b)).outcome =
      .ok (.paragraphBreak :: more) :=
    outcome_loadNodes_cons.2 ⟨_, more, rfl, outcome_loadNodes_of_place hb [] 1, rfl⟩
  exact outcome_loadSequence.2 ⟨_, rfl, hlimit, outcome_loadNodes_append ha hbreak⟩

namespace Rendering

/-- A sequence of nodes belongs to the ticket among the options, if any. -/
theorem render_arr_of_load {r : Rendering} {vs : List Json} {nodes : List Node}
    (h : (load r.limit (.arr vs)).outcome = .ok nodes) :
    r.render (.arr vs) =
      (r.renderer.render (format ⟨r.ticket, .str r.base⟩ nodes)).mapError .numbering := by
  have hdocument : (loadDocument r.limit (.arr vs)).outcome = .ok ⟨nodes, .null⟩ := by
    simp only [loadDocument]
    rw [Traced.outcome_bind, h]
    rfl
  have hcontext : r.context ⟨nodes, .null⟩ = ⟨r.ticket, .str r.base⟩ := by
    unfold context
    split
    next => rfl
    next hticket => rw [Decidable.not_not.1 hticket]
  rw [render, display, hdocument]
  simp only [hcontext]
  cases r.renderer.render (format ⟨r.ticket, .str r.base⟩ nodes) <;> rfl

/-- Two sequences of nodes that are loaded make a text with a paragraph break between them. It is
the text of the first, the separator of the renderer and the text of the second; if one of the two
is empty it is the other one. It cannot be rendered exactly if one of the two cannot. -/
theorem render_append_break (r : Rendering) {a b : List Json}
    (ha : ∃ nodes, (load r.limit (.arr a)).outcome = .ok nodes)
    (hb : ∃ nodes, (load r.limit (.arr b)).outcome = .ok nodes) :
    (∃ nodes, (load r.limit (.arr (a ++ breakData :: b))).outcome = .ok nodes) ∧
    (r.render (.arr (a ++ breakData :: b)) =
      (r.render (.arr a)).bind fun s => (r.render (.arr b)).map fun t =>
        joinTwo r.renderer.separator s t) ∧
    ((∃ fault, r.render (.arr (a ++ breakData :: b)) = .error fault) ↔
      (∃ fault, r.render (.arr a) = .error fault) ∨
        ∃ fault, r.render (.arr b) = .error fault) := by
  obtain ⟨nodes, ha⟩ := ha
  obtain ⟨more, hb⟩ := hb
  have hload := load_append_break ha hb
  have hrender : r.render (.arr (a ++ breakData :: b)) =
      (r.render (.arr a)).bind fun s => (r.render (.arr b)).map fun t =>
        joinTwo r.renderer.separator s t := by
    rw [render_arr_of_load hload, render_arr_of_load ha, render_arr_of_load hb,
      format_append_break, r.renderer.render_append (fun d => tag?_of_mem_format)
        fun d => tag?_of_mem_format]
    cases r.renderer.render (format ⟨r.ticket, .str r.base⟩ nodes) with
    | error fault => rfl
    | ok s => cases r.renderer.render (format ⟨r.ticket, .str r.base⟩ more) <;> rfl
  refine ⟨⟨_, hload⟩, hrender, ?_⟩
  rw [hrender]
  cases r.render (.arr a) with
  | error fault => simp [Except.bind]
  | ok s => cases r.render (.arr b) <;> simp [Except.bind, Except.map]

/-- A part of blanks shows nothing in text, and no separator is left of it. -/
theorem render_append_break_blank_part :
    (∃ nodes, (load defaultDepthLimit (.arr [.str "One."])).outcome = .ok nodes) ∧
      (∃ nodes, (load defaultDepthLimit (.arr [.str " ", breakData])).outcome = .ok nodes) ∧
      (⟨.text, Context.defaultBase, .null, defaultDepthLimit⟩ : Rendering).render
        (.arr ([.str "One."] ++ breakData :: [.str " ", breakData])) = .ok "One." := by
  have ha : ∃ nodes, (load defaultDepthLimit (.arr [.str "One."])).outcome = .ok nodes :=
    ⟨_, rfl⟩
  have hb : ∃ nodes,
      (load defaultDepthLimit (.arr [.str " ", breakData])).outcome = .ok nodes := ⟨_, rfl⟩
  have hrender := (render_append_break
    ⟨.text, Context.defaultBase, .null, defaultDepthLimit⟩ ha hb).2.1
  refine ⟨ha, hb, ?_⟩
  rw [hrender]
  rfl

end Rendering

end TicketMarkup
