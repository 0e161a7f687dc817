import Mathlib.Tactic.SplitIfs
import TicketMarkup.Display.Html

/-!
# Display trees up to what HTML tells apart

In HTML neighbouring texts run together, an empty text leaves no trace, and a code block without a
language looks like one with the empty language. `merged` takes the nodes of a tree to a form
without these differences. Main statements: `nodes_mergedFrom`, nodes have the HTML of their merged
form, and `render_merged`, the same of a whole fragment.
-/

namespace TicketMarkup.Html

/-! ## The merged form -/

/-- A language that leaves a trace. -/
def shownLanguage : Option String → Option String
  | some l => if l = "" then none else some l
  | none => none

/-- A run of text as a list of nodes, none if it is empty. -/
def closeText (run : List Char) : List Display :=
  if run = [] then [] else [.text (String.ofList run)]

theorem closeText_nil : closeText [] = [] := rfl

mutual

/-- A node whose texts are merged at every depth. -/
def canonical : Display → Display
  | .text s => .text s
  | .element tag attrs children => .element tag attrs (mergedFrom [] children)
  | .codeBlock code language => .codeBlock code (shownLanguage language)
  | .userLink user => .userLink user

/-- Nodes with their neighbouring texts merged at every depth, after a run of text. -/
def mergedFrom (run : List Char) : List Display → List Display
  | [] => closeText run
  | .text s :: rest => mergedFrom (run ++ s.toList) rest
  | .element tag attrs children :: rest =>
    closeText run ++ canonical (.element tag attrs children) :: mergedFrom [] rest
  | .codeBlock code language :: rest =>
    closeText run ++ canonical (.codeBlock code language) :: mergedFrom [] rest
  | .userLink user :: rest => closeText run ++ canonical (.userLink user) :: mergedFrom [] rest

end

/-- Nodes with their neighbouring texts merged and empty texts left out, at every depth. -/
def merged (tree : List Display) : List Display := mergedFrom [] tree

example : merged [.text "", .text "a", .text "b", .userLink "u", .text ""] =
    [.text "ab", .userLink "u"] := by rfl

/-- Whether a node is a text. -/
def isText : Display → Bool
  | .text _ => true
  | _ => false

theorem mergedFrom_cons_of_not_text {d : Display} (h : isText d = false) (run : List Char)
    (rest : List Display) :
    mergedFrom run (d :: rest) = closeText run ++ canonical d :: merged rest := by
  cases d with
  | text s => cases h
  | _ => rw [mergedFrom, merged]

/-- Nodes without a text among them stay apart. -/
theorem merged_eq_map {tree : List Display} (h : ∀ d ∈ tree, isText d = false) :
    merged tree = tree.map canonical := by
  induction tree with
  | nil => rfl
  | cons d rest ih =>
    obtain ⟨hd, hrest⟩ := List.forall_mem_cons.1 h
    rw [merged, mergedFrom_cons_of_not_text hd, ih hrest]
    rfl

/-! ## The same HTML -/

/-- A run of text is written as one text. -/
theorem nodes_closeText (profiles : String) (run : List Char) :
    nodes profiles (closeText run) = escape false run := by
  unfold closeText
  split_ifs with h
  · rw [h, escape_nil]
    rfl
  · simp [nodes, node]

/-- A language that leaves no trace may be left out. -/
theorem codeBlock_shownLanguage (code : String) (language : Option String) :
    codeBlock code (shownLanguage language) = codeBlock code language := by
  cases language with
  | none => rfl
  | some l =>
    by_cases h : l = ""
    · rw [h]
      rfl
    · rw [shownLanguage, if_neg h]

mutual

/-- Merging texts leaves what is written. -/
theorem node_canonical (profiles : String) :
    ∀ d : Display, node profiles (canonical d) = node profiles d
  | .text s => by simp only [canonical]
  | .element tag attrs children => by
    simp only [canonical, node, nodes_mergedFrom profiles children []]
    rw [escape_nil, List.nil_append]
  | .codeBlock code language => by
    simp only [canonical, node]
    exact codeBlock_shownLanguage code language
  | .userLink user => by simp only [canonical]

/-- Merging leaves no trace in HTML. -/
theorem nodes_mergedFrom (profiles : String) :
    ∀ (tree : List Display) (run : List Char),
      nodes profiles (mergedFrom run tree) = escape false run ++ nodes profiles tree
  | [], run => by simp [mergedFrom, nodes_closeText, nodes]
  | .text s :: rest, run => by
    simp [mergedFrom, nodes_mergedFrom profiles rest, nodes, node, escape_append]
  | .element tag attrs children :: rest, run => by
    simp only [mergedFrom, nodes_append, nodes_closeText, nodes,
      node_canonical profiles (.element tag attrs children), nodes_mergedFrom profiles rest,
      escape_nil, List.nil_append]
  | .codeBlock code language :: rest, run => by
    simp only [mergedFrom, nodes_append, nodes_closeText, nodes,
      node_canonical profiles (.codeBlock code language), nodes_mergedFrom profiles rest,
      escape_nil, List.nil_append]
  | .userLink user :: rest, run => by
    simp only [mergedFrom, nodes_append, nodes_closeText, nodes,
      node_canonical profiles (.userLink user), nodes_mergedFrom profiles rest,
      escape_nil, List.nil_append]

end

/-- A fragment without texts at its top has the HTML of its merged form. -/
theorem render_merged (profiles : String) {tree : List Display}
    (h : ∀ d ∈ tree, isText d = false) :
    render profiles (merged tree) = render profiles tree := by
  have hnode : node profiles ∘ canonical = node profiles :=
    funext fun d => node_canonical profiles d
  rw [merged_eq_map h, render, render, List.map_map, hnode]

end TicketMarkup.Html
