import TicketMarkup.Rendering

/-!
# Rendering a file is all or nothing

A tree file that cannot be rendered to another file leaves every file as it was, whatever the
reason: nothing is written before the whole text is there. A tree file that is rendered changes one
file only, which then holds the text that its data is rendered to. So the two ways to render, in
memory and from file to file, agree (`renderFile_all_or_nothing`).
-/

namespace TicketMarkup

/-- A file holds data exactly if it is named like a tree file and its octets are a JSON text of the
data in UTF-8, with any line ends, that is more than blanks. -/
theorem readTree_eq_ok_iff_octets {files : FileTree} {p : FilePath} {data : Json} :
    files.readTree p = .ok data ↔
      p.isTreePath = true ∧ ∃ octets s, files.read p = .ok octets ∧ Text.decode octets = .ok s ∧
        Text.isAllBlank (Text.unifyLineEnds s) = false ∧
        Json.decode (Text.unifyLineEnds s) = .ok data := by
  simp only [readTree_eq_ok_iff, treeOfOctets_eq_ok_iff, treeOfText_eq_ok_iff, exists_and_left]

namespace Rendering

/-- Data is rendered to a text exactly if its display tree is written as the text. -/
theorem render_eq_ok_iff {r : Rendering} {data : Json} {s : String} :
    r.render data = .ok s ↔
      ∃ tree, r.display data = .ok tree ∧ r.renderer.render tree = .ok s := by
  unfold render
  cases hd : r.display data with
  | error failure => simp
  | ok tree => cases hr : r.renderer.render tree <;> simp [hr]

/-- A tree file is rendered to another exactly if its data is rendered to a text and the text can be
written. -/
theorem exists_renderFile_eq_ok_iff {r : Rendering} {files files' : FileTree}
    {input output : FilePath} :
    (∃ tree, r.renderFile files input output = (.ok tree, files')) ↔
      ∃ data s, files.readTree input = .ok data ∧ r.render data = .ok s ∧
        files.write output (Text.encode s) = .ok files' := by
  simp only [renderFile_eq_ok_iff, render_eq_ok_iff]
  constructor
  · rintro ⟨tree, data, s, hdata, htree, hs, hw⟩
    exact ⟨data, s, hdata, ⟨tree, htree, hs⟩, hw⟩
  · rintro ⟨data, s, hdata, ⟨tree, htree, hs⟩, hw⟩
    exact ⟨tree, data, s, hdata, htree, hs, hw⟩

/-- A tree file fails to be rendered, other than to be read or written, exactly as its data does. -/
theorem renderFile_eq_render_error_iff {r : Rendering} {files : FileTree} {input output : FilePath}
    {fault : RenderFault} :
    (r.renderFile files input output).1 = .error (.render fault) ↔
      ∃ data, files.readTree input = .ok data ∧ r.render data = .error fault := by
  unfold renderFile render
  cases hdata : files.readTree input with
  | error _ => simp
  | ok data =>
    cases hd : r.display data with
    | error _ => simp [hd]
    | ok tree =>
      cases hr : r.renderer.render tree with
      | error _ => simp [hd, hr]
      | ok s => cases hw : files.write output (Text.encode s) <;> simp [hd, hr, hw]

/-- Rendering a file to another changes nothing if it fails. If it succeeds, it gives the display
tree of the data in the input, the output holds the text that the data is rendered to in UTF-8, and
what lies anywhere else is the same. It succeeds whenever the input holds data that is rendered to a
text which can be written, and where the data is not rendered it fails for the same reason. -/
theorem renderFile_all_or_nothing (r : Rendering) (files : FileTree) (input output : FilePath) :
    (∀ fault, (r.renderFile files input output).1 = .error fault →
      (r.renderFile files input output).2 = files) ∧
    (∀ tree, (r.renderFile files input output).1 = .ok tree →
      ∃ octets s data t, files.read input = .ok octets ∧ Text.decode octets = .ok s ∧
        Json.decode (Text.unifyLineEnds s) = .ok data ∧ r.display data = .ok tree ∧
        r.render data = .ok t ∧
        (r.renderFile files input output).2.read output = .ok (Text.encode t) ∧
        ∃ a, files.resolve output = .ok a ∧
          ∀ b, b ≠ a → (r.renderFile files input output).2.get? b = files.get? b) ∧
    (∀ files', (∃ tree, r.renderFile files input output = (.ok tree, files')) ↔
      ∃ data t, files.readTree input = .ok data ∧ r.render data = .ok t ∧
        files.write output (Text.encode t) = .ok files') ∧
    ∀ fault, (r.renderFile files input output).1 = .error (.render fault) ↔
      ∃ data, files.readTree input = .ok data ∧ r.render data = .error fault := by
  refine ⟨fun fault h => renderFile_of_error h, fun tree h => ?_,
    fun files' => exists_renderFile_eq_ok_iff, fun fault => renderFile_eq_render_error_iff⟩
  obtain ⟨files', hrun⟩ : ∃ files', r.renderFile files input output = (.ok tree, files') :=
    ⟨_, Prod.ext h rfl⟩
  obtain ⟨data, t, hdata, htree, ht, hwrite⟩ := renderFile_eq_ok_iff.1 hrun
  obtain ⟨-, octets, s, hoctets, hs, -, hjson⟩ := readTree_eq_ok_iff_octets.1 hdata
  obtain ⟨a, ha, -, -⟩ := FileTree.resolve_of_write hwrite
  have hrender : r.render data = .ok t := render_eq_ok_iff.2 ⟨tree, htree, ht⟩
  refine ⟨octets, s, data, t, hoctets, hs, hjson, htree, hrender, ?_, a, ha, fun b hb => ?_⟩
  · rw [hrun]
    exact FileTree.read_write hwrite
  · rw [hrun]
    exact FileTree.get?_write_of_ne hwrite ha hb

end Rendering

end TicketMarkup
