import TicketMarkup.Proofs.Files.Names

/-!
# Paths of rendered files

Whatever a path is named, what it is rendered to is recognised as a rendered file, has the extension
of the format and lies in the folder that it was to go to (`FilePath.isResult_rendered`). Two paths
are rendered to the same file only if that folder, their stems and the formats are the same
(`FilePath.rendered_eq_iff`). A tree file has one suffix only, so next to it its result is the
result of no other tree file, and it is itself no tree file.
-/

namespace TicketMarkup

/-- Formats are told apart by their extensions. -/
theorem OutputFormat.extension_injective : Function.Injective OutputFormat.extension := by
  intro format format' h
  revert h
  cases format <;> cases format' <;> decide

namespace FilePath

/-! ## Names and folders -/

/-- Of two paths with the same suffix the names are told apart by the stems. -/
theorem name_eq_iff_stem_eq {p q : FilePath} (h : p.suffix = q.suffix) :
    p.name = q.name ↔ p.stem = q.stem := by
  constructor
  · intro hname
    rw [stem, stem, hname]
  · intro hstem
    rw [← p.stem_append_suffix, ← q.stem_append_suffix, hstem, h]

/-- A path is its parent and its name. -/
theorem parts_eq_append_name {p : FilePath} (h : p.parts ≠ []) :
    p.parts = p.parent.parts ++ [p.name] := by
  rw [name, List.getLast?_eq_some_getLast h, Option.getD_some]
  exact (List.dropLast_concat_getLast h).symm

/-- A path with a name is known from that name and the folder that it lies in. -/
theorem eq_iff_parent_eq_and_name_eq {p q : FilePath} (hp : p.parts ≠ []) (hq : q.parts ≠ []) :
    p = q ↔ p.parent = q.parent ∧ p.name = q.name := by
  constructor
  · rintro rfl
    exact ⟨rfl, rfl⟩
  · rintro ⟨hparent, hname⟩
    have hstart : p.parent.start = q.parent.start := congrArg start hparent
    exact FilePath.ext hstart
      (by rw [parts_eq_append_name hp, parts_eq_append_name hq, hparent, hname])

/-! ## Results -/

/-- Whether a path is one that a file can be rendered to in a folder and a format. -/
structure IsResult (folder : FilePath) (format : OutputFormat) (r : FilePath) : Prop where
  parent_eq : r.parent = folder
  isRendered : r.isRendered = true
  suffix_eq : r.suffix = format.extension
  /-- It is no path of a tree file. -/
  not_isTreePath : r.isTreePath = false

section Result

variable (p : FilePath) (format : OutputFormat) (folder : Option FilePath)

/-- A rendered name is cut before its extension, wherever the stem has dots. -/
theorem splitName_renderedName :
    splitName (p.renderedName format.extension).toList =
      ((p.stem ++ renderedMark).toList, format.extension.toList) := by
  obtain ⟨letters, hletters, hne, hdot⟩ :
      ∃ letters, format.extension.toList = '.' :: letters ∧ letters ≠ [] ∧ '.' ∉ letters := by
    cases format
    · exact ⟨"html".toList, by decide⟩
    · exact ⟨"txt".toList, by decide⟩
  have hmark : renderedMark.toList ≠ [] := by decide
  rw [renderedName, String.toList_append, hletters]
  exact splitName_append_dot (by simp [hmark]) hne hdot

theorem stem_rendered : (p.rendered format.extension folder).stem = p.stem ++ renderedMark := by
  rw [stem, name_rendered, splitName_renderedName, String.ofList_toList]

theorem suffix_rendered : (p.rendered format.extension folder).suffix = format.extension := by
  rw [suffix, name_rendered, splitName_renderedName, String.ofList_toList]

/-- What a path is rendered to is known for a rendered file. -/
theorem isRendered_rendered : (p.rendered format.extension folder).isRendered = true := by
  rw [isRendered, stem_rendered, String.toList_append, List.isSuffixOf_iff_suffix]
  exact List.suffix_append _ _

/-- What a file is rendered to is no tree file, in either case of letters. -/
theorem not_isTreePath_rendered : (p.rendered format.extension folder).isTreePath = false := by
  rw [isTreePath, lowerSuffix, suffix_rendered]
  cases format <;> decide +kernel

/-- What a path is rendered to is a result in the folder that it is rendered into. -/
theorem isResult_rendered :
    IsResult (folder.getD p.parent) format (p.rendered format.extension folder) where
  parent_eq := p.parent_rendered format folder
  isRendered := p.isRendered_rendered format folder
  suffix_eq := p.suffix_rendered format folder
  not_isTreePath := p.not_isTreePath_rendered format folder

end Result

/-- The file that a path is rendered to tells the folder, the stem and the format. -/
theorem rendered_eq_iff {p q : FilePath} {format format' : OutputFormat}
    {folder folder' : Option FilePath} :
    p.rendered format.extension folder = q.rendered format'.extension folder' ↔
      folder.getD p.parent = folder'.getD q.parent ∧ p.stem = q.stem ∧ format = format' := by
  constructor
  · intro h
    have hparent := congrArg parent h
    have hstem := congrArg stem h
    have hsuffix := congrArg suffix h
    rw [parent_rendered, parent_rendered] at hparent
    rw [stem_rendered, stem_rendered] at hstem
    rw [suffix_rendered, suffix_rendered] at hsuffix
    exact ⟨hparent, (String.append_left_inj renderedMark).1 hstem,
      OutputFormat.extension_injective hsuffix⟩
  · rintro ⟨hfolder, hstem, rfl⟩
    rw [rendered, rendered, hfolder, hstem]

/-- The results of tree files lie where they should and are no tree files. Next to the files they
are different for different files or formats, and in one folder for different names or formats. -/
theorem rendered_apart {p q : FilePath} (hp : p.suffix = treeSuffix) (hq : q.suffix = treeSuffix)
    (format format' : OutputFormat) :
    (∀ folder, IsResult (folder.getD p.parent) format (p.rendered format.extension folder) ∧
      p.rendered format.extension folder ≠ q) ∧
    (p.rendered format.extension none = q.rendered format'.extension none ↔
      p = q ∧ format = format') ∧
    ∀ folder, p.rendered format.extension (some folder) =
      q.rendered format'.extension (some folder) ↔ p.name = q.name ∧ format = format' := by
  have hname : p.name = q.name ↔ p.stem = q.stem := name_eq_iff_stem_eq (hp.trans hq.symm)
  have hpath : p = q ↔ p.parent = q.parent ∧ p.name = q.name :=
    eq_iff_parent_eq_and_name_eq (parts_ne_nil_of_isTreePath (isTreePath_of_suffix_eq hp))
      (parts_ne_nil_of_isTreePath (isTreePath_of_suffix_eq hq))
  refine ⟨fun folder => ⟨p.isResult_rendered format folder, fun h => ?_⟩, ?_, fun folder => ?_⟩
  · have hresult := p.not_isTreePath_rendered format folder
    rw [h, isTreePath_of_suffix_eq hq] at hresult
    cases hresult
  · rw [rendered_eq_iff, hpath, hname, and_assoc]
    rfl
  · rw [rendered_eq_iff, hname]
    exact and_iff_right rfl

/-- Dots that begin a name belong to its stem. -/
theorem rendered_apart_leading_dots :
    (ofText "d/..json").suffix = treeSuffix ∧ (ofText "d/...json").suffix = treeSuffix ∧
      IsResult (ofText "d") .html
        ((ofText "d/..json").rendered OutputFormat.html.extension none) ∧
      (ofText "d/..json").rendered OutputFormat.html.extension none ≠
        (ofText "d/...json").rendered OutputFormat.html.extension none := by
  have hp : (ofText "d/..json").suffix = treeSuffix := by decide +kernel
  have hq : (ofText "d/...json").suffix = treeSuffix := by decide +kernel
  have hparent : (ofText "d/..json").parent = ofText "d" := by decide +kernel
  obtain ⟨hresult, hnext, -⟩ := rendered_apart hp hq .html .html
  refine ⟨hp, hq, hparent ▸ (hresult none).1, fun h => ?_⟩
  exact absurd (hnext.1 h).1 (by decide +kernel)

end FilePath

end TicketMarkup
