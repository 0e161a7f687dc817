import TicketMarkup.Batch
import TicketMarkup.Proofs.Files.Folders
import TicketMarkup.Proofs.Files.Names

/-!
# The files of a batch

The files that a batch takes from a folder go on from it by names of entries (`LiesBelow`), so that
paths and addresses tell them apart alike. What one of them is rendered to lies next to it, is not
what another one is rendered to (`eq_of_rendered`, `eq_of_resolve_rendered`), and is none of the
files taken (`rendered_ne`, `resolve_ne_of_rendered`): neither as a path nor as an address.
-/

namespace TicketMarkup

open FilePath

/-- Whether a path goes on from a folder by names of entries, the last one after some others. -/
structure LiesBelow (folder p : FilePath) (above : List String) : Prop where
  start_eq : p.start = folder.start
  parts_eq : p.parts = folder.parts ++ (above ++ [p.name])
  isEntryName : ∀ s ∈ above ++ [p.name], IsEntryName s

/-- What lies below an address is reached by one name or more, each that of an entry. -/
theorem entryNames_of_mem_namesBelow {files : FileTree} {a : Address} {names : List String}
    (h : names ∈ files.namesBelow a) : names ≠ [] ∧ ∀ s ∈ names, IsEntryName s := by
  refine ⟨?_, fun s hs => ?_⟩
  · obtain ⟨b, -, hb⟩ := List.mem_filterMap.1 h
    split at hb
    next name rest _ =>
      cases hb
      exact List.cons_ne_nil name rest
    next => cases hb
  · exact files.isEntryName _ (FileTree.append_mem_of_mem_namesBelow h) s
      (List.mem_append_right _ hs)

/-- What is listed below a folder lies below it. -/
theorem liesBelow_of_mem_below {files : FileTree} {folder p : FilePath} {recursive : Bool}
    (h : p ∈ files.below folder recursive) : ∃ above, LiesBelow folder p above := by
  unfold FileTree.below at h
  split at h
  · cases h
  next a _ =>
    obtain ⟨hmem, -⟩ := List.mem_filter.1 h
    obtain ⟨names, hnames, rfl⟩ := List.mem_pmap.1 hmem
    obtain ⟨hne, hentry⟩ := entryNames_of_mem_namesBelow hnames
    obtain ⟨above, last, rfl⟩ : ∃ above last, names = above ++ [last] :=
      ⟨_, _, (List.dropLast_concat_getLast hne).symm⟩
    have hparts : ∀ q : FilePath, q.parts = folder.parts ++ (above ++ [last]) → q.name = last :=
      fun q hq => name_eq_of_parts (by rw [hq, List.append_assoc])
    refine ⟨above, rfl, ?_, ?_⟩
    · rw [hparts _ rfl]
      rfl
    · rw [hparts _ rfl]
      exact hentry

namespace LiesBelow

variable {folder p q : FilePath} {above above' : List String} {format : OutputFormat}

/-- What a file below a folder is rendered to lies next to it. -/
theorem rendered (h : LiesBelow folder p above) (format : OutputFormat) :
    LiesBelow folder (p.rendered format.extension none) above := by
  refine ⟨(p.start_rendered format).trans h.start_eq, ?_, ?_⟩
  · rw [name_rendered, parts_rendered, h.parts_eq, ← List.append_assoc, List.dropLast_concat,
      List.append_assoc]
  · rw [name_rendered]
    have habove := (List.forall_mem_append.1 h.isEntryName).1
    exact List.forall_mem_append.2
      ⟨habove, List.forall_mem_singleton.2 (p.isEntryName_renderedName format)⟩

/-- Where a path below a folder leads, if it leads anywhere. -/
theorem eq_append_of_resolve (h : LiesBelow folder p above) {files : FileTree} {a b : Address}
    (hfolder : files.resolve folder = .ok a) (hp : files.resolve p = .ok b) :
    b = a ++ (above ++ [p.name]) :=
  FileTree.eq_append_of_resolve hfolder h.start_eq h.parts_eq h.isEntryName hp

/-- Paths below a folder are told apart by the names on the way. -/
theorem eq_of_names (h : LiesBelow folder p above) (h' : LiesBelow folder q above')
    (heq : above ++ [p.name] = above' ++ [q.name]) : p = q := by
  refine FilePath.ext (h.start_eq.trans h'.start_eq.symm) ?_
  rw [h.parts_eq, h'.parts_eq, heq]

end LiesBelow

/-! ## The files taken -/

section Select

variable {files : FileTree} {folder p q : FilePath} {recursive : Bool} {format : OutputFormat}

/-- What a batch selects has the suffix of tree files at the end of its name. -/
theorem hasTreeName_of_mem_select (h : p ∈ BatchOptions.select files folder recursive) :
    treeSuffix.toList.isSuffixOf p.name.toList = true := by
  have htaken := (BatchOptions.mem_select_iff.1 h).2
  rw [BatchOptions.isTaken, Bool.and_eq_true] at htaken
  exact htaken.1

theorem liesBelow_of_mem_select (h : p ∈ BatchOptions.select files folder recursive) :
    ∃ above, LiesBelow folder p above :=
  liesBelow_of_mem_below (BatchOptions.mem_select_iff.1 h).1

/-- No file that a batch selects is what another path is rendered to. -/
theorem rendered_ne (hq : q ∈ BatchOptions.select files folder recursive) :
    p.rendered format.extension none ≠ q := by
  intro h
  have hname := name_rendered p format none
  rw [h] at hname
  exact renderedName_ne_name (hasTreeName_of_mem_select hq) hname.symm

section Rendered

variable (hp : p ∈ BatchOptions.select files folder recursive)
  (hq : q ∈ BatchOptions.select files folder recursive)

include hp hq

/-- Two tree files that a batch takes are not rendered to the same names below the folder. -/
theorem eq_of_renderedNames {above above' : List String} (habove : LiesBelow folder p above)
    (habove' : LiesBelow folder q above') (hp' : p.isTreePath = true) (hq' : q.isTreePath = true)
    (h : above ++ [p.renderedName format.extension] =
      above' ++ [q.renderedName format.extension]) : p = q := by
  obtain ⟨hfolders, hnames⟩ := List.append_singleton_inj.1 h
  have hname := name_eq_of_renderedName_eq hp' (hasTreeName_of_mem_select hp) hq'
    (hasTreeName_of_mem_select hq) hnames
  exact habove.eq_of_names habove' (by rw [hfolders, hname])

/-- Two tree files below a folder that are rendered to the same place are the same. -/
theorem eq_of_rendered (hp' : p.isTreePath = true) (hq' : q.isTreePath = true)
    (h : p.rendered format.extension none = q.rendered format.extension none) : p = q := by
  obtain ⟨above, habove⟩ := liesBelow_of_mem_select hp
  obtain ⟨above', habove'⟩ := liesBelow_of_mem_select hq
  have hparts := congrArg FilePath.parts h
  rw [(habove.rendered format).parts_eq, (habove'.rendered format).parts_eq,
    name_rendered, name_rendered] at hparts
  exact eq_of_renderedNames hp hq habove habove' hp' hq' (List.append_cancel_left hparts)

/-- Two tree files that a batch takes are not rendered to the same place. -/
theorem eq_of_resolve_rendered {a b : Address} (hfolder : files.resolve folder = .ok a)
    (hp' : p.isTreePath = true) (hq' : q.isTreePath = true)
    (hrendered : files.resolve (p.rendered format.extension none) = .ok b)
    (hrendered' : files.resolve (q.rendered format.extension none) = .ok b) : p = q := by
  obtain ⟨above, habove⟩ := liesBelow_of_mem_select hp
  obtain ⟨above', habove'⟩ := liesBelow_of_mem_select hq
  have hplace := (habove.rendered format).eq_append_of_resolve hfolder hrendered
  rw [(habove'.rendered format).eq_append_of_resolve hfolder hrendered',
    name_rendered, name_rendered] at hplace
  exact eq_of_renderedNames hp hq habove habove' hp' hq' (List.append_cancel_left hplace.symm)

/-- No file that a batch takes lies where one is rendered to. -/
theorem resolve_ne_of_rendered {a b : Address} (hfolder : files.resolve folder = .ok a)
    (hrendered : files.resolve (p.rendered format.extension none) = .ok b) :
    files.resolve q ≠ .ok b := by
  intro h
  obtain ⟨above, habove⟩ := liesBelow_of_mem_select hp
  obtain ⟨above', habove'⟩ := liesBelow_of_mem_select hq
  have hplace := (habove.rendered format).eq_append_of_resolve hfolder hrendered
  rw [habove'.eq_append_of_resolve hfolder h, name_rendered] at hplace
  obtain ⟨-, hnames⟩ := List.append_singleton_inj.1 (List.append_cancel_left hplace)
  exact renderedName_ne_name (hasTreeName_of_mem_select hq) hnames.symm

end Rendered

end Select

end TicketMarkup
