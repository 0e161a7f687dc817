import TicketMarkup.FileTree
import TicketMarkup.OutputFormat
import TicketMarkup.Proofs.Text.Lines
import TicketMarkup.TreeFile

/-!
# Names of files

A name that ends in a dot and some characters without one splits there, unless nothing is before the
dot (`FilePath.splitName_append_dot`). A file that is rendered next to itself gets the name of its
stem with the mark of rendered files and the extension of the format, in the folder that it lies in
(`FilePath.parts_rendered`). That name tells which tree file it belongs to, and no tree file has it.
-/

namespace TicketMarkup

namespace FilePath

/-! ## Stems -/

/-- A name splits at its last dot, unless nothing is before it. -/
theorem splitName_append_dot {base ext : List Char} (hbase : base ≠ []) (hext : ext ≠ [])
    (hdot : '.' ∉ ext) : splitName (base ++ '.' :: ext) = (base, '.' :: ext) := by
  have hreverse : (base ++ '.' :: ext).reverse = ext.reverse ++ '.' :: base.reverse := by simp
  have hrun : ∀ c ∈ ext.reverse, decide (c ≠ '.') = true := fun c hc =>
    decide_eq_true fun h => hdot (h ▸ List.mem_reverse.1 hc)
  have htake : (ext.reverse ++ '.' :: base.reverse).takeWhile (· ≠ '.') = ext.reverse := by
    rw [List.takeWhile_append_of_pos hrun, List.takeWhile_cons_of_neg (by simp), List.append_nil]
  have hdrop : (ext.reverse ++ '.' :: base.reverse).dropWhile (· ≠ '.') = '.' :: base.reverse := by
    rw [List.dropWhile_append_of_pos hrun, List.dropWhile_cons_of_neg (by simp)]
  simp only [splitName, hreverse, htake, hdrop]
  simp [hbase, hext]

theorem stem_toList (p : FilePath) : p.stem.toList = (splitName p.name.toList).1 :=
  String.toList_ofList

/-- The suffix of tree files in small letters makes a tree path. -/
theorem isTreePath_of_suffix_eq {p : FilePath} (h : p.suffix = treeSuffix) :
    p.isTreePath = true := by
  have hlower : Text.lower treeSuffix = treeSuffix := by decide +kernel
  rw [isTreePath, lowerSuffix, h, hlower]
  exact decide_eq_true rfl

theorem suffix_ne_of_isTreePath {p : FilePath} (htree : p.isTreePath = true) : p.suffix ≠ "" := by
  intro hsuffix
  have hlower : Text.lower "" = "" := by decide +kernel
  rw [isTreePath, lowerSuffix, hsuffix, hlower] at htree
  exact absurd (of_decide_eq_true htree) (by decide)

theorem parts_ne_nil_of_isTreePath {p : FilePath} (htree : p.isTreePath = true) :
    p.parts ≠ [] := by
  intro hparts
  refine suffix_ne_of_isTreePath htree ?_
  rw [suffix, name, hparts]
  rfl

/-- A tree file that is named in lower case has its stem and the suffix of tree files for a
name. -/
theorem name_eq_of_isTreePath {p : FilePath} (htree : p.isTreePath = true)
    (hname : treeSuffix.toList.isSuffixOf p.name.toList = true) :
    p.name = p.stem ++ treeSuffix := by
  obtain ⟨base, hbase⟩ := List.isSuffixOf_iff_suffix.1 hname
  have hne : base ≠ [] := by
    rintro rfl
    refine suffix_ne_of_isTreePath htree ?_
    rw [suffix, ← hbase]
    rfl
  have hsplit : splitName (base ++ treeSuffix.toList) = (base, treeSuffix.toList) :=
    splitName_append_dot hne (by decide) (by decide)
  rw [← String.toList_inj, String.toList_append, stem_toList, ← hbase, hsplit]

/-! ## Rendered files -/

/-- What the file is named that a path is rendered to. -/
def renderedName (p : FilePath) (extension : String) : String :=
  p.stem ++ renderedMark ++ extension

theorem notMem_stem (p : FilePath) : '/' ∉ p.stem.toList := by
  have hname : '/' ∉ p.name.toList := by
    unfold name
    cases hlast : p.parts.getLast? with
    | none => decide
    | some s => exact (p.isPathName s (List.mem_of_getLast? hlast)).2.2
  intro hmem
  refine hname ?_
  rw [← fst_append_snd_splitName p.name.toList, ← stem_toList]
  exact List.mem_append_left _ hmem

/-- The name that a file is rendered to is one that an entry can have. -/
theorem isEntryName_renderedName (p : FilePath) (format : OutputFormat) :
    IsEntryName (p.renderedName format.extension) := by
  have hlength : 2 < (p.renderedName format.extension).toList.length := by
    have hmark : renderedMark.toList.length = 9 := by decide
    simp only [renderedName, String.toList_append, List.length_append, hmark]
    omega
  have hne : ∀ s : String, s.toList.length ≤ 2 → p.renderedName format.extension ≠ s := by
    rintro s hs rfl
    omega
  refine ⟨⟨hne _ (by decide), hne _ (by decide), ?_⟩, hne _ (by decide)⟩
  simp only [renderedName, String.toList_append, List.mem_append, not_or]
  exact ⟨⟨p.notMem_stem, by decide⟩, by cases format <;> decide⟩

theorem start_ofText_of_notMem {s : String} (h : '/' ∉ s.toList) :
    (ofText s).start = .working := by
  have htake : s.toList.takeWhile (· = '/') = [] := by
    cases hs : s.toList with
    | nil => rfl
    | cons c rest =>
      rw [hs] at h
      have hne : '/' ≠ c := (not_or.1 (mt List.mem_cons.2 h)).1
      exact List.takeWhile_cons_of_neg (by simpa [eq_comm] using hne)
  rw [ofText, htake]
  rfl

/-- A text that is one name is a path of that name only. -/
theorem parts_ofText_of_isPathName {s : String} (h : IsPathName s) : (ofText s).parts = [s] := by
  obtain ⟨hempty, hdot, hslash⟩ := h
  simp [ofText, partsOf, Text.split_of_notMem hslash, hempty, hdot]

theorem start_ofText_renderedName (p : FilePath) (format : OutputFormat) :
    (ofText (p.renderedName format.extension)).start = .working :=
  start_ofText_of_notMem (p.isEntryName_renderedName format).1.2.2

/-- The file that a path is rendered to is one name below the folder that it goes to. -/
theorem rendered_eq_append (p : FilePath) (format : OutputFormat) (folder : Option FilePath) :
    p.rendered format.extension folder =
      (folder.getD p.parent).append [p.renderedName format.extension]
        (List.forall_mem_singleton.2 (p.isEntryName_renderedName format).1) := by
  show (folder.getD p.parent).join (ofText (p.renderedName format.extension)) = _
  refine FilePath.ext ?_ ?_
  · simp only [join, start_ofText_renderedName, append]
  · rw [parts_join (start_ofText_renderedName p format),
      parts_ofText_of_isPathName (p.isEntryName_renderedName format).1]
    rfl

/-- A path is rendered to one with the same start. -/
theorem start_rendered (p : FilePath) (format : OutputFormat) :
    (p.rendered format.extension none).start = p.start := by
  rw [rendered_eq_append]
  rfl

/-- The file that a path is rendered to lies in the same folder. -/
theorem parts_rendered (p : FilePath) (format : OutputFormat) :
    (p.rendered format.extension none).parts =
      p.parts.dropLast ++ [p.renderedName format.extension] := by
  rw [rendered_eq_append]
  rfl

/-- A path is rendered into the folder that is given, or else into its own. -/
theorem parent_rendered (p : FilePath) (format : OutputFormat) (folder : Option FilePath) :
    (p.rendered format.extension folder).parent = folder.getD p.parent := by
  rw [rendered_eq_append]
  exact FilePath.ext rfl List.dropLast_concat

theorem name_eq_of_parts {p : FilePath} {above : List String} {s : String}
    (h : p.parts = above ++ [s]) : p.name = s := by
  rw [name, h, List.getLast?_concat, Option.getD_some]

/-- The name of what a path is rendered to has the stem of the path, the mark and the extension. -/
theorem name_rendered (p : FilePath) (format : OutputFormat) (folder : Option FilePath) :
    (p.rendered format.extension folder).name = p.renderedName format.extension := by
  rw [rendered_eq_append]
  exact name_eq_of_parts rfl

/-- The name that a tree file is rendered to tells which tree file it is. -/
theorem name_eq_of_renderedName_eq {p q : FilePath} {extension : String}
    (hp : p.isTreePath = true) (hp' : treeSuffix.toList.isSuffixOf p.name.toList = true)
    (hq : q.isTreePath = true) (hq' : treeSuffix.toList.isSuffixOf q.name.toList = true)
    (h : p.renderedName extension = q.renderedName extension) : p.name = q.name := by
  have hstem : p.stem = q.stem := by
    rw [renderedName, renderedName] at h
    exact (String.append_left_inj _).1 ((String.append_left_inj _).1 h)
  rw [name_eq_of_isTreePath hp hp', name_eq_of_isTreePath hq hq', hstem]

/-- What a file is rendered to is not named like a tree file. -/
theorem not_suffix_renderedName (p : FilePath) (format : OutputFormat) :
    ¬treeSuffix.toList.isSuffixOf (p.renderedName format.extension).toList = true := by
  intro h
  obtain ⟨base, hbase⟩ := List.isSuffixOf_iff_suffix.1 h
  have htree : (p.renderedName format.extension).toList.getLast? = some 'n' := by
    rw [← hbase, List.getLast?_append]
    rfl
  have hrendered : (p.renderedName format.extension).toList.getLast? =
      format.extension.toList.getLast? := by
    rw [renderedName, String.toList_append, List.getLast?_append]
    cases format <;> rfl
  rw [htree] at hrendered
  cases format <;> exact absurd hrendered (by decide)

/-- No tree file is named like a rendered one. -/
theorem renderedName_ne_name {p q : FilePath} {format : OutputFormat}
    (hq : treeSuffix.toList.isSuffixOf q.name.toList = true) :
    p.renderedName format.extension ≠ q.name := fun h =>
  p.not_suffix_renderedName format (h ▸ hq)

end FilePath

end TicketMarkup
