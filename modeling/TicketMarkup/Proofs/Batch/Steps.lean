import TicketMarkup.Batch
import TicketMarkup.Proofs.Files.Folders
import TicketMarkup.Proofs.Rendering.Files

/-!
# Steps of a batch

What rendering one file next to itself comes to (`BatchOptions.Writes`): some octets at one address,
or nothing. It succeeds exactly if there is something to write, and it fails without an answer only
where the path of the file is too long (`renderOne_of_lookup`). What is written is decided by the
folders and by the file itself (`writes_iff`).
-/

namespace TicketMarkup

/-- Only a path that is too long cannot be looked up at all. -/
theorem FileTree.eq_nameTooLong_of_lookup {files : FileTree} {p : FilePath} {fault : AccessFault}
    (h : files.lookup p = .error fault) : fault = .nameTooLong := by
  unfold FileTree.lookup at h
  split at h
  · cases h
  · cases h
    rfl
  · cases h

namespace BatchOptions

variable {o : BatchOptions} {settings : Except SettingsFault Settings}

/-- The rendering of each file, if the settings and the format are accepted. -/
def rendering? (o : BatchOptions) (settings : Except SettingsFault Settings) : Option Rendering :=
  settings.toOption.bind fun settings => (Rendering.ofOptions o.options settings).toOption

theorem rendering?_of_ofOptions {settings : Settings} {r : Rendering}
    (h : Rendering.ofOptions o.options settings = .ok r) :
    o.rendering? (.ok settings) = some r := by
  simp [rendering?, Except.toOption, h]

/-- Whether rendering a file, next to itself, writes octets to an address. -/
structure Writes (o : BatchOptions) (settings : Except SettingsFault Settings)
    (files : FileTree) (p : FilePath) (a : Address) (octets : List UInt8) : Prop where
  exists_text : ∃ r data s, o.rendering? settings = some r ∧ files.readTree p = .ok data ∧
    r.render data = .ok s ∧ octets = Text.encode s
  exists_target : ∃ target, o.target p none = .ok target ∧ files.resolve target = .ok a
  not_folder : files.get? a ≠ some .folder

/-- A file is written to one address, with one text. -/
theorem writes_unique {files : FileTree} {p : FilePath} {a b : Address}
    {octets octets' : List UInt8} (h : o.Writes settings files p a octets)
    (h' : o.Writes settings files p b octets') :
    a = b ∧ octets = octets' := by
  obtain ⟨r, data, s, hr, hdata, hs, rfl⟩ := h.exists_text
  obtain ⟨r', data', s', hr', hdata', hs', rfl⟩ := h'.exists_text
  obtain ⟨target, htarget, ha⟩ := h.exists_target
  obtain ⟨target', htarget', hb⟩ := h'.exists_target
  cases hr.symm.trans hr'
  cases hdata.symm.trans hdata'
  cases hs.symm.trans hs'
  cases htarget.symm.trans htarget'
  cases ha.symm.trans hb
  exact ⟨rfl, rfl⟩

/-- What lies where after a file was rendered. -/
theorem get?_insert_of_writes {files : FileTree} {p : FilePath} {a : Address} {octets : List UInt8}
    (hw : o.Writes settings files p a octets) (b : Address) :
    (files.insert a (.file octets)).get? b =
      if a = b then some (.file octets) else files.get? b := by
  obtain ⟨target, -, ha⟩ := hw.exists_target
  exact FileTree.get?_insert (FileTree.isEntryName_resolve ha)
    (FileTree.ne_nil_of_not_folder hw.not_folder) _ b

/-- What rendering a file writes is the same in a tree with the same folders and the same file. -/
theorem writes_iff {files files' : FileTree} (h : files.SameFolders files') {p : FilePath}
    (hp : ∀ a, files.resolve p = .ok a → files'.get? a = files.get? a) {a : Address}
    {octets : List UInt8} :
    o.Writes settings files' p a octets ↔ o.Writes settings files p a octets := by
  have hfolder : files'.get? a ≠ some .folder ↔ files.get? a ≠ some .folder :=
    not_congr (h.folder_iff a)
  constructor
  · rintro ⟨⟨r, data, s, hr, hdata, hs, rfl⟩, ⟨target, htarget, ha⟩, hf⟩
    exact ⟨⟨r, data, s, hr, (h.readTree_eq_ok_iff hp).1 hdata, hs, rfl⟩,
      ⟨target, htarget, h.resolve_eq_ok_iff.1 ha⟩, hfolder.1 hf⟩
  · rintro ⟨⟨r, data, s, hr, hdata, hs, rfl⟩, ⟨target, htarget, ha⟩, hf⟩
    exact ⟨⟨r, data, s, hr, (h.readTree_eq_ok_iff hp).2 hdata, hs, rfl⟩,
      ⟨target, htarget, h.resolve_eq_ok_iff.2 ha⟩, hfolder.2 hf⟩

/-- An attempt succeeds if there is a rendering, of data in a tree file, to a text that can be
written; and otherwise it leaves the files as they are. -/
theorem attempt_cases (o : BatchOptions) (settings : Except SettingsFault Settings)
    (files : FileTree) (input output : FilePath) :
    (∃ tree r data s files', o.attempt settings files input output = (.ok tree, files') ∧
      o.rendering? settings = some r ∧ files.readTree input = .ok data ∧ r.render data = .ok s ∧
      files.write output (Text.encode s) = .ok files') ∨
    (∃ fault, o.attempt settings files input output = (.error fault, files)) ∧
      ∀ r data s files', o.rendering? settings = some r → files.readTree input = .ok data →
        r.render data = .ok s → files.write output (Text.encode s) ≠ .ok files' := by
  unfold attempt
  cases settings with
  | error fault => exact .inr ⟨⟨_, rfl⟩, by simp [rendering?, Except.toOption]⟩
  | ok settings =>
    cases hr : Rendering.ofOptions o.options settings with
    | error e =>
      exact .inr ⟨⟨.format e, by simp only [hr]⟩, by simp [rendering?, Except.toOption, hr]⟩
    | ok r =>
      simp only [hr, rendering?_of_ofOptions hr]
      rcases hrun : r.renderFile files input output with ⟨fault | tree, files'⟩
      · have hfiles : files' = files := by
          have hkept := Rendering.renderFile_of_error (congrArg Prod.fst hrun)
          rwa [hrun] at hkept
        refine .inr ⟨⟨.file fault, ?_⟩, ?_⟩
        · rw [hfiles]
        · rintro r data s files'' ⟨⟩ hdata hs hwrite
          obtain ⟨tree, hok⟩ :=
            Rendering.exists_renderFile_eq_ok_iff.2 ⟨data, s, hdata, hs, hwrite⟩
          cases hrun.symm.trans hok
      · obtain ⟨data, s, hdata, hs, hwrite⟩ :=
          Rendering.exists_renderFile_eq_ok_iff.1 ⟨tree, hrun⟩
        exact .inl ⟨tree, r, data, s, files', rfl, rfl, hdata, hs, hwrite⟩

/-- Rendering a file to a place gives an answer where the path of the file is not too long. It
succeeds exactly if there is data in the file that is rendered to a text which can be written there,
and changes nothing otherwise. -/
theorem renderOne_cases (settings : Except SettingsFault Settings) {files : FileTree}
    {p : FilePath} {output : Option FilePath} {e : Option Entry} (hlookup : files.lookup p = .ok e)
    {target : FilePath} (htarget : o.target p output = .ok target) :
    ∃ report, o.renderOne settings files p output = .ok report ∧
      ((∃ r data s, report.succeeded = true ∧ o.rendering? settings = some r ∧
          files.readTree p = .ok data ∧ r.render data = .ok s ∧
          files.write target (Text.encode s) = .ok report.files) ∨
        report.succeeded = false ∧ report.files = files ∧
          ∀ r data s files', o.rendering? settings = some r → files.readTree p = .ok data →
            r.render data = .ok s → files.write target (Text.encode s) ≠ .ok files') := by
  unfold renderOne
  cases e with
  | none =>
    refine ⟨_, by rw [hlookup], .inr ⟨rfl, rfl, ?_⟩⟩
    rintro r data s files' - hdata
    rw [FileTree.readTree, hlookup] at hdata
    cases hdata
  | some entry =>
    by_cases htree : p.isTreePath = true
    · simp only [hlookup, htree, htarget]
      rcases attempt_cases o settings files p target with
        ⟨tree, r, data, s, files', hrun, hr, hdata, hs, hwrite⟩ | ⟨⟨fault, hrun⟩, hnone⟩
      · simp only [hrun]
        exact ⟨_, rfl, .inl ⟨r, data, s, rfl, hr, hdata, hs, hwrite⟩⟩
      · simp only [hrun]
        exact ⟨_, rfl, .inr ⟨rfl, rfl, hnone⟩⟩
    · simp only [hlookup, htree]
      refine ⟨_, rfl, .inr ⟨rfl, rfl, ?_⟩⟩
      rintro r data s files' - hdata
      exact absurd (readTree_eq_ok_iff.1 hdata).1 htree

/-- Rendering a file next to itself succeeds exactly if there is something to write, which is then
written, and changes nothing otherwise. -/
theorem renderOne_of_lookup (settings : Except SettingsFault Settings) {files : FileTree}
    {p : FilePath} {e : Option Entry} (hlookup : files.lookup p = .ok e) {target : FilePath}
    (htarget : o.target p none = .ok target) :
    ∃ report, o.renderOne settings files p none = .ok report ∧
      ((∃ a octets, report.succeeded = true ∧ o.Writes settings files p a octets ∧
          report.files = files.insert a (.file octets)) ∨
        report.succeeded = false ∧ report.files = files ∧
          ∀ a octets, ¬o.Writes settings files p a octets) := by
  obtain ⟨report, hreport, hcases⟩ := renderOne_cases settings hlookup htarget
  refine ⟨report, hreport, ?_⟩
  rcases hcases with ⟨r, data, s, hsucceeded, hr, hdata, hs, hwrite⟩ |
    ⟨hsucceeded, hfiles, hnone⟩
  · obtain ⟨a, ha, hfolder, hfiles⟩ := FileTree.resolve_of_write hwrite
    exact .inl ⟨a, _, hsucceeded,
      ⟨⟨r, data, s, hr, hdata, hs, rfl⟩, ⟨target, htarget, ha⟩, hfolder⟩, hfiles⟩
  · refine .inr ⟨hsucceeded, hfiles, ?_⟩
    rintro a octets ⟨⟨r, data, s, hr, hdata, hs, rfl⟩, ⟨target', htarget', ha⟩, hfolder⟩
    cases htarget.symm.trans htarget'
    refine hnone r data s (files.insert a (.file (Text.encode s))) hr hdata hs ?_
    simp [FileTree.write, ha, hfolder]

/-- A path that cannot be looked up ends a batch at once. -/
theorem renderOne_of_lookup_error {files : FileTree} {p : FilePath} {fault : AccessFault}
    (hlookup : files.lookup p = .error fault) :
    o.renderOne settings files p none = .error (.access p fault) := by
  rw [renderOne, hlookup]

/-- Files are rendered by rendering the first and then, from the files that this leaves, the
others. -/
theorem renderAll_cons_eq_ok_iff {files : FileTree} {p : FilePath} {rest : List FilePath}
    {run : BatchReport} :
    o.renderAll settings files (p :: rest) = .ok run ↔
      ∃ one more, o.renderOne settings files p none = .ok one ∧
        o.renderAll settings one.files rest = .ok more ∧ run = one.andThen more := by
  rw [renderAll]
  cases hone : o.renderOne settings files p none with
  | error e => simp
  | ok one =>
    cases hmore : o.renderAll settings one.files rest with
    | error e => simp [hmore]
    | ok more =>
      simp only [hmore, Except.ok.injEq, exists_and_left, exists_eq_left']
      exact eq_comm

/-- What a batch does is what it does with the first file and then with the others. -/
theorem of_renderAll_cons {files : FileTree} {p : FilePath} {one : FileReport}
    (hone : o.renderOne settings files p none = .ok one) (rest : List FilePath) :
    BatchReport.of (o.renderAll settings files (p :: rest)) =
      one.andThen (BatchReport.of (o.renderAll settings one.files rest)) := by
  rw [renderAll, hone]
  cases hmore : o.renderAll settings one.files rest <;> simp [hmore]

end BatchOptions

end TicketMarkup
