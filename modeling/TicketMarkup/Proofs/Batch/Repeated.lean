import TicketMarkup.Proofs.Batch.Inputs

/-!
# Runs of a folder can be repeated

After any runs of any folders a run takes the files that it would have taken before all of them, and
each holds what it held then (`SameInputs`, by induction on the history). What a run writes is there
when the next one begins, so that a run which is repeated at once writes every file as it is
(`renderAll_again`). It then tells, records and counts the same, and breaks off at the same file if
it does (`renderFolder_repeatable`).
-/

namespace TicketMarkup

namespace FileTree

theorem listed_of_mem {a : Address} {e : Entry} {entries : List (Address × Entry)}
    (hnodup : (entries.map Prod.fst).Nodup) (h : (a, e) ∈ entries) : listed a entries = some e := by
  induction entries with
  | nil => cases h
  | cons x rest ih =>
    obtain ⟨b, f⟩ := x
    obtain ⟨hb, hrest⟩ := List.nodup_cons.1 hnodup
    rw [listed]
    rcases List.mem_cons.1 h with heq | hmem
    · cases heq
      exact if_pos rfl
    · rw [if_neg, ih hrest hmem]
      rintro rfl
      exact hb (List.mem_map.2 ⟨_, hmem, rfl⟩)

/-- Where a change is told of, other octets lie than before. -/
theorem get?_of_mem_changes {before after : FileTree} {a : Address} {octets : List UInt8}
    (ha : a ≠ []) (h : (a, octets) ∈ before.changes after) : after.get? a ≠ before.get? a := by
  obtain ⟨⟨b, e⟩, hmem, he⟩ := List.mem_filterMap.1 h
  cases e with
  | folder => cases he
  | file content =>
    dsimp only at he
    split at he
    next => cases he
    next hnew =>
      cases he
      rwa [get?, if_neg ha, listed_of_mem after.nodup hmem, ne_comm]

end FileTree

namespace BatchOptions

variable {o : BatchOptions} {settings : Except SettingsFault Settings} {files now final : FileTree}

/-! ## A file that was rendered before -/

/-- The report of a file with other files left. -/
def withFiles (files : FileTree) (one : FileReport) : FileReport := { one with files := files }

section Settled

variable {input output : FilePath} (hread : final.readTree input = now.readTree input)
  (hrefused : ∀ octets fault, now.write output octets = .error fault →
    final.write output octets = .error fault)

include hread hrefused

/-- Rendering a file to another where what it writes is there already comes to the same. -/
theorem renderFile_settled (r : Rendering)
    (hwritten : ∀ data s files', now.readTree input = .ok data → r.render data = .ok s →
      now.write output (Text.encode s) = .ok files' →
      final.write output (Text.encode s) = .ok final) :
    r.renderFile final input output = ((r.renderFile now input output).1, final) := by
  unfold Rendering.renderFile
  rw [hread]
  cases hdata : now.readTree input with
  | error fault => rfl
  | ok data =>
    cases htree : r.display data with
    | error failure => simp only [htree]
    | ok tree =>
      cases hs : r.renderer.render tree with
      | error fault => simp only [htree, hs]
      | ok s =>
        have hrender : r.render data = .ok s := Rendering.render_eq_ok_iff.2 ⟨tree, htree, hs⟩
        cases hwrite : now.write output (Text.encode s) with
        | error fault => simp only [htree, hs, hwrite, hrefused _ _ hwrite]
        | ok files' => simp only [htree, hs, hwrite, hwritten data s files' hdata hrender hwrite]

variable (hwritten : ∀ r data s files', o.rendering? settings = some r →
  now.readTree input = .ok data → r.render data = .ok s →
  now.write output (Text.encode s) = .ok files' → final.write output (Text.encode s) = .ok final)

include hwritten

/-- Once an output is written, to try the file again gives what it gave and changes nothing. -/
theorem attempt_settled :
    o.attempt settings final input output = ((o.attempt settings now input output).1, final) := by
  unfold attempt
  cases settings with
  | error fault => rfl
  | ok settings =>
    cases hr : Rendering.ofOptions o.options settings with
    | error e => simp only [hr]
    | ok r =>
      have hrun := renderFile_settled hread hrefused r fun data s files' =>
        hwritten r data s files' (rendering?_of_ofOptions hr)
      simp only [hr, hrun]
      rcases r.renderFile now input output with ⟨fault | tree, files'⟩ <;> rfl

theorem attemptRecords_settled :
    o.attemptRecords settings final input output = o.attemptRecords settings now input output := by
  unfold attemptRecords
  cases settings with
  | error fault => rfl
  | ok settings =>
    cases hr : Rendering.ofOptions o.options settings with
    | error e => simp only [hr]
    | ok r =>
      have hrun := renderFile_settled hread hrefused r fun data s files' =>
        hwritten r data s files' (rendering?_of_ofOptions hr)
      simp only [hr, Rendering.fileRecords, hread, hrun]

end Settled

/-- What a file is rendered to can be written where it is there already, which changes nothing. -/
theorem write_settled (h : now.SameFolders final) {p target : FilePath}
    (htarget : o.target p none = .ok target)
    (hwritten : ∀ a octets, o.Writes settings now p a octets → final.get? a = some (.file octets))
    (r : Rendering) (data : Json) (s : String) (files' : FileTree)
    (hr : o.rendering? settings = some r) (hdata : now.readTree p = .ok data)
    (hs : r.render data = .ok s) (hwrite : now.write target (Text.encode s) = .ok files') :
    final.write target (Text.encode s) = .ok final := by
  obtain ⟨a, ha, hfolder, -⟩ := FileTree.resolve_of_write hwrite
  have hthere := hwritten a _ ⟨⟨r, data, s, hr, hdata, hs, rfl⟩, ⟨target, htarget, ha⟩, hfolder⟩
  have hinsert := FileTree.insert_of_get? (FileTree.ne_nil_of_not_folder hfolder) hthere
  rw [FileTree.write, h.resolve_eq_ok_iff.2 ha]
  simp only [hthere, hinsert, Option.some.injEq, reduceCtorEq, if_false]

/-- A file is rendered as before where the inputs are the same and what it writes is there. -/
theorem renderOne_settled (h : SameInputs now final) {p : FilePath}
    (hname : ∀ a, now.resolve p = .ok a → HasTreeName a)
    (hwritten : ∀ a octets, o.Writes settings now p a octets →
      final.get? a = some (.file octets)) :
    o.renderOne settings final p none =
      (o.renderOne settings now p none).map (withFiles final) := by
  have hkept : ∀ a, now.resolve p = .ok a → final.get? a = now.get? a :=
    fun a ha => h.get?_eq a (hname a ha)
  unfold renderOne
  rw [h.sameFolders.lookup_eq hkept]
  cases hlookup : now.lookup p with
  | error fault => rfl
  | ok e =>
    cases e with
    | none => rfl
    | some entry =>
      by_cases htree : p.isTreePath = true
      · cases htarget : o.target p none with
        | error fault => simp only [htree, Bool.not_true, Bool.false_eq_true, if_false]; rfl
        | ok target =>
          obtain ⟨a, ha⟩ := FileTree.exists_resolve_of_lookup hlookup
          have hread := FileTree.readTree_eq_of_lookup (h.sameFolders.lookup_eq hkept)
          have hlive := not_isDeadEnd_of_target htree htarget ha
          have hfiles := write_settled h.sameFolders htarget hwritten
          have hrefused : ∀ octets fault, now.write target octets = .error fault →
              final.write target octets = .error fault :=
            fun _ _ => (h.sameFolders.write_eq_error_iff hlive).2
          simp only [htree, attempt_settled hread hrefused hfiles,
            attemptRecords_settled hread hrefused hfiles]
          rcases o.attempt settings now p target with ⟨fault | tree, files'⟩ <;> rfl
      · simp only [htree]
        rfl

/-! ## Runs that are repeated -/

/-- A batch in an unknown format breaks off before it writes anything. -/
theorem files_renderAll_of_unsupported {e : UnsupportedFormat}
    (hformat : OutputFormat.ofName o.format = .error e) (now : FileTree) (inputs : List FilePath) :
    (BatchReport.of (o.renderAll settings now inputs)).files = now := by
  induction inputs with
  | nil => rfl
  | cons p rest ih =>
    cases hone : o.renderOne settings now p none with
    | error fault => simp [renderAll, hone]
    | ok one =>
      rw [of_renderAll_cons hone, FileReport.files_andThen,
        files_renderOne_of_target_error (by rw [target, hformat]) hone, ih]

section Again

variable {inputs done rest : List FilePath} {format : OutputFormat}
  (hformat : OutputFormat.ofName o.format = .ok format)
  (hapart : o.LieApart settings files inputs)

include hformat hapart

/-- A batch that is repeated at once comes to the same as before. -/
theorem renderAll_again (hran : o.RanAlone settings files done now)
    (hall : ∀ q ∈ done ++ rest, q ∈ inputs)
    (hnames : ∀ p ∈ inputs, ∀ a, files.resolve p = .ok a → HasTreeName a) :
    o.renderAll settings (BatchReport.of (o.renderAll settings now rest)).files rest =
      o.renderAll settings now rest := by
  induction rest generalizing done now with
  | nil => rfl
  | cons p rest ih =>
    have hdone : ∀ q ∈ done, q ∈ inputs := fun q hq => hall q (List.mem_append_left _ hq)
    have hp : p ∈ inputs := hall p (List.mem_append_right _ List.mem_cons_self)
    cases hone : o.renderOne settings now p none with
    | error fault => simp [renderAll, hone]
    | ok one =>
      have hafter := RanAlone.of_renderOne hformat hapart hdone hran hp hone
      have hrest : ∀ q ∈ done ++ [p] ++ rest, q ∈ inputs := by simpa using hall
      have hagain := ih hafter hrest
      have hsame := SameInputs.renderAll o settings now (p :: rest)
      obtain ⟨more, -, hmore, -⟩ := RanAlone.exists_after hformat hapart hafter hrest
      rw [of_renderAll_cons hone, FileReport.files_andThen] at hsame ⊢
      have hname : ∀ a, now.resolve p = .ok a → HasTreeName a := fun a ha =>
        hnames p hp a (hran.sameFolders.resolve_eq_ok_iff.1 ha)
      -- What the file wrote in its turn was not written over afterwards.
      have hthere : ∀ a octets, o.Writes settings now p a octets →
          (BatchReport.of (o.renderAll settings one.files rest)).files.get? a =
            some (.file octets) := fun a octets hw =>
        hmore.changed p (by simp) a octets ((RanAlone.writes_iff hapart hdone hran hp).1 hw)
      rw [renderAll, renderAll, renderOne_settled hsame hname hthere, hone]
      simp only [Except.map, withFiles, hagain]
      cases o.renderAll settings one.files rest <;> rfl

end Again

/-- A batch of a folder changes nothing, or it leaves what rendering the files that it takes
leaves. -/
theorem files_renderFolder (o : BatchOptions) (settings : Except SettingsFault Settings)
    (now : FileTree) (folder : FilePath) (recursive : Bool) :
    (BatchReport.of (o.renderFolder settings now folder recursive)).files = now ∨
      now.lookup folder = .ok (some .folder) ∧
        firstFault now (subfolders now folder recursive) = none ∧
        (BatchReport.of (o.renderFolder settings now folder recursive)).files =
          (BatchReport.of (o.renderAll settings now (select now folder recursive))).files := by
  unfold renderFolder
  cases hlookup : now.lookup folder with
  | error fault => exact .inl rfl
  | ok e =>
    rcases e with _ | octets | _
    · exact .inl rfl
    · exact .inl rfl
    · dsimp only
      cases hlisted : firstFault now (subfolders now folder recursive) with
      | some fault => exact .inl rfl
      | none =>
        cases hselect : select now folder recursive with
        | nil => exact .inl rfl
        | cons first rest =>
          refine .inr ⟨rfl, rfl, ?_⟩
          cases hrun : o.renderAll settings now (first :: rest) <;> simp [hrun]

/-- A batch of a folder that is repeated at once comes to the same as before. -/
theorem renderFolder_again (o : BatchOptions) (settings : Except SettingsFault Settings)
    (now : FileTree) (folder : FilePath) (recursive : Bool) :
    o.renderFolder settings (BatchReport.of (o.renderFolder settings now folder recursive)).files
        folder recursive =
      o.renderFolder settings now folder recursive := by
  have hsame := SameInputs.renderFolder o settings now folder recursive
  rcases files_renderFolder o settings now folder recursive with
    hfiles | ⟨hfolder, hlisted, hfiles⟩
  · rw [hfiles]
  · have htaken : taken now folder recursive = select now folder recursive := by
      simp only [taken, hfolder]
    have hall : o.renderAll settings
        (BatchReport.of (o.renderAll settings now (select now folder recursive))).files
          (select now folder recursive) =
        o.renderAll settings now (select now folder recursive) := by
      cases hformat : OutputFormat.ofName o.format with
      | error e => rw [files_renderAll_of_unsupported hformat]
      | ok format =>
        exact renderAll_again hformat (lieApart_taken hformat) ranAlone_nil
          (fun q hq => htaken ▸ hq) fun p hp a ha => hasTreeName_of_mem_taken hp ha
    have hsubfolders : ∀ t, SameInputs now t →
        subfolders t folder recursive = subfolders now folder recursive := fun t ht => by
      simp only [subfolders, ht.foldersBelow_eq]
    rw [hfiles] at hsame ⊢
    unfold renderFolder
    simp only [hfolder, hsame.sameFolders.lookup_folder_iff.2 hfolder, hsubfolders _ hsame,
      hsame.firstFault_eq, hlisted, hsame.select_eq]
    cases hselect : select now folder recursive with
    | nil => simp [renderAll]
    | cons first rest =>
      rw [hselect] at hall
      simp only [hall]

/-! ## Histories -/

/-- A run of a folder. -/
structure FolderRun where
  options : BatchOptions
  folder : FilePath
  /-- Whether the folders in it are gone through as well. -/
  recursive : Bool

namespace FolderRun

/-- What a run comes to, from the files that it begins with. -/
def outcome (settings : Except SettingsFault Settings) (files : FileTree) (run : FolderRun) :
    Except BatchBreak BatchReport :=
  run.options.renderFolder settings files run.folder run.recursive

/-- The files that a run leaves, broken off or not. -/
def after (settings : Except SettingsFault Settings) (files : FileTree) (run : FolderRun) :
    FileTree :=
  (BatchReport.of (run.outcome settings files)).files

/-- The files that runs leave, one after the other. -/
def afterAll (settings : Except SettingsFault Settings) (files : FileTree)
    (runs : List FolderRun) : FileTree :=
  runs.foldl (after settings) files

end FolderRun

/-- Any runs keep the inputs. -/
theorem SameInputs.afterAll (settings : Except SettingsFault Settings) (files : FileTree)
    (runs : List FolderRun) : SameInputs files (FolderRun.afterAll settings files runs) := by
  induction runs generalizing files with
  | nil => exact .refl files
  | cons run rest ih =>
    exact (SameInputs.renderFolder run.options settings files run.folder run.recursive).trans
      (ih (run.after settings files))

/-- What is the same before and after some runs, and how a run is repeated after them. -/
structure Repeatable (settings : Except SettingsFault Settings) (files now : FileTree) : Prop where
  /-- A run of any folder takes the same files. -/
  taken_eq : ∀ folder recursive, taken now folder recursive = taken files folder recursive
  /-- Each file that is taken holds the same. -/
  lookup_eq : ∀ folder recursive, ∀ p ∈ taken files folder recursive,
    now.lookup p = files.lookup p
  /-- No file that is taken was made, or given other octets. -/
  not_changed : ∀ folder recursive, ∀ p ∈ taken now folder recursive,
    ∀ a octets, (a, octets) ∈ files.changes now → now.resolve p ≠ .ok a
  /-- A run that is repeated tells, records and counts the same, or breaks off again. -/
  outcome_eq : ∀ run : FolderRun,
    run.outcome settings (run.after settings now) = run.outcome settings now
  /-- A run that is repeated leaves every file as it is. -/
  after_eq : ∀ run : FolderRun,
    run.after settings (run.after settings now) = run.after settings now

/-- After any runs of any folders, in any formats and with any tickets, runs of folders take what
they took before, and a run that is repeated at once changes nothing. -/
theorem renderFolder_repeatable (settings : Except SettingsFault Settings) (files : FileTree)
    (runs : List FolderRun) :
    Repeatable settings files (FolderRun.afterAll settings files runs) := by
  have hsame := SameInputs.afterAll settings files runs
  have houtcome : ∀ (run : FolderRun) (now : FileTree),
      run.outcome settings (run.after settings now) = run.outcome settings now :=
    fun run now => renderFolder_again run.options settings now run.folder run.recursive
  refine ⟨hsame.taken_eq, fun folder recursive p => hsame.lookup_eq, ?_,
    fun run => houtcome run _, fun run => by rw [FolderRun.after, houtcome]; rfl⟩
  intro folder recursive p hp a octets hchanged ha
  have hname := hasTreeName_of_mem_taken hp ha
  have hne : a ≠ [] := by
    obtain ⟨above, name, rfl, -⟩ := hname
    simp
  exact FileTree.get?_of_mem_changes hne hchanged (hsame.get?_eq a hname)

end BatchOptions

end TicketMarkup
