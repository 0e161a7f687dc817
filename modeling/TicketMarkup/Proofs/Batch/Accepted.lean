import TicketMarkup.Proofs.Batch.Inputs

/-!
# What counts as an input

An entry of a folder is an input if it is a file, is named like a tree file with the suffix in
either case of letters, and is not named like a rendered one (`FileTree.IsInput`). A batch goes by
less: the name has to end with the suffix in lower case, and what lies there is not asked. So there
are three sorts of entries that a batch takes and should not, or does not take and should
(`FileTree.Misfit`): what is named like a tree file and is no file, what has nothing but the suffix
for a name, and a tree file whose suffix is in another case. These are all of them
(`isTaken_iff_isInput_iff`).

Main statement: `takes_inputs_iff`, a batch takes exactly the inputs of a folder where there is no
such entry, and then it refuses none of what it takes.
-/

namespace TicketMarkup

/-! ## Inputs and misfits -/

namespace FileTree

/-- Whether a path leads to a file that may be rendered on its own and was not itself rendered. -/
def IsInput (files : FileTree) (p : FilePath) : Prop :=
  files.isFile p = true ∧ p.isTreePath = true ∧ p.isRendered = false

instance (files : FileTree) (p : FilePath) : Decidable (files.IsInput p) :=
  inferInstanceAs (Decidable (_ ∧ _))

/-- Whether a batch judges an entry differently from what it is. -/
inductive Misfit (files : FileTree) (p : FilePath) : Prop where
  /-- It is named like a tree file and is none. -/
  | noFile (hname : treeSuffix.toList.isSuffixOf p.name.toList = true)
    (hrendered : p.isRendered = false) (hfile : files.isFile p = false)
  /-- The name begins with the suffix, which does not count as one then. -/
  | noStem (hname : p.name = treeSuffix)
  /-- It is an input, but the suffix is not in lower case. -/
  | otherCase (hinput : files.IsInput p) (hsuffix : p.suffix ≠ treeSuffix)

end FileTree

namespace FilePath

variable {p : FilePath}

/-- A name that is nothing but the suffix of tree files has no suffix. -/
theorem suffix_of_name_eq (h : p.name = treeSuffix) : p.suffix = "" := by
  rw [suffix, h]
  decide

theorem isRendered_of_name_eq (h : p.name = treeSuffix) : p.isRendered = false := by
  rw [isRendered, stem_toList, h]
  decide

/-- A path with the suffix of tree files has a name that ends in it. -/
theorem isSuffixOf_of_suffix_eq (h : p.suffix = treeSuffix) :
    treeSuffix.toList.isSuffixOf p.name.toList = true := by
  rw [List.isSuffixOf_iff_suffix, ← p.stem_append_suffix, h, String.toList_append]
  exact List.suffix_append _ _

/-- A name that ends with the suffix has it, unless it is nothing else. -/
theorem suffix_eq_of_isSuffixOf (h : treeSuffix.toList.isSuffixOf p.name.toList = true)
    (hne : p.name ≠ treeSuffix) : p.suffix = treeSuffix := by
  obtain ⟨base, hbase⟩ := List.isSuffixOf_iff_suffix.1 h
  have hnil : base ≠ [] := by
    rintro rfl
    exact hne (String.toList_inj.1 hbase.symm)
  have hsplit : splitName (base ++ treeSuffix.toList) = (base, treeSuffix.toList) :=
    splitName_append_dot hnil (by decide) (by decide)
  rw [suffix, ← hbase, hsplit, String.ofList_toList]

end FilePath

namespace BatchOptions

open FilePath

/-- What a batch asks of a name: its end in small letters, and not the mark of a rendered file. -/
theorem isTaken_iff {p : FilePath} :
    isTaken p = true ↔
      treeSuffix.toList.isSuffixOf p.name.toList = true ∧ p.isRendered = false := by
  rw [isTaken, Bool.and_eq_true, Bool.not_eq_true']

/-- An entry is judged by its name as it should be, unless it is one of the misfits. -/
theorem isTaken_iff_isInput_iff {files : FileTree} {p : FilePath} :
    (isTaken p = true ↔ files.IsInput p) ↔ ¬files.Misfit p := by
  constructor
  · rintro h (⟨hname, hrendered, hfile⟩ | hname | ⟨hinput, hsuffix⟩)
    · have hinput := h.1 (isTaken_iff.2 ⟨hname, hrendered⟩)
      exact absurd hinput.1 (by simp [hfile])
    · have htaken : isTaken p = true := by
        rw [isTaken_iff, hname]
        exact ⟨by decide, isRendered_of_name_eq hname⟩
      exact suffix_ne_of_isTreePath (h.1 htaken).2.1 (suffix_of_name_eq hname)
    · have hname : p.name ≠ treeSuffix := fun hname =>
        suffix_ne_of_isTreePath hinput.2.1 (suffix_of_name_eq hname)
      exact hsuffix (suffix_eq_of_isSuffixOf (isTaken_iff.1 (h.2 hinput)).1 hname)
  · intro hfit
    constructor
    · intro htaken
      obtain ⟨hends, hrendered⟩ := isTaken_iff.1 htaken
      have hfile : files.isFile p = true :=
        Bool.of_not_eq_false fun hfile => hfit (.noFile hends hrendered hfile)
      have hname : p.name ≠ treeSuffix := fun hname => hfit (.noStem hname)
      exact ⟨hfile, isTreePath_of_suffix_eq (suffix_eq_of_isSuffixOf hends hname), hrendered⟩
    · intro hinput
      have hsuffix : p.suffix = treeSuffix :=
        Decidable.not_not.1 fun hsuffix => hfit (.otherCase hinput hsuffix)
      exact isTaken_iff.2 ⟨isSuffixOf_of_suffix_eq hsuffix, hinput.2.2⟩

/-- A batch takes exactly the inputs if there is no misfit among the entries, and only then. -/
theorem select_iff_isInput_iff (files : FileTree) (folder : FilePath) (recursive : Bool) :
    (∀ p, p ∈ select files folder recursive ↔
        p ∈ files.below folder recursive ∧ files.IsInput p) ↔
      ∀ p ∈ files.below folder recursive, ¬files.Misfit p := by
  simp only [mem_select_iff, ← isTaken_iff_isInput_iff]
  constructor
  · intro h p hp
    simpa [hp] using h p
  · intro h p
    exact and_congr_right (h p)

end BatchOptions

/-! ## Refusals -/

/-- Whether a fault is that of what lies where a path leads, or of its name, and not of what is
written there. -/
def TreeFileFault.isOfEntry : TreeFileFault → Bool
  | .absent => true
  | .unsupported => true
  | .access _ => true
  | _ => false

/-- Whether a notice says that there was no tree file to render. -/
def Notice.isRefusal : Notice → Bool
  | .notFound _ => true
  | .skipped _ => true
  | .failure _ _ (.file (.input fault)) => fault.isOfEntry
  | _ => false

/-- Whatever is wrong with the octets of a file is no fault of the entry. -/
theorem isOfEntry_of_treeOfOctets {octets : List UInt8} {fault : TreeFileFault}
    (h : treeOfOctets octets = .error fault) : fault.isOfEntry = false := by
  unfold treeOfOctets treeOfText at h
  repeat' split at h
  all_goals cases h
  all_goals rfl

section File

variable {files : FileTree} {input output : FilePath} {octets : List UInt8}
  (hlookup : files.lookup input = .ok (some (.file octets))) (htree : input.isTreePath = true)

include hlookup htree

/-- Where a tree file lies, reading it finds no fault of the entry. -/
theorem isOfEntry_of_readTree {fault : TreeFileFault} (h : files.readTree input = .error fault) :
    fault.isOfEntry = false := by
  have hread : files.read input = .ok octets := FileTree.read_of_lookup hlookup
  simp only [FileTree.readTree, hlookup, htree, hread] at h
  exact isOfEntry_of_treeOfOctets h

theorem isOfEntry_of_renderFile {r : Rendering} {fault : TreeFileFault}
    (h : (r.renderFile files input output).1 = .error (.input fault)) :
    fault.isOfEntry = false := by
  unfold Rendering.renderFile at h
  split at h
  next hread =>
    cases h
    exact isOfEntry_of_readTree hlookup htree hread
  next =>
    repeat' split at h
    all_goals cases h

namespace BatchOptions

variable {o : BatchOptions} {settings : Except SettingsFault Settings}

/-- A tree file that is there may fail, but is not refused. -/
theorem isRefusal_of_attempt {fault : RunFault}
    (h : (o.attempt settings files input output).1 = .error fault) :
    (Notice.failure input output fault).isRefusal = false := by
  unfold attempt at h
  split at h
  next =>
    cases h
    rfl
  next =>
    split at h
    next =>
      cases h
      rfl
    next r _ =>
      split at h
      next fault' _ hrun =>
        cases h
        cases fault' with
        | input fault =>
          exact isOfEntry_of_renderFile hlookup htree (congrArg Prod.fst hrun)
        | render fault => rfl
        | output fault => rfl
        | unencodable complaint => rfl
      next => cases h

omit hlookup htree in
/-- To announce a file is not to refuse it. -/
theorem not_isRefusal_announcement :
    ∀ n ∈ o.announcement input output, n.isRefusal = false := by
  unfold announcement
  split
  · split <;> simp [Notice.isRefusal]
  · exact List.forall_mem_nil _

/-- A tree file is not refused, whatever else is wrong with it. -/
theorem not_isRefusal_renderOne {one : FileReport}
    (h : o.renderOne settings files input none = .ok one) :
    ∀ n ∈ one.notices, n.isRefusal = false := by
  unfold renderOne at h
  simp only [hlookup, htree, Bool.not_true, Bool.false_eq_true, if_false] at h
  cases htarget : o.target input none with
  | error fault => simp [htarget] at h
  | ok target =>
    simp only [htarget] at h
    rcases hattempt : o.attempt settings files input target with ⟨fault | tree, files'⟩
    · have hfailure := isRefusal_of_attempt hlookup htree (congrArg Prod.fst hattempt)
      rw [hattempt] at h
      rw [← Except.ok.inj h]
      exact List.forall_mem_append.2
        ⟨not_isRefusal_announcement, List.forall_mem_singleton.2 hfailure⟩
    · rw [hattempt] at h
      rw [← Except.ok.inj h]
      exact List.forall_mem_append.2
        ⟨not_isRefusal_announcement, List.forall_mem_singleton.2 rfl⟩

end BatchOptions

end File

namespace BatchOptions

variable {o : BatchOptions} {settings : Except SettingsFault Settings} {files : FileTree}
  {folder : FilePath} {recursive : Bool}

/-- What a batch takes is found as it was before the batch, whatever has been rendered since. -/
theorem not_isRefusal_renderAll {now : FileTree} (hsame : SameInputs files now)
    {inputs : List FilePath}
    (hinputs : ∀ p ∈ inputs, p ∈ taken files folder recursive ∧ files.IsInput p) :
    ∀ n ∈ (BatchReport.of (o.renderAll settings now inputs)).notices, n.isRefusal = false := by
  induction inputs generalizing now with
  | nil => exact List.forall_mem_nil _
  | cons p rest ih =>
    obtain ⟨⟨hp, hfile, htree, -⟩, hrest⟩ := List.forall_mem_cons.1 hinputs
    obtain ⟨octets, hlookup⟩ := FileTree.lookup_of_isFile hfile
    -- The files rendered before it have left this one as it was.
    rw [← hsame.lookup_eq hp] at hlookup
    cases hone : o.renderOne settings now p none with
    | error fault =>
      rw [BatchOptions.renderAll, hone]
      exact List.forall_mem_singleton.2 rfl
    | ok one =>
      rw [of_renderAll_cons hone, FileReport.notices_andThen]
      exact List.forall_mem_append.2 ⟨not_isRefusal_renderOne hlookup htree hone,
        ih (hsame.trans (.renderOne hone)) hrest⟩

/-- A batch refuses nothing that it takes, if all of that are inputs. -/
theorem not_isRefusal_renderFolder
    (h : ∀ p ∈ select files folder recursive, files.IsInput p) :
    ∀ n ∈ (BatchReport.of (o.renderFolder settings files folder recursive)).notices,
      n.isRefusal = false := by
  unfold renderFolder
  split
  next => exact List.forall_mem_nil _
  next hfolder =>
    split
    next => exact List.forall_mem_nil _
    next =>
      have htaken : taken files folder recursive = select files folder recursive := by
        simp only [taken, hfolder]
      have hrun : ∀ n ∈ (BatchReport.of (o.renderAll settings files
          (select files folder recursive))).notices, n.isRefusal = false :=
        not_isRefusal_renderAll (.refl files) fun p hp => ⟨htaken ▸ hp, h p hp⟩
      split
      next => exact List.forall_mem_singleton.2 rfl
      next first rest hselect =>
        rw [hselect] at hrun
        split
        next stop hstop =>
          rw [hstop] at hrun
          simpa [Notice.isRefusal] using hrun
        next report hreport =>
          rw [hreport] at hrun
          simpa [or_imp, forall_and, Notice.isRefusal] using hrun
  next => exact List.forall_mem_singleton.2 rfl

/-- A batch takes exactly the inputs among the entries of a folder if there is no misfit among them,
and only then. If so it refuses nothing, whatever it is asked for. -/
theorem takes_inputs_iff (files : FileTree) (folder : FilePath) (recursive : Bool) :
    ((∀ p, p ∈ select files folder recursive ↔
        p ∈ files.below folder recursive ∧ files.IsInput p) ↔
      ∀ p ∈ files.below folder recursive, ¬files.Misfit p) ∧
    ((∀ p ∈ files.below folder recursive, ¬files.Misfit p) →
      ∀ (o : BatchOptions) settings,
        ∀ n ∈ (BatchReport.of (o.renderFolder settings files folder recursive)).notices,
          n.isRefusal = false) := by
  have hselect := select_iff_isInput_iff files folder recursive
  refine ⟨hselect, fun hfit o settings => ?_⟩
  exact not_isRefusal_renderFolder fun p hp => ((hselect.2 hfit p).1 hp).2

/-- The files and folders at some addresses, and the folders on the way to them. -/
def filesAt (entries : List (Address × Entry)) : FileTree :=
  entries.foldl (fun files e => files.place e.1 e.2) (.empty [] (List.forall_mem_nil _))

/-- A folder with a tree file, a file that was rendered and one of another kind. -/
def tidyFiles : FileTree :=
  filesAt [(["d", "t.json"], .file (Text.encode "[")), (["d", "s-rendered.json"], .file []),
    (["d", "u.txt"], .file [])]

/-- The only input of a folder is taken, and not refused although it is no JSON. -/
theorem takes_inputs_iff_tidy :
    (∀ p ∈ tidyFiles.below (.ofText "d") true, ¬tidyFiles.Misfit p) ∧
    (.ofText "d/t.json" ∈ select tidyFiles (.ofText "d") true ↔
      .ofText "d/t.json" ∈ tidyFiles.below (.ofText "d") true ∧
        tidyFiles.IsInput (.ofText "d/t.json")) ∧
    ∀ n ∈ (BatchReport.of ((⟨"html", false, .null, none⟩ : BatchOptions).renderFolder
        (.ok .default) tidyFiles (.ofText "d") true)).notices, n.isRefusal = false := by
  obtain ⟨hselect, hrun⟩ := takes_inputs_iff tidyFiles (.ofText "d") true
  have hjudged : ∀ p ∈ tidyFiles.below (.ofText "d") true,
      (isTaken p = true ↔ tidyFiles.IsInput p) := by decide +kernel
  have hfit : ∀ p ∈ tidyFiles.below (.ofText "d") true, ¬tidyFiles.Misfit p :=
    fun p hp => isTaken_iff_isInput_iff.1 (hjudged p hp)
  exact ⟨hfit, hselect.2 hfit _, hrun hfit _ _⟩

/-- A folder with a misfit of each sort. -/
def misfitFiles : FileTree :=
  filesAt [(["d", ".json"], .file (Text.encode "[]")), (["d", "x.json"], .folder),
    (["d", "T.JSON"], .file (Text.encode "[]"))]

/-- Of a folder with a misfit of each sort a batch takes the two that it then refuses, and not the
input. -/
theorem not_takes_inputs_misfits :
    (.ofText "d/T.JSON" ∈ misfitFiles.below (.ofText "d") true ∧
      misfitFiles.IsInput (.ofText "d/T.JSON")) ∧
    select misfitFiles (.ofText "d") true = [.ofText "d/.json", .ofText "d/x.json"] ∧
    ((⟨"html", false, .null, none⟩ : BatchOptions).renderAll (.ok .default) misfitFiles
        (select misfitFiles (.ofText "d") true)).toOption.map (fun r => (r.failed, r.notices)) =
      some (2, [.skipped (.ofText "d/.json"), .failure (.ofText "d/x.json")
        (.ofText "d/x-rendered.html") (.file (.input (.access .isFolder)))]) ∧
    ¬∀ p, p ∈ select misfitFiles (.ofText "d") true ↔
      p ∈ misfitFiles.below (.ofText "d") true ∧ misfitFiles.IsInput p := by
  have hselect : select misfitFiles (.ofText "d") true =
      [.ofText "d/.json", .ofText "d/x.json"] := by
    have htaken : (misfitFiles.below (.ofText "d") true).filter isTaken =
        [.ofText "d/.json", .ofText "d/x.json"] := by decide +kernel
    rw [select, htaken, List.mergeSort_of_pairwise (by decide +kernel)]
  have hinput : .ofText "d/T.JSON" ∈ misfitFiles.below (.ofText "d") true ∧
      misfitFiles.IsInput (.ofText "d/T.JSON") := by decide +kernel
  rw [hselect]
  refine ⟨hinput, rfl, by decide +kernel, fun h => ?_⟩
  exact absurd ((h _).2 hinput) (by decide +kernel)

end BatchOptions

end TicketMarkup
