import TicketMarkup.Proofs.Batch.Independent

/-!
# What runs leave of the inputs

A file is rendered to a name that no tree file has. So whatever a batch writes, and whether or not
it breaks off, what lies at the addresses of tree files is the same afterwards, and every folder is
listed as before (`BatchOptions.SameInputs`). Each run of each kind keeps this: of one file
(`SameInputs.renderOne`), of some files (`SameInputs.renderAll`) and of a folder
(`SameInputs.renderFolder`).
-/

namespace TicketMarkup

/-- Whether an address is named like a tree file, with the suffix in lower case. -/
def HasTreeName (a : Address) : Prop :=
  ∃ above name, a = above ++ [name] ∧ treeSuffix.toList.isSuffixOf name.toList = true

namespace FileTree

/-! ## Entries that are put -/

/-- An entry is put where there was one, or after all the others. -/
theorem keys_put (a : Address) (e : Entry) (entries : List (Address × Entry)) :
    (put a e entries).map Prod.fst = entries.map Prod.fst ∨
      (put a e entries).map Prod.fst = entries.map Prod.fst ++ [a] := by
  induction entries with
  | nil => exact .inr rfl
  | cons x rest ih =>
    obtain ⟨b, f⟩ := x
    by_cases h : b = a
    · simp [put, h]
    · simpa [put, h] using ih

/-- To put what is there already changes nothing. -/
theorem put_of_listed {a : Address} {e : Entry} {entries : List (Address × Entry)}
    (h : listed a entries = some e) : put a e entries = entries := by
  induction entries with
  | nil => cases h
  | cons x rest ih =>
    obtain ⟨b, f⟩ := x
    rw [listed] at h
    split at h
    next hb =>
      cases h
      rw [put, if_pos hb, hb]
    next hb => rw [put, if_neg hb, ih h]

/-- Putting what is there already changes nothing. -/
theorem insert_of_get? {tree : FileTree} {a : Address} {e : Entry} (ha : a ≠ [])
    (h : tree.get? a = some e) : tree.insert a e = tree := by
  rw [get?, if_neg ha] at h
  unfold insert
  split
  · simp only [put_of_listed h]
  · rfl

/-- An entry that is put is at most one name more below a folder. -/
theorem namesBelow_insert (tree : FileTree) (a b : Address) (e : Entry) :
    ∃ more, (tree.insert a e).namesBelow b = tree.namesBelow b ++ more ∧
      ∀ names ∈ more, a = b ++ names ∧ names ≠ [] := by
  unfold insert
  split
  next hn =>
    rcases keys_put a e tree.entries with hkeys | hkeys
    · refine ⟨[], ?_, by simp⟩
      simp only [namesBelow, hkeys, List.append_nil]
    · refine ⟨_, (congrArg _ hkeys).trans List.filterMap_append, ?_⟩
      intro names hnames
      simp only [List.mem_filterMap, List.mem_singleton, exists_eq_left] at hnames
      split at hnames
      next name rest hfrom =>
        cases hnames
        exact ⟨namesFrom?_eq_some_iff.1 hfrom, List.cons_ne_nil name rest⟩
      next => cases hnames
  next => exact ⟨[], (List.append_nil _).symm, by simp⟩

end FileTree

namespace FilePath

variable {files : FileTree} {p : FilePath} {format : OutputFormat} {a : Address}

/-- What a file is rendered to is not named like a tree file. -/
theorem not_hasTreeName_of_rendered
    (h : files.resolve (p.rendered format.extension none) = .ok a) : ¬HasTreeName a := by
  have hdown := FileTree.descend_of_resolve h
  rw [parts_rendered] at hdown
  obtain ⟨folder, -, -, rfl⟩ := FileTree.exists_of_descend_concat hdown
  obtain ⟨⟨hempty, hdot, -⟩, hup⟩ := p.isEntryName_renderedName format
  rw [FileTree.step, if_neg (by simp [hempty, hdot]), if_neg hup]
  rintro ⟨above, name, heq, hname⟩
  obtain ⟨-, rfl⟩ := List.append_singleton_inj.1 heq
  exact p.not_suffix_renderedName format hname

end FilePath

namespace BatchOptions

/-- Where there is no place to write to, nothing is written. -/
theorem files_renderOne_of_target_error {o : BatchOptions}
    {settings : Except SettingsFault Settings} {files : FileTree} {p : FilePath}
    {fault : BatchFault} {one : FileReport} (htarget : o.target p none = .error fault)
    (h : o.renderOne settings files p none = .ok one) : one.files = files := by
  rw [renderOne, htarget] at h
  split at h
  · cases h
  · cases h
    rfl
  · split at h
    · cases h
      rfl
    · cases h

/-! ## The same inputs -/

/-- Whether two trees have the same folders, the same at every address that is named like a tree
file, and the same lists of what a batch takes. -/
structure SameInputs (files files' : FileTree) : Prop where
  sameFolders : files.SameFolders files'
  get?_eq : ∀ a, HasTreeName a → files'.get? a = files.get? a
  select_eq : ∀ folder recursive, select files' folder recursive = select files folder recursive
  foldersBelow_eq : ∀ folder, files'.foldersBelow folder = files.foldersBelow folder

namespace SameInputs

variable {files files' files'' : FileTree}

theorem refl (files : FileTree) : SameInputs files files :=
  ⟨.refl files, fun _ _ => rfl, fun _ _ => rfl, fun _ => rfl⟩

theorem trans (h : SameInputs files files') (h' : SameInputs files' files'') :
    SameInputs files files'' where
  sameFolders := h.sameFolders.trans h'.sameFolders
  get?_eq := fun a ha => (h'.get?_eq a ha).trans (h.get?_eq a ha)
  select_eq := fun folder recursive =>
    (h'.select_eq folder recursive).trans (h.select_eq folder recursive)
  foldersBelow_eq := fun folder => (h'.foldersBelow_eq folder).trans (h.foldersBelow_eq folder)

section Insert

variable {a : Address} (hn : ∀ s ∈ a, IsEntryName s) (hfolder : files.get? a ≠ some .folder)
  (octets : List UInt8)

include hn hfolder

/-- Writing a file leaves the folders below a folder as they are. -/
theorem foldersBelow_insert (folder : FilePath) :
    (files.insert a (.file octets)).foldersBelow folder = files.foldersBelow folder := by
  have hsame : files.SameFolders (files.insert a (.file octets)) := .insert hn hfolder octets
  have hget : ∀ b, (files.insert a (.file octets)).get? b = some .folder ↔
      files.get? b = some .folder := hsame.folder_iff
  unfold FileTree.foldersBelow
  rcases hsame.resolve folder with hresolve | ⟨hdead, hdead'⟩
  · rw [hresolve]
    cases hb : files.resolve folder with
    | error fault => rfl
    | ok b =>
      obtain ⟨more, hbelow, hmore⟩ := files.namesBelow_insert a b (.file octets)
      have hnone : more.filter (fun names => files.get? (b ++ names) = some .folder) = [] :=
        List.filter_eq_nil_iff.2 fun names hnames => by
          rw [← (hmore names hnames).1]
          simpa using hfolder
      simp only [hbelow, hget, List.filter_append, hnone, List.append_nil]
  · rcases hdead with hdead | hdead <;> rcases hdead' with hdead' | hdead' <;>
      simp only [hdead, hdead']

/-- Writing a file that has no tree name leaves what a batch selects as it is. -/
theorem select_insert (hname : ¬HasTreeName a) (folder : FilePath) (recursive : Bool) :
    select (files.insert a (.file octets)) folder recursive = select files folder recursive := by
  have hsame : files.SameFolders (files.insert a (.file octets)) := .insert hn hfolder octets
  unfold select FileTree.below
  rcases hsame.resolve folder with hresolve | ⟨hdead, hdead'⟩
  · rw [hresolve]
    cases hb : files.resolve folder with
    | error fault => rfl
    | ok b =>
      obtain ⟨more, hbelow, hmore⟩ := files.namesBelow_insert a b (.file octets)
      have hnone : ∀ (h : ∀ names ∈ more, ∀ s ∈ names, IsPathName s),
          (more.pmap folder.append h).filter isTaken = [] := by
        intro h
        refine List.filter_eq_nil_iff.2 fun p hp => ?_
        obtain ⟨names, hnames, rfl⟩ := List.mem_pmap.1 hp
        obtain ⟨heq, hne⟩ := hmore names hnames
        obtain ⟨above, name, rfl⟩ : ∃ above name, names = above ++ [name] :=
          ⟨_, _, (List.dropLast_concat_getLast hne).symm⟩
        have hlast : (folder.append (above ++ [name]) (h _ hnames)).name = name :=
          FilePath.name_eq_of_parts (List.append_assoc _ _ _).symm
        rw [isTaken, hlast, Bool.and_eq_true]
        exact fun htaken => hname ⟨b ++ above, name, by rw [heq, List.append_assoc], htaken.1⟩
      have hin : ∀ (paths : List FilePath) (inFolder : FilePath → Bool),
          paths.filter isTaken = [] → (paths.filter inFolder).filter isTaken = [] := by
        intro paths inFolder hpaths
        rw [List.filter_eq_nil_iff] at hpaths ⊢
        exact fun p hp => hpaths p (List.mem_filter.1 hp).1
      simp only [hbelow, List.pmap_append, List.filter_append]
      rw [hin _ _ (hnone _), List.append_nil]
  · rcases hdead with hdead | hdead <;> rcases hdead' with hdead' | hdead' <;>
      simp only [hdead, hdead']

/-- A file that is put where no folder was and no tree file is named so keeps the inputs. -/
theorem insert (hname : ¬HasTreeName a) :
    SameInputs files (files.insert a (.file octets)) where
  sameFolders := .insert hn hfolder octets
  get?_eq := fun b hb => by
    have hab : a ≠ b := by
      rintro rfl
      exact hname hb
    rw [FileTree.get?_insert hn (FileTree.ne_nil_of_not_folder hfolder), if_neg hab]
  select_eq := select_insert hn hfolder octets hname
  foldersBelow_eq := foldersBelow_insert hn hfolder octets

end Insert

/-! ## Runs -/

variable {o : BatchOptions} {settings : Except SettingsFault Settings}

/-- What a file is rendered to is no input of any batch. -/
theorem write {p : FilePath} {a : Address} {octets : List UInt8}
    (hw : o.Writes settings files p a octets) :
    SameInputs files (files.insert a (.file octets)) := by
  obtain ⟨target, htarget, ha⟩ := hw.exists_target
  have hname : ¬HasTreeName a := by
    rw [BatchOptions.target] at htarget
    split at htarget
    next => cases htarget
    next format hformat =>
      rw [Except.ok.injEq] at htarget
      exact FilePath.not_hasTreeName_of_rendered (htarget ▸ ha)
  exact .insert (FileTree.isEntryName_resolve ha) hw.not_folder octets hname

/-- Rendering a file leaves the inputs of every batch as they are. -/
theorem renderOne {p : FilePath} {one : FileReport}
    (h : o.renderOne settings files p none = .ok one) : SameInputs files one.files := by
  cases htarget : o.target p none with
  | error fault =>
    rw [files_renderOne_of_target_error htarget h]
    exact .refl files
  | ok target =>
    cases hlookup : files.lookup p with
    | error fault => cases (renderOne_of_lookup_error hlookup).symm.trans h
    | ok e =>
      obtain ⟨report, hreport, hcases⟩ := renderOne_of_lookup settings hlookup htarget
      cases hreport.symm.trans h
      rcases hcases with ⟨a, octets, -, hw, hfiles⟩ | ⟨-, hfiles, -⟩
      · rw [hfiles]
        exact write hw
      · rw [hfiles]
        exact .refl files

/-- Rendering any files leaves the inputs of every batch as they are, also where it breaks off. -/
theorem renderAll (o : BatchOptions) (settings : Except SettingsFault Settings) (files : FileTree)
    (inputs : List FilePath) :
    SameInputs files (BatchReport.of (o.renderAll settings files inputs)).files := by
  induction inputs generalizing files with
  | nil => exact .refl files
  | cons p rest ih =>
    cases hone : o.renderOne settings files p none with
    | error fault =>
      rw [BatchOptions.renderAll, hone]
      exact .refl files
    | ok one =>
      rw [of_renderAll_cons hone]
      exact (renderOne hone).trans (ih one.files)

/-- Where the inputs are the same, so is the first fault among paths. -/
theorem firstFault_eq (h : SameInputs files files') (paths : List FilePath) :
    firstFault files' paths = firstFault files paths := by
  induction paths with
  | nil => rfl
  | cons p rest ih =>
    rw [firstFault, firstFault, ih]
    cases hlookup : files.lookup p with
    | error fault => rw [h.sameFolders.lookup_eq_error_iff.2 hlookup]
    | ok e =>
      cases hlookup' : files'.lookup p with
      | error fault => cases (h.sameFolders.lookup_eq_error_iff.1 hlookup').symm.trans hlookup
      | ok e' => rfl

/-- Where the inputs are the same, a batch takes the same files. -/
theorem taken_eq (h : SameInputs files files') (folder : FilePath) (recursive : Bool) :
    taken files' folder recursive = taken files folder recursive := by
  by_cases hfolder : files.lookup folder = .ok (some .folder)
  · simp only [taken, hfolder, h.sameFolders.lookup_folder_iff.2 hfolder, h.select_eq]
  · have hnone : ∀ t : FileTree, t.lookup folder ≠ .ok (some .folder) →
        taken t folder recursive = [] := by
      intro t ht
      unfold taken
      split
      next hf => exact absurd hf ht
      next => rfl
    rw [hnone files hfolder, hnone files' (mt h.sameFolders.lookup_folder_iff.1 hfolder)]

/-- A batch leaves the inputs of every batch as they are. -/
theorem renderFolder (o : BatchOptions) (settings : Except SettingsFault Settings)
    (files : FileTree) (folder : FilePath) (recursive : Bool) :
    SameInputs files (BatchReport.of (o.renderFolder settings files folder recursive)).files := by
  have hall := renderAll o settings files (taken files folder recursive)
  rcases renderFolder_cases o settings files folder recursive with
    ⟨fault, hfault⟩ | ⟨before, after, ⟨stop, hstop, hfault⟩ | ⟨run, hrun, hreport⟩⟩
  · rw [hfault]
    exact .refl files
  · rw [hstop] at hall
    rw [hfault]
    exact hall
  · rw [hrun] at hall
    rw [hreport]
    exact hall

end SameInputs

/-- A file that a batch takes lies at an address that is named like a tree file. -/
theorem hasTreeName_of_mem_taken {files : FileTree} {folder p : FilePath} {recursive : Bool}
    (hp : p ∈ taken files folder recursive) {a : Address} (ha : files.resolve p = .ok a) :
    HasTreeName a := by
  obtain ⟨hselect, b, hb⟩ := mem_taken hp
  obtain ⟨above, habove⟩ := liesBelow_of_mem_select hselect
  refine ⟨b ++ above, p.name, ?_, hasTreeName_of_mem_select hselect⟩
  rw [habove.eq_append_of_resolve hb ha, List.append_assoc]

theorem SameInputs.lookup_eq {files files' : FileTree} (h : SameInputs files files')
    {folder p : FilePath} {recursive : Bool} (hp : p ∈ taken files folder recursive) :
    files'.lookup p = files.lookup p :=
  h.sameFolders.lookup_eq fun a ha => h.get?_eq a (hasTreeName_of_mem_taken hp ha)

end BatchOptions

end TicketMarkup
