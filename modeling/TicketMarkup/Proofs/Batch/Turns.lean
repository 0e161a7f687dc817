import TicketMarkup.Proofs.Batch.Steps

/-!
# Turns of a batch

Files lie apart if none of them is what another is rendered to and no two are rendered to the same
place (`BatchOptions.LieApart`). Then what the others write is no matter to any of them
(`RanAlone.writes_iff`), so that what is left after some of them had their turn is what the files
began with, with what each alone writes (`BatchOptions.RanAlone`).

Main statement: `RanAlone.exists_after`, what a batch leaves, broken off or not.
-/

namespace TicketMarkup

namespace BatchOptions

variable {o : BatchOptions} {settings : Except SettingsFault Settings} {files now : FileTree}

/-- Without a given output a file is rendered next to itself. -/
theorem target_of_ofName {format : OutputFormat}
    (hformat : OutputFormat.ofName o.format = .ok format) (p : FilePath) :
    o.target p none = .ok (p.rendered format.extension none) := by
  rw [target, hformat]

/-! ## Turns -/

/-- Whether no file of a batch is what another is rendered to and no two are rendered to the same
place. -/
structure LieApart (o : BatchOptions) (settings : Except SettingsFault Settings)
    (files : FileTree) (inputs : List FilePath) : Prop where
  input_ne : ∀ p ∈ inputs, ∀ q ∈ inputs, ∀ a octets, o.Writes settings files q a octets →
    files.resolve p ≠ .ok a
  unique : ∀ p ∈ inputs, ∀ q ∈ inputs, ∀ a octets octets', o.Writes settings files p a octets →
    o.Writes settings files q a octets' → p = q

/-- Whether files came from others by what rendering some of those, each alone, writes. -/
structure RanAlone (o : BatchOptions) (settings : Except SettingsFault Settings)
    (files : FileTree) (done : List FilePath) (now : FileTree) : Prop where
  sameFolders : files.SameFolders now
  changed : ∀ p ∈ done, ∀ a octets, o.Writes settings files p a octets →
    now.get? a = some (.file octets)
  kept : ∀ b, (∀ p ∈ done, ∀ octets, ¬o.Writes settings files p b octets) →
    now.get? b = files.get? b

/-- Before the first turn the files are what they began with. -/
theorem ranAlone_nil : o.RanAlone settings files [] files :=
  ⟨.refl files, fun _ hp => absurd hp List.not_mem_nil, fun _ _ => rfl⟩

/-- Where a file is rendered to lies what it alone writes. -/
theorem RanAlone.read_of_writes {done : List FilePath} (hran : o.RanAlone settings files done now)
    {p target : FilePath} (hp : p ∈ done) (htarget : o.target p none = .ok target) {a : Address}
    {octets : List UInt8} (hw : o.Writes settings files p a octets) :
    now.read target = .ok octets := by
  obtain ⟨target', htarget', ha⟩ := hw.exists_target
  cases htarget.symm.trans htarget'
  rw [FileTree.read, hran.sameFolders.resolve_eq_ok_iff.2 ha]
  simp only [hran.changed p hp a octets hw]

/-- What lies anywhere is decided by which files were rendered. -/
theorem RanAlone.get?_eq {now' : FileTree} {done done' : List FilePath}
    (h : o.RanAlone settings files done now) (h' : o.RanAlone settings files done' now')
    (hdone : ∀ p, p ∈ done ↔ p ∈ done') (b : Address) : now.get? b = now'.get? b := by
  by_cases hb : ∃ p ∈ done, ∃ octets, o.Writes settings files p b octets
  · obtain ⟨p, hp, octets, hw⟩ := hb
    rw [h.changed p hp b octets hw, h'.changed p ((hdone p).1 hp) b octets hw]
  · have hnone : ∀ p ∈ done, ∀ octets, ¬o.Writes settings files p b octets :=
      fun p hp octets hw => hb ⟨p, hp, octets, hw⟩
    rw [h.kept b hnone, h'.kept b fun p hp => hnone p ((hdone p).2 hp)]

/-- A file that is not rendered leaves what was written before. -/
theorem RanAlone.skip {done : List FilePath} (hran : o.RanAlone settings files done now)
    {p : FilePath} (hnone : ∀ a octets, ¬o.Writes settings files p a octets) :
    o.RanAlone settings files (done ++ [p]) now := by
  refine ⟨hran.sameFolders, fun q hq a octets hw => ?_, fun b hb => ?_⟩
  · rcases List.mem_append.1 hq with hq | hq
    · exact hran.changed q hq a octets hw
    · obtain rfl := List.mem_singleton.1 hq
      exact absurd hw (hnone a octets)
  · exact hran.kept b fun q hq => hb q (List.mem_append_left _ hq)

section Turns

variable {inputs done : List FilePath} {format : OutputFormat}
  (hformat : OutputFormat.ofName o.format = .ok format)
  (hapart : o.LieApart settings files inputs) (hdone : ∀ q ∈ done, q ∈ inputs)
  (hran : o.RanAlone settings files done now) {p : FilePath} (hp : p ∈ inputs)

include hapart hdone hran hp

/-- No turn of others changes an input. -/
theorem RanAlone.input_kept {a : Address} (ha : files.resolve p = .ok a) :
    now.get? a = files.get? a :=
  hran.kept a fun q hq octets hw => hapart.input_ne p hp q (hdone q hq) a octets hw ha

theorem RanAlone.lookup_eq : now.lookup p = files.lookup p :=
  hran.sameFolders.lookup_eq fun _ ha => RanAlone.input_kept hapart hdone hran hp ha

/-- What the others wrote is no matter to what a file writes. -/
theorem RanAlone.writes_iff {a : Address} {octets : List UInt8} :
    o.Writes settings now p a octets ↔ o.Writes settings files p a octets :=
  BatchOptions.writes_iff hran.sameFolders fun _ ha => RanAlone.input_kept hapart hdone hran hp ha

/-- Writing what a file is rendered to goes on from what was written before. -/
theorem RanAlone.write {a : Address} {octets : List UInt8}
    (hw : o.Writes settings now p a octets) :
    o.RanAlone settings files (done ++ [p]) (now.insert a (.file octets)) := by
  have hw' := (RanAlone.writes_iff hapart hdone hran hp).1 hw
  obtain ⟨target, -, ha⟩ := hw.exists_target
  have hnames := FileTree.isEntryName_resolve ha
  have hne := FileTree.ne_nil_of_not_folder hw.not_folder
  refine ⟨hran.sameFolders.trans (.insert hnames hw.not_folder octets), ?_, fun b hb => ?_⟩
  · intro q hq b octets' hq'
    rw [FileTree.get?_insert hnames hne]
    have hmem : q ∈ inputs := (List.mem_append.1 hq).elim (hdone q) fun h =>
      List.mem_singleton.1 h ▸ hp
    split
    next hab =>
      -- Only the file itself writes there.
      subst hab
      obtain rfl := hapart.unique q hmem p hp a octets' octets hq' hw'
      rw [(writes_unique hq' hw').2]
    next hab =>
      rcases List.mem_append.1 hq with hq | hq
      · exact hran.changed q hq b octets' hq'
      · obtain rfl := List.mem_singleton.1 hq
        exact absurd (writes_unique hw' hq').1 hab
  · have hab : a ≠ b := by
      rintro rfl
      exact hb p (List.mem_append_right _ (List.mem_singleton_self p)) octets hw'
    rw [FileTree.get?_insert hnames hne, if_neg hab]
    exact hran.kept b fun q hq => hb q (List.mem_append_left _ hq)

include hformat

/-- A file that is rendered in its turn adds what it alone writes. -/
theorem RanAlone.of_renderOne {one : FileReport}
    (hone : o.renderOne settings now p none = .ok one) :
    o.RanAlone settings files (done ++ [p]) one.files := by
  cases he : now.lookup p with
  | error fault => cases (renderOne_of_lookup_error he).symm.trans hone
  | ok e =>
    obtain ⟨turn, hturn, hcases⟩ := renderOne_of_lookup settings he (target_of_ofName hformat p)
    cases hturn.symm.trans hone
    rcases hcases with ⟨a, octets, -, hw, hfiles⟩ | ⟨-, hfiles, hnone⟩
    · rw [hfiles]
      exact RanAlone.write hapart hdone hran hp hw
    · rw [hfiles]
      exact hran.skip fun a octets hw =>
        hnone a octets ((RanAlone.writes_iff hapart hdone hran hp).2 hw)

end Turns

/-! ## Runs -/

section Runs

variable {inputs : List FilePath} {format : OutputFormat}
  (hformat : OutputFormat.ofName o.format = .ok format)
  (hapart : o.LieApart settings files inputs)

include hformat hapart

/-- What a batch leaves, broken off or not, is what some files of it, each alone, write. If it is
not broken off, these are all files. -/
theorem RanAlone.exists_after {done rest : List FilePath}
    (hran : o.RanAlone settings files done now) (hall : ∀ q ∈ done ++ rest, q ∈ inputs) :
    ∃ more, (∀ p ∈ more, p ∈ rest) ∧
      o.RanAlone settings files (done ++ more)
        (BatchReport.of (o.renderAll settings now rest)).files ∧
      ∀ report, o.renderAll settings now rest = .ok report → more = rest := by
  induction rest generalizing done now with
  | nil => exact ⟨[], by simp, by simpa [renderAll] using hran, fun _ _ => rfl⟩
  | cons p rest ih =>
    have hdone : ∀ q ∈ done, q ∈ inputs := fun q hq => hall q (List.mem_append_left _ hq)
    have hp : p ∈ inputs := hall p (List.mem_append_right _ List.mem_cons_self)
    cases hone : o.renderOne settings now p none with
    | error fault =>
      refine ⟨[], by simp, by simpa [renderAll, hone] using hran, fun report hreport => ?_⟩
      rw [renderAll, hone] at hreport
      cases hreport
    | ok one =>
      have hafter := RanAlone.of_renderOne hformat hapart hdone hran hp hone
      obtain ⟨more, hmem, hmore, hrest⟩ := ih hafter (by simpa using hall)
      rw [of_renderAll_cons hone, FileReport.files_andThen]
      refine ⟨p :: more, ?_, by simpa using hmore, ?_⟩
      · exact List.forall_mem_cons.2
          ⟨List.mem_cons_self, fun q hq => List.mem_cons_of_mem _ (hmem q hq)⟩
      · intro report hreport
        obtain ⟨one', rest', hone', hrest', -⟩ := renderAll_cons_eq_ok_iff.1 hreport
        cases hone.symm.trans hone'
        rw [hrest rest' hrest']

end Runs

end BatchOptions

end TicketMarkup
