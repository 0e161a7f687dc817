import TicketMarkup.Proofs.Batch.InTurn

/-!
# Files of a batch are rendered independently

The files that a batch takes from a folder lie apart, so that each is rendered as it would be alone
and the order does not matter (`BatchOptions.Independent`). On a host that serves the batch
(`BatchOptions.Served`) only a path that is too long, of the folder or of something in it, keeps it
from giving an answer (`renderFolderOn_independent`).

A host serves a batch if the system tells what the paths lead to, the encoder takes the texts, and
the console takes the notices. Files that the system does not let be read, or that the stack is not
enough for, fail as other files do.
-/

namespace TicketMarkup

namespace BatchOptions

variable {o : BatchOptions} {settings : Except SettingsFault Settings} {files now : FileTree}

/-! ## Batches of a folder -/

section Folder

variable {folder : FilePath} {recursive : Bool} {format : OutputFormat}
  (hformat : OutputFormat.ofName o.format = .ok format)

include hformat

/-- The files that a batch takes from a folder lie apart. -/
theorem lieApart_select {a : Address} (hfolder : files.resolve folder = .ok a) :
    o.LieApart settings files (select files folder recursive) := by
  have htarget : ∀ {p b octets}, o.Writes settings files p b octets →
      files.resolve (p.rendered format.extension none) = .ok b ∧ p.isTreePath = true := by
    rintro p b octets ⟨⟨r, data, s, -, hdata, -⟩, ⟨target, htarget, hb⟩, -⟩
    rw [target_of_ofName hformat p, Except.ok.injEq] at htarget
    rw [htarget]
    exact ⟨hb, (readTree_eq_ok_iff.1 hdata).1⟩
  constructor
  · intro p hp q hq b octets hw
    exact resolve_ne_of_rendered hq hp hfolder (htarget hw).1
  · intro p hp q hq b octets octets' hw hw'
    obtain ⟨hb, htree⟩ := htarget hw
    obtain ⟨hb', htree'⟩ := htarget hw'
    exact eq_of_resolve_rendered hp hq hfolder htree htree' hb hb'

end Folder

/-- The files that a batch of a folder takes, in order: none if it is no folder. -/
def taken (files : FileTree) (folder : FilePath) (recursive : Bool) : List FilePath :=
  match files.lookup folder with
  | .ok (some .folder) => select files folder recursive
  | _ => []

/-- A file is taken only from a folder that is there. -/
theorem mem_taken {folder p : FilePath} {recursive : Bool}
    (h : p ∈ taken files folder recursive) :
    p ∈ select files folder recursive ∧ ∃ a, files.resolve folder = .ok a := by
  unfold taken at h
  split at h
  next hlookup =>
    refine ⟨h, ?_⟩
    unfold FileTree.lookup at hlookup
    split at hlookup
    next a ha => exact ⟨a, ha⟩
    next => cases hlookup
    next => cases hlookup
  next => cases h

/-- The files that a batch takes from a folder lie apart: an input is never the output of another,
and no two share one. -/
theorem lieApart_taken {folder : FilePath} {recursive : Bool} {format : OutputFormat}
    (hformat : OutputFormat.ofName o.format = .ok format) :
    o.LieApart settings files (taken files folder recursive) := by
  constructor
  · intro p hp q hq
    obtain ⟨hp, a, ha⟩ := mem_taken hp
    exact (lieApart_select hformat ha).input_ne p hp q (mem_taken hq).1
  · intro p hp q hq
    obtain ⟨hp, a, ha⟩ := mem_taken hp
    exact (lieApart_select hformat ha).unique p hp q (mem_taken hq).1

/-- The folders that a batch of a folder lists: it and, if that is asked for, the folders in it. -/
def listed (files : FileTree) (folder : FilePath) (recursive : Bool) : List FilePath :=
  match files.lookup folder with
  | .ok (some .folder) => folder :: subfolders files folder recursive
  | _ => [folder]

/-- A batch of a folder stops where a folder cannot be listed. Otherwise it renders the files that
it takes, and adds nothing but notices before and after, which are of no success. -/
theorem renderFolderOn_cases (o : BatchOptions) (settings : Except SettingsFault Settings)
    {m : Machine} {files : FileTree} {folder : FilePath} (recursive : Bool)
    (hfolder : m.lookup files folder = files.lookup folder) :
    ((∃ p ∈ listed files folder recursive, ∃ fault, files.lookup p = .error fault) ∧
      ∃ fault, o.renderFolderOn (.lenient m) settings files folder recursive =
        .error ⟨fault, .none [] files⟩) ∨
    (∀ p ∈ listed files folder recursive, ∃ e, files.lookup p = .ok e) ∧
      ∃ before after, (∀ t, .success t ∉ before ++ after) ∧
        ((∃ stop,
          o.renderAllOn (.lenient m) settings files (taken files folder recursive) = .error stop ∧
          o.renderFolderOn (.lenient m) settings files folder recursive =
            .error ⟨stop.fault, stop.before.between before []⟩) ∨
        ∃ run,
          o.renderAllOn (.lenient m) settings files (taken files folder recursive) = .ok run ∧
          o.renderFolderOn (.lenient m) settings files folder recursive =
            .ok (run.between before after)) := by
  unfold renderFolderOn listed taken
  simp only [Host.toMachine_lenient, BatchReport.tell_lenient, hfolder]
  cases hfolder : files.lookup folder with
  | error fault => exact .inl ⟨⟨folder, List.mem_cons_self, fault, hfolder⟩, _, rfl⟩
  | ok e =>
    have hself : ∀ p ∈ [folder], ∃ e, files.lookup p = .ok e :=
      List.forall_mem_singleton.2 ⟨e, hfolder⟩
    rcases e with _ | octets | _
    · exact .inr ⟨hself, [], [.notFolder folder], by simp, .inr ⟨_, rfl, rfl⟩⟩
    · exact .inr ⟨hself, [], [.notFolder folder], by simp, .inr ⟨_, rfl, rfl⟩⟩
    · dsimp only
      cases hlisted : firstFault files (subfolders files folder recursive) with
      | some fault =>
        obtain ⟨p, hp, hfault⟩ := exists_of_firstFault hlisted
        exact .inl ⟨⟨p, List.mem_cons_of_mem _ hp, hfault⟩, fault, rfl⟩
      | none =>
        refine .inr ⟨List.forall_mem_cons.2 ⟨⟨_, hfolder⟩, firstFault_eq_none_iff.1 hlisted⟩, ?_⟩
        cases hselect : select files folder recursive with
        | nil => exact ⟨[], [.noTrees folder], by simp, .inr ⟨_, rfl, rfl⟩⟩
        | cons first rest =>
          refine ⟨[.found (rest.length + 1)],
            [.progress ((first :: rest).getLast (List.cons_ne_nil first rest))], by simp, ?_⟩
          cases hrun : o.renderAllOn (.lenient m) settings files (first :: rest) with
          | error stop => exact .inl ⟨stop, rfl, by simp only [hrun]; rfl⟩
          | ok run =>
            refine .inr ⟨run, rfl, ?_⟩
            simp [hrun, BatchReport.between, BatchReport.none]

/-- What a batch of a folder comes to without a host. -/
theorem renderFolder_cases (o : BatchOptions) (settings : Except SettingsFault Settings)
    (files : FileTree) (folder : FilePath) (recursive : Bool) :
    (∃ fault, o.renderFolder settings files folder recursive = .error ⟨fault, .none [] files⟩) ∨
      ∃ before after,
        (∃ stop, o.renderAll settings files (taken files folder recursive) = .error stop ∧
          o.renderFolder settings files folder recursive =
            .error ⟨stop.fault, stop.before.between before []⟩) ∨
        ∃ run, o.renderAll settings files (taken files folder recursive) = .ok run ∧
          o.renderFolder settings files folder recursive = .ok (run.between before after) := by
  have hlookup : Machine.ample.lookup files folder = files.lookup folder := rfl
  have hcases := renderFolderOn_cases o settings recursive hlookup
  rw [← Host.ample, renderAllOn_ample, renderFolderOn_ample] at hcases
  rcases hcases with ⟨-, hstop⟩ | ⟨-, before, after, -, hrun⟩
  · exact .inl hstop
  · exact .inr ⟨before, after, hrun⟩

/-- What a batch of some files comes to on a host if each of them is rendered as it would be
alone. -/
structure Independent (o : BatchOptions) (h : Host) (settings : Except SettingsFault Settings)
    (files : FileTree) (format : OutputFormat) (inputs : List FilePath) (report : BatchReport) :
    Prop where
  counts : report.succeeded + report.failed = inputs.length
  succeeded_eq : report.succeeded = inputs.countP (o.succeedsOn h settings files)
  /-- What rendering a file alone changes is changed. -/
  changed : ∀ p ∈ inputs, ∀ alone, o.renderOneOn h settings files p none = .ok alone → ∀ a,
    alone.files.get? a ≠ files.get? a → report.files.get? a = alone.files.get? a
  /-- What rendering no file alone changes is kept. -/
  kept : ∀ a, (∀ p ∈ inputs, ∀ alone, o.renderOneOn h settings files p none = .ok alone →
    alone.files.get? a = files.get? a) → report.files.get? a = files.get? a
  /-- A file is rendered to the file of its stem, the mark and the extension next to it. -/
  sibling : ∀ p ∈ inputs, (p.rendered format.extension none).parent = p.parent ∧
    (p.rendered format.extension none).name =
      p.stem ++ FilePath.renderedMark ++ format.extension
  /-- Files that are rendered hold, next to themselves, the text of their data. -/
  rendered : ∀ p ∈ inputs, o.succeedsOn h settings files p = true →
    ∃ r data s, o.rendering? settings = some r ∧ files.readTree p = .ok data ∧
      r.render data = .ok s ∧
      report.files.read (p.rendered format.extension none) = .ok (Text.encode s)
  target_injective : ∀ p ∈ inputs, ∀ q ∈ inputs, p.isTreePath = true → q.isTreePath = true →
    p.rendered format.extension none = q.rendered format.extension none → p = q
  target_ne : ∀ p ∈ inputs, ∀ q ∈ inputs, p.rendered format.extension none ≠ q ∧
    ∀ a, files.resolve (p.rendered format.extension none) = .ok a → files.resolve q ≠ .ok a
  /-- In any order, each file is rendered in its turn as it would be alone, a file that fails
  changes nothing, and what all turns come to is the same. -/
  orders : ∀ order, order.Perm inputs →
    (∃ run, o.renderAllOn h settings files order = .ok run ∧ run.succeeded = report.succeeded ∧
      run.failed = report.failed ∧ ∀ a, run.files.get? a = report.files.get? a) ∧
    ∀ before p after, order = before ++ p :: after →
      ∃ start turn, o.renderAllOn h settings files before = .ok start ∧
        o.renderOneOn h settings start.files p none = .ok turn ∧
        turn.succeeded = o.succeedsOn h settings files p ∧
        (turn.succeeded = false → turn.files = start.files)

/-- Whether a host serves some files: the system tells what each path leads to, the encoder takes
the text that the file is rendered to, and the console takes what is told of it alone. -/
structure Serves (o : BatchOptions) (h : Host) (settings : Except SettingsFault Settings)
    (files : FileTree) (inputs : List FilePath) : Prop where
  lookup : ∀ p ∈ inputs, ∃ e, h.lookup files p = .ok e
  encodes : ∀ p ∈ inputs, o.Encodes h.toMachine settings files p
  told : ∀ p ∈ inputs, ∀ alone,
    o.renderOneOn (.lenient h.toMachine) settings files p none = .ok alone →
      ∀ n ∈ alone.notices, h.refusal? n = none

section Independence

variable {h : Host} {inputs : List FilePath} {format : OutputFormat} {report : BatchReport}
  (hserves : o.Serves h settings files inputs)

include hserves

theorem Serves.renderOneOn_eq {p : FilePath} (hp : p ∈ inputs) :
    o.renderOneOn h settings files p none =
      o.renderOneOn (.lenient h.toMachine) settings files p none :=
  renderOneOn_of_taken (hserves.told p hp)

theorem Serves.succeedsOn_eq {p : FilePath} (hp : p ∈ inputs) :
    o.succeedsOn h settings files p = o.succeedsOn (.lenient h.toMachine) settings files p := by
  rw [succeedsOn, hserves.renderOneOn_eq hp, succeedsOn]

variable (hformat : OutputFormat.ofName o.format = .ok format)

include hformat

/-- What rendering a file alone comes to: what it writes is written, or nothing is. -/
theorem Serves.alone_cases {p : FilePath} (hp : p ∈ inputs) {alone : FileReport}
    (halone : o.renderOneOn h settings files p none = .ok alone) :
    (∃ a octets, o.succeedsOn (.lenient h.toMachine) settings files p = true ∧
      o.Writes settings files p a octets ∧ alone.files = files.insert a (.file octets)) ∨
    alone.files = files := by
  obtain ⟨e, he⟩ := hserves.lookup p hp
  obtain ⟨one, hone, hcases⟩ := renderOneOn_writes hformat he (hserves.encodes p hp)
  have hsucceeds : o.succeedsOn (.lenient h.toMachine) settings files p = one.succeeded := by
    rw [succeedsOn, hone]
  cases ((hserves.renderOneOn_eq hp).symm.trans halone).symm.trans hone
  rcases hcases with ⟨a, octets, hsucceeded, hw, hfiles⟩ | ⟨-, hfiles⟩
  · exact .inl ⟨a, octets, hsucceeds.trans hsucceeded, hw, hfiles⟩
  · exact .inr hfiles

/-- A file that is rendered alone changes the address it is written to, and nothing else. -/
theorem Serves.exists_writes {p : FilePath} (hp : p ∈ inputs)
    (hsucceeds : o.succeedsOn (.lenient h.toMachine) settings files p = true) :
    ∃ alone a octets, o.renderOneOn h settings files p none = .ok alone ∧
      o.Writes settings files p a octets ∧ alone.files = files.insert a (.file octets) := by
  obtain ⟨alone, a, octets, halone, hw, hfiles⟩ :=
    exists_writes_of_succeedsOn hformat (hserves.encodes p hp) hsucceeds
  exact ⟨alone, a, octets, (hserves.renderOneOn_eq hp).trans halone, hw, hfiles⟩

section Ran

variable (hran : o.RanAlone settings files
  (inputs.filter (o.succeedsOn (.lenient h.toMachine) settings files)) now)

include hran

/-- What a file alone changes is as that file alone leaves it. -/
theorem Serves.changed_of_alone {p : FilePath} (hp : p ∈ inputs) {alone : FileReport}
    (halone : o.renderOneOn h settings files p none = .ok alone) {a : Address}
    (ha : alone.files.get? a ≠ files.get? a) : now.get? a = alone.files.get? a := by
  rcases hserves.alone_cases hformat hp halone with ⟨b, octets, hsucceeds, hw, hfiles⟩ | hfiles
  · rw [hfiles, get?_insert_of_writes hw] at ha ⊢
    split at ha
    next hab =>
      subst hab
      rw [if_pos rfl]
      exact hran.changed p (List.mem_filter.2 ⟨hp, hsucceeds⟩) b octets hw
    next => exact absurd rfl ha
  · rw [hfiles] at ha
    exact absurd rfl ha

/-- What no file alone changes is kept. -/
theorem Serves.kept_of_alone {a : Address}
    (ha : ∀ p ∈ inputs, ∀ alone, o.renderOneOn h settings files p none = .ok alone →
      alone.files.get? a = files.get? a) : now.get? a = files.get? a := by
  by_cases hwritten : ∃ p ∈ inputs.filter (o.succeedsOn (.lenient h.toMachine) settings files),
      ∃ octets, o.Writes settings files p a octets
  · -- What was there is written again.
    obtain ⟨p, hp, octets, hw⟩ := hwritten
    obtain ⟨hinput, hsucceeds⟩ := List.mem_filter.1 hp
    obtain ⟨alone, b, octets', halone, hw', hfiles⟩ :=
      hserves.exists_writes hformat hinput hsucceeds
    have hsame := ha p hinput alone halone
    obtain ⟨rfl, rfl⟩ := writes_unique hw hw'
    rw [hfiles, get?_insert_of_writes hw, if_pos rfl] at hsame
    rw [hran.changed p hp a octets hw, hsame]
  · exact hran.kept a fun p hp octets hw => hwritten ⟨p, hp, octets, hw⟩

/-- The file that a path is rendered to holds the text of its data. -/
theorem Serves.read_rendered {p : FilePath} (hp : p ∈ inputs)
    (hsucceeds : o.succeedsOn h settings files p = true) :
    ∃ r data s, o.rendering? settings = some r ∧ files.readTree p = .ok data ∧
      r.render data = .ok s ∧
      now.read (p.rendered format.extension none) = .ok (Text.encode s) := by
  rw [hserves.succeedsOn_eq hp] at hsucceeds
  obtain ⟨-, a, octets, -, hw, -⟩ := hserves.exists_writes hformat hp hsucceeds
  obtain ⟨r, data, s, hr, hdata, hs, rfl⟩ := hw.exists_text
  exact ⟨r, data, s, hr, hdata, hs, hran.read_of_writes (List.mem_filter.2 ⟨hp, hsucceeds⟩)
    (target_of_ofName hformat p) hw⟩

end Ran

variable (hapart : o.LieApart settings files inputs)

include hapart

/-- Files of a batch, each rendered in its turn as it would be alone. -/
theorem Serves.exists_run {rest : List FilePath} (hrest : ∀ p ∈ rest, p ∈ inputs) :
    ∃ run, o.renderAllOn h settings files rest = .ok run ∧
      run.succeeded = rest.countP (o.succeedsOn h settings files) ∧
      o.RanAlone settings files
        (rest.filter (o.succeedsOn (.lenient h.toMachine) settings files)) run.files := by
  obtain ⟨more, hturns⟩ := inTurn_of_nil hformat hapart
    (fun p hp => hserves.encodes p (hrest p hp)) hrest
  cases hrun : o.renderAllOn (.lenient h.toMachine) settings files rest with
  | error stop =>
    obtain ⟨p, hp, fault, hfault⟩ := hturns.stopped stop hrun
    obtain ⟨e, he⟩ := hserves.lookup p (hrest p hp)
    cases he.symm.trans hfault
  | ok run =>
    obtain ⟨rfl, hcount⟩ := hturns.complete run hrun
    refine ⟨run, ?_, ?_, ?_⟩
    · rw [renderAllOn_of_taken, hrun]
      intro n hn
      rcases hturns.heard n hn with ⟨p, hp, alone, halone, hn⟩ | ⟨⟨stop, hstop⟩, -⟩
      · exact hserves.told p (hrest p hp) alone halone n hn
      · cases hrun.symm.trans hstop
    · rw [hcount]
      exact List.countP_congr fun p hp => by rw [hserves.succeedsOn_eq (hrest p hp)]
    · have hran := hturns.ran
      rwa [hrun, List.nil_append] at hran

/-- In any order of the files, each is rendered in its turn as it would be alone. -/
theorem Serves.turn_of_perm {order : List FilePath} (horder : order.Perm inputs)
    {before after : List FilePath} {p : FilePath} (hsplit : order = before ++ p :: after) :
    ∃ start turn, o.renderAllOn h settings files before = .ok start ∧
      o.renderOneOn h settings start.files p none = .ok turn ∧
      turn.succeeded = o.succeedsOn h settings files p ∧
      (turn.succeeded = false → turn.files = start.files) := by
  have hmem : ∀ q ∈ before ++ p :: after, q ∈ inputs := fun q hq =>
    horder.mem_iff.1 (hsplit ▸ hq)
  have hbefore : ∀ q ∈ before, q ∈ inputs := fun q hq => hmem q (List.mem_append_left _ hq)
  have hp : p ∈ inputs := hmem p (List.mem_append_right _ List.mem_cons_self)
  obtain ⟨e, he⟩ := hserves.lookup p hp
  obtain ⟨start, hstart, -, hran⟩ := hserves.exists_run hformat hapart hbefore
  obtain ⟨alone, turn, halone, hturn, hsucceeded, hnotices, hkept, -⟩ :=
    RanAlone.stepOn hformat hapart hbefore hran hp he (hserves.encodes p hp)
  refine ⟨start, turn, hstart, ?_, hsucceeded.trans (hserves.succeedsOn_eq hp).symm, hkept⟩
  rw [renderOneOn_of_taken, hturn]
  rw [hturn]
  rintro one ⟨⟩ n hn
  exact hserves.told p hp alone halone n (hnotices ▸ hn)

/-- A run of the files that a batch takes renders each as it would be alone, in any order. -/
theorem Serves.orders_of_run
    (hran : o.RanAlone settings files
      (inputs.filter (o.succeedsOn (.lenient h.toMachine) settings files)) report.files)
    (hcounts : report.succeeded + report.failed = inputs.length)
    (hsucceeded : report.succeeded = inputs.countP (o.succeedsOn h settings files))
    {order : List FilePath} (horder : order.Perm inputs) :
    ∃ run, o.renderAllOn h settings files order = .ok run ∧ run.succeeded = report.succeeded ∧
      run.failed = report.failed ∧ ∀ a, run.files.get? a = report.files.get? a := by
  obtain ⟨run, hrun, hcount, hran'⟩ :=
    hserves.exists_run hformat hapart fun p hp => horder.mem_iff.1 hp
  have hcounts' := counts_renderAllOn hrun
  rw [horder.length_eq] at hcounts'
  rw [horder.countP_eq] at hcount
  refine ⟨run, hrun, by omega, by omega, hran'.get?_eq hran fun p => ?_⟩
  simp only [List.mem_filter, horder.mem_iff]

end Independence

section Answer

variable {h : Host} {folder : FilePath} {recursive : Bool} {format : OutputFormat}

/-- A run of the files that a batch takes renders each as it would be alone. -/
theorem independent_of_run {run : BatchReport}
    (hformat : OutputFormat.ofName o.format = .ok format)
    (hserves : o.Serves h settings files (taken files folder recursive))
    (hrun : o.renderAllOn h settings files (taken files folder recursive) = .ok run)
    (before after : List Notice) :
    Independent o h settings files format (taken files folder recursive)
      (run.between before after) := by
  have hapart : o.LieApart settings files (taken files folder recursive) := lieApart_taken hformat
  obtain ⟨run', hrun', hcount, hran⟩ := hserves.exists_run hformat hapart fun p hp => hp
  cases hrun.symm.trans hrun'
  have hcounts := counts_renderAllOn hrun
  exact
    { counts := hcounts
      succeeded_eq := hcount
      changed := fun p hp alone halone a ha =>
        hserves.changed_of_alone hformat hran hp halone ha
      kept := fun a ha => hserves.kept_of_alone hformat hran ha
      sibling := fun p _ => ⟨p.parent_rendered format none, p.name_rendered format none⟩
      rendered := fun p hp hsucceeds => hserves.read_rendered hformat hran hp hsucceeds
      target_injective := fun p hp q hq hp' hq' h =>
        eq_of_rendered (mem_taken hp).1 (mem_taken hq).1 hp' hq' h
      target_ne := fun p hp q hq => by
        obtain ⟨hp, a, ha⟩ := mem_taken hp
        exact ⟨rendered_ne (mem_taken hq).1, fun b hb =>
          resolve_ne_of_rendered hp (mem_taken hq).1 ha hb⟩
      orders := fun order horder =>
        ⟨hserves.orders_of_run hformat hapart hran hcounts hcount horder,
          fun before p after hsplit => hserves.turn_of_perm hformat hapart horder hsplit⟩ }

/-- Whether a host serves a batch of a folder: the system tells what its paths lead to, the encoder
takes the texts that the files are rendered to, and the console takes all that the batch tells. -/
structure Served (o : BatchOptions) (h : Host) (settings : Except SettingsFault Settings)
    (files : FileTree) (folder : FilePath) (recursive : Bool) : Prop where
  lookup : ∀ p ∈ folder :: taken files folder recursive, h.lookupRefusal? p = none
  encodes : ∀ p ∈ taken files folder recursive, o.Encodes h.toMachine settings files p
  told : ∀ n ∈ (BatchReport.of
    (o.renderFolderOn (.lenient h.toMachine) settings files folder recursive)).notices,
      h.refusal? n = none

theorem Served.lookup_eq (hserved : o.Served h settings files folder recursive) {p : FilePath}
    (hp : p ∈ folder :: taken files folder recursive) : h.lookup files p = files.lookup p := by
  simp only [Machine.lookup, hserved.lookup p hp]

/-- A batch that is served, and gives an answer, has followed every path and has rendered its
files. -/
theorem Served.answer_cases (hserved : o.Served h settings files folder recursive)
    (hformat : OutputFormat.ofName o.format = .ok format) {report : BatchReport}
    (hreport : o.renderFolderOn h settings files folder recursive = .ok report) :
    (∀ p ∈ listed files folder recursive ++ taken files folder recursive,
      ∃ e, files.lookup p = .ok e) ∧
    Independent o h settings files format (taken files folder recursive) report := by
  have hfolder := hserved.lookup_eq List.mem_cons_self
  have htold := hserved.told
  rw [renderFolderOn_of_taken htold] at hreport
  rcases renderFolderOn_cases o settings recursive hfolder with
    ⟨-, fault, hfault⟩ | ⟨hlisted, before, after, -, ⟨stop, -, hfault⟩ | ⟨run, hrun, hanswer⟩⟩
  · cases hreport.symm.trans hfault
  · cases hreport.symm.trans hfault
  · obtain ⟨more, hturns⟩ :=
      inTurn_of_nil hformat (lieApart_taken hformat) hserved.encodes fun p hp => hp
    obtain ⟨rfl, -⟩ := hturns.complete run hrun
    have hlookup : ∀ p ∈ taken files folder recursive, ∃ e, h.lookup files p = .ok e := by
      intro p hp
      obtain ⟨alone, halone, -⟩ := hturns.told p hp
      exact exists_lookup_of_renderOneOn halone
    rw [hanswer, BatchReport.of_ok, BatchReport.notices_between] at htold
    have hserves : o.Serves h settings files (taken files folder recursive) := by
      refine ⟨hlookup, hserved.encodes, fun p hp alone halone n hn => htold n ?_⟩
      obtain ⟨alone', halone', hheard⟩ := hturns.told p hp
      cases halone.symm.trans halone'
      have hheard := hheard n hn
      rw [hrun] at hheard
      exact List.mem_append_left _ (List.mem_append_right _ hheard)
    have hrunOn : o.renderAllOn h settings files (taken files folder recursive) = .ok run := by
      rw [renderAllOn_of_taken, hrun]
      rw [hrun]
      exact fun n hn => htold n (List.mem_append_left _ (List.mem_append_right _ hn))
    cases hreport.symm.trans hanswer
    refine ⟨fun p hp => ?_, independent_of_run hformat hserves hrunOn before after⟩
    rcases List.mem_append.1 hp with hp | hp
    · exact hlisted p hp
    · obtain ⟨e, he⟩ := hlookup p hp
      exact ⟨e, Machine.lookup_of_ok he⟩

/-- A batch that is served gives an answer if every path can be followed. -/
theorem Served.exists_answer (hserved : o.Served h settings files folder recursive)
    (hformat : OutputFormat.ofName o.format = .ok format)
    (hlookup : ∀ p ∈ listed files folder recursive ++ taken files folder recursive,
      ∃ e, files.lookup p = .ok e) :
    ∃ report, o.renderFolderOn h settings files folder recursive = .ok report := by
  obtain ⟨hlisted, htaken⟩ := List.forall_mem_append.1 hlookup
  rw [renderFolderOn_of_taken hserved.told]
  rcases renderFolderOn_cases o settings recursive (hserved.lookup_eq List.mem_cons_self) with
    ⟨⟨p, hp, fault, hfault⟩, -⟩ | ⟨-, before, after, -, ⟨stop, hstop, -⟩ | ⟨run, -, hanswer⟩⟩
  · obtain ⟨e, he⟩ := hlisted p hp
    cases he.symm.trans hfault
  · obtain ⟨more, hturns⟩ :=
      inTurn_of_nil hformat (lieApart_taken hformat) hserved.encodes fun p hp => hp
    obtain ⟨p, hp, fault, hfault⟩ := hturns.stopped stop hstop
    obtain ⟨e, he⟩ := htaken p hp
    rw [hserved.lookup_eq (List.mem_cons_of_mem _ hp)] at hfault
    cases he.symm.trans hfault
  · exact ⟨_, hanswer⟩

end Answer

/-! ## A folder with a winding way to it -/

section Winding

open FilePath Text

/-- Names that lead into a folder, out of it again some times, and into it. -/
def windingNames : Nat → List String
  | 0 => ["d"]
  | n + 1 => "d" :: ".." :: windingNames n

theorem isPathName_windingNames (n : Nat) : ∀ s ∈ windingNames n, IsPathName s := by
  have hd : IsPathName "d" := by decide
  have hup : IsPathName ".." := by decide
  induction n with
  | zero => exact List.forall_mem_singleton.2 hd
  | succ n ih => exact List.forall_mem_cons.2 ⟨hd, List.forall_mem_cons.2 ⟨hup, ih⟩⟩

/-- A folder, by way of itself. -/
def windingFolder (n : Nat) : FilePath := ⟨.working, windingNames n, isPathName_windingNames n⟩

/-- A folder with a tree file and one that is cut short. -/
def windingFiles : FileTree :=
  ((FileTree.empty []).place ["d", "t.json"] (.file (Text.encode "[\"a\"]"))).place ["d", "u.json"]
    (.file (Text.encode "[\"a\""))

theorem join_windingNames_succ (n : Nat) (more : List String) :
    join ['/'] ((windingNames (n + 1) ++ more).map String.toList) =
      "d/../".toList ++ join ['/'] ((windingNames n ++ more).map String.toList) := by
  have hne : (windingNames n ++ more).map String.toList ≠ [] := by cases n <;> simp [windingNames]
  simp only [windingNames, List.cons_append, List.map_cons, join_cons_cons, List.append_assoc,
    join_cons_of_ne_nil _ _ hne]
  rfl

/-- Each turn makes the path five octets longer. -/
theorem octets_windingNames (n : Nat) (more : List String) :
    (String.ofList (join ['/'] ((windingNames n ++ more).map String.toList))).utf8ByteSize =
      5 * n + (String.ofList (join ['/'] (("d" :: more).map String.toList))).utf8ByteSize := by
  induction n with
  | zero => simp [windingNames]
  | succ n ih =>
    have hd : "d/../".utf8ByteSize = 5 := by decide
    rw [join_windingNames_succ, String.ofList_append, String.utf8ByteSize_append, ih,
      String.ofList_toList, hd]
    omega

theorem notMem_join_windingNames {more : List String}
    (h : '\x00' ∉ join ['/'] (("d" :: more).map String.toList)) (n : Nat) :
    '\x00' ∉ join ['/'] ((windingNames n ++ more).map String.toList) := by
  induction n with
  | zero => exact h
  | succ n ih =>
    rw [join_windingNames_succ, List.mem_append, not_or]
    exact ⟨by decide, ih⟩

/-- Turns lead back to where they began. -/
theorem descend_windingNames (n : Nat) (more : List String) :
    windingFiles.descend [] (windingNames n ++ more) = windingFiles.descend ["d"] more := by
  have hroot : windingFiles.get? [] = some .folder := rfl
  have hd : windingFiles.get? ["d"] = some .folder := by decide +kernel
  have hin : ∀ rest, windingFiles.descend [] ("d" :: rest) = windingFiles.descend ["d"] rest := by
    intro rest
    rw [FileTree.descend, hroot]
    rfl
  have hout : ∀ rest, windingFiles.descend ["d"] (".." :: rest) = windingFiles.descend [] rest := by
    intro rest
    rw [FileTree.descend, hd]
    rfl
  induction n with
  | zero => exact hin more
  | succ n ih => rw [windingNames, List.cons_append, hin, List.cons_append, hout, ih]

/-- Where a path of winding names leads, if its text is not too long. -/
theorem resolve_of_windingNames {p : FilePath} {n : Nat} {more : List String}
    (hstart : p.start = .working) (hparts : p.parts = windingNames n ++ more)
    (hnull : '\x00' ∉ join ['/'] (("d" :: more).map String.toList)) :
    windingFiles.resolve p =
      if FileTree.pathLimit < 5 * n +
          (String.ofList (join ['/'] (("d" :: more).map String.toList))).utf8ByteSize then
        .error .nameTooLong
      else windingFiles.descend ["d"] more := by
  have hne : p.parts ≠ [] := by rw [hparts]; cases n <;> simp [windingNames]
  have htext : p.text =
      String.ofList (join ['/'] ((windingNames n ++ more).map String.toList)) := by
    rw [text, hstart, ← hparts]
    exact if_neg hne
  rw [FileTree.resolve, htext, octets_windingNames, String.toList_ofList,
    if_neg (notMem_join_windingNames hnull n), hstart, hparts]
  congr 1
  exact descend_windingNames n more

theorem resolve_windingFolder {n : Nat} (h : n ≤ 818) :
    windingFiles.resolve (windingFolder n) = .ok ["d"] := by
  have hd : (String.ofList (join ['/'] (["d"].map String.toList))).utf8ByteSize = 1 := by decide
  have hlimit : FileTree.pathLimit = 4095 := rfl
  rw [resolve_of_windingNames rfl (List.append_nil _).symm (by decide), hd, hlimit]
  exact if_neg (by omega)

/-- A file of the folder, by way of it. -/
def windingFile : FilePath := (windingFolder 818).append ["t.json"] (by decide)

/-- The path of the file itself is too long. -/
theorem lookup_windingFile : windingFiles.lookup windingFile = .error .nameTooLong := by
  have hlong : windingFiles.resolve windingFile = .error .nameTooLong := by
    rw [resolve_of_windingNames rfl rfl (by decide)]
    exact if_pos (by decide)
  rw [FileTree.lookup, hlong]

/-- The folder's own path is not too long. -/
theorem lookup_windingFolder {n : Nat} (h : n ≤ 818) :
    windingFiles.lookup (windingFolder n) = .ok (some .folder) := by
  have hd : windingFiles.get? ["d"] = some .folder := by decide +kernel
  rw [FileTree.lookup, resolve_windingFolder h]
  exact congrArg Except.ok hd

/-- The file is among those that a batch takes from the folder. -/
theorem windingFile_mem_taken : windingFile ∈ taken windingFiles (windingFolder 818) true := by
  have hname : windingFile.name = "t.json" := name_eq_of_parts rfl
  have hbelow : ["t.json"] ∈ windingFiles.namesBelow ["d"] := by decide +kernel
  rw [taken, lookup_windingFolder (Nat.le_refl _)]
  refine mem_select_iff.2 ⟨?_, ?_⟩
  · rw [FileTree.below, resolve_windingFolder (Nat.le_refl _)]
    exact List.mem_filter.2 ⟨List.mem_pmap.2 ⟨_, hbelow, rfl⟩, rfl⟩
  · rw [isTaken, isRendered, stem, hname]
    decide +kernel

end Winding

/-! ## Batches, file by file -/

/-- A batch of a folder that is served gives an answer exactly if no path is too long, of the
folder, of the folders in it and of the files taken, and then each file was rendered as it would be
alone. -/
theorem renderFolderOn_independent (o : BatchOptions) (h : Host)
    (settings : Except SettingsFault Settings) (files : FileTree) (folder : FilePath)
    (recursive : Bool) {format : OutputFormat}
    (hformat : OutputFormat.ofName o.format = .ok format)
    (hserved : o.Served h settings files folder recursive) :
    ((∃ report, o.renderFolderOn h settings files folder recursive = .ok report) ↔
      ∀ p ∈ listed files folder recursive ++ taken files folder recursive,
        files.lookup p ≠ .error .nameTooLong) ∧
    ∀ report, o.renderFolderOn h settings files folder recursive = .ok report →
      Independent o h settings files format (taken files folder recursive) report := by
  refine ⟨⟨?_, fun hshort => ?_⟩, fun report hreport => (hserved.answer_cases hformat hreport).2⟩
  · rintro ⟨report, hreport⟩ p hp hlong
    obtain ⟨e, he⟩ := (hserved.answer_cases hformat hreport).1 p hp
    cases he.symm.trans hlong
  · refine hserved.exists_answer hformat fun p hp => ?_
    cases hlookup : files.lookup p with
    | ok e => exact ⟨e, rfl⟩
    | error fault =>
      obtain rfl := FileTree.eq_nameTooLong_of_lookup hlookup
      exact absurd hlookup (hshort p hp)

theorem select_windingFolder : select windingFiles (windingFolder 0) true =
    [FilePath.ofText "d/t.json", FilePath.ofText "d/u.json"] := by
  have htaken : (windingFiles.below (windingFolder 0) true).filter isTaken =
      [FilePath.ofText "d/t.json", FilePath.ofText "d/u.json"] := by decide +kernel
  rw [select, htaken, List.mergeSort_of_pairwise (by decide +kernel)]

theorem taken_windingFolder : taken windingFiles (windingFolder 0) true =
    [FilePath.ofText "d/t.json", FilePath.ofText "d/u.json"] := select_windingFolder

/-- A terminal takes what is told of the files, and encodes their texts. -/
theorem served_windingFolder :
    (⟨"html", false, .null, none⟩ : BatchOptions).Served .terminal (.ok Settings.default)
      windingFiles (windingFolder 0) true := by
  have hwhole : ∀ p ∈ [FilePath.ofText "d/t.json", FilePath.ofText "d/u.json"],
      loneHalfText? windingFiles p = none := by decide +kernel
  refine ⟨fun _ _ => rfl, ?_, ?_⟩
  · rw [taken_windingFolder]
    exact fun p hp r _ => Machine.encodingFault?_of_loneHalfText? (hwhole p hp)
  · have hlookup : Host.terminal.lookup windingFiles (windingFolder 0) = .ok (some .folder) :=
      lookup_windingFolder (Nat.zero_le _)
    have hlisted : firstFault windingFiles (subfolders windingFiles (windingFolder 0) true) =
        none := by decide +kernel
    unfold renderFolderOn
    simp only [Host.toMachine_lenient, hlookup, hlisted, select_windingFolder]
    decide +kernel

/-- One file of two fails, and the other one is rendered. -/
theorem renderFolderOn_independent_one_of_two :
    OutputFormat.ofName "html" = .ok .html ∧
      (⟨"html", false, .null, none⟩ : BatchOptions).Served .terminal (.ok Settings.default)
        windingFiles (windingFolder 0) true ∧
      ∃ report, (⟨"html", false, .null, none⟩ : BatchOptions).renderFolderOn .terminal
        (.ok Settings.default) windingFiles (windingFolder 0) true = .ok report ∧
      report.succeeded = 1 ∧ report.failed = 1 ∧
      Independent ⟨"html", false, .null, none⟩ .terminal (.ok Settings.default) windingFiles .html
        (taken windingFiles (windingFolder 0) true) report := by
  have hformat : OutputFormat.ofName "html" = .ok .html := OutputFormat.ofName_name .html
  have hok : ∀ p ∈ listed windingFiles (windingFolder 0) true ++
      taken windingFiles (windingFolder 0) true, (windingFiles.lookup p).isOk = true := by
    rw [taken_windingFolder]
    decide +kernel
  obtain ⟨hanswer, hindependent⟩ := renderFolderOn_independent ⟨"html", false, .null, none⟩
    .terminal (.ok Settings.default) windingFiles (windingFolder 0) true hformat
    served_windingFolder
  obtain ⟨report, hreport⟩ := hanswer.2 fun p hp hlong => by
    simpa [hlong, Except.isOk, Except.toBool] using hok p hp
  have hreports := hindependent report hreport
  have hsucceeded : report.succeeded = 1 := by
    rw [hreports.succeeded_eq, taken_windingFolder]
    decide +kernel
  refine ⟨hformat, served_windingFolder, report, hreport, hsucceeded, ?_, hreports⟩
  have hcounts := hreports.counts
  rw [taken_windingFolder, hsucceeded] at hcounts
  exact Nat.add_left_cancel hcounts

/-- A batch of a folder may give no answer: a way to the folder may be too long for its files. -/
theorem not_exists_report_winding :
    OutputFormat.ofName "html" = .ok .html ∧
      windingFiles.lookup (windingFolder 818) = .ok (some .folder) ∧
      ¬∃ report, (⟨"html", false, .null, none⟩ : BatchOptions).renderFolderOn .ample
        (.ok Settings.default) windingFiles (windingFolder 818) true = .ok report := by
  have hformat : OutputFormat.ofName "html" = .ok .html := OutputFormat.ofName_name .html
  have hserved : (⟨"html", false, .null, none⟩ : BatchOptions).Served .ample
      (.ok Settings.default) windingFiles (windingFolder 818) true :=
    ⟨fun _ _ => rfl, fun _ _ _ _ => Machine.encodingFault?_ample, fun _ _ => rfl⟩
  refine ⟨hformat, lookup_windingFolder (Nat.le_refl _), fun ⟨report, hreport⟩ => ?_⟩
  obtain ⟨e, he⟩ := (hserved.answer_cases hformat hreport).1 windingFile
    (List.mem_append_right _ windingFile_mem_taken)
  cases he.symm.trans lookup_windingFile

/-- A folder with a tree file whose fault has a tag in it, before one that can be rendered. -/
def taggedFiles : FileTree :=
  let bad := "[\x7b\"type\":\"heading\",\"level\":\"[/x]\"\x7d]"
  ((FileTree.empty []).place ["d", "bad.json"] (.file (Text.encode bad))).place ["d", "good.json"]
    (.file (Text.encode "[\"b\"]"))

/-- A batch of a folder may give no answer: what a file holds breaks it off on a terminal. -/
theorem not_exists_report_tagged :
    taggedFiles.lookup (FilePath.ofText "d") = .ok (some .folder) ∧
      ¬∃ report, (⟨"html", false, .null, none⟩ : BatchOptions).renderFolderOn .terminal
        (.ok Settings.default) taggedFiles (FilePath.ofText "d") true = .ok report := by
  have hselect : select taggedFiles (FilePath.ofText "d") true =
      [FilePath.ofText "d/bad.json", FilePath.ofText "d/good.json"] := by
    have htaken : (taggedFiles.below (FilePath.ofText "d") true).filter isTaken =
        [FilePath.ofText "d/bad.json", FilePath.ofText "d/good.json"] := by decide +kernel
    rw [select, htaken, List.mergeSort_of_pairwise (by decide +kernel)]
  have hlookup : taggedFiles.lookup (FilePath.ofText "d") = .ok (some .folder) := by
    have hd : taggedFiles.get? ["d"] = some .folder := by decide +kernel
    have hresolve : taggedFiles.resolve (FilePath.ofText "d") = .ok ["d"] := by rfl
    rw [FileTree.lookup, hresolve]
    exact congrArg Except.ok hd
  have hlisted : firstFault taggedFiles (subfolders taggedFiles (FilePath.ofText "d") true) =
      none := by decide +kernel
  have hterminal : Host.terminal.lookup taggedFiles (FilePath.ofText "d") = .ok (some .folder) :=
    hlookup
  have hbroken : ((⟨"html", false, .null, none⟩ : BatchOptions).renderFolderOn .terminal
      (.ok Settings.default) taggedFiles (FilePath.ofText "d") true).isOk = false := by
    unfold renderFolderOn
    simp only [hterminal, hlisted, hselect]
    decide +kernel
  refine ⟨hlookup, fun ⟨report, hreport⟩ => ?_⟩
  rw [hreport] at hbroken
  cases hbroken

end BatchOptions

end TicketMarkup
