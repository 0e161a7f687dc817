import TicketMarkup.Batch.Hosted
import TicketMarkup.Proofs.Batch.Selected
import TicketMarkup.Proofs.Batch.Turns

/-!
# Files in turn on a host

A file that is rendered on a machine is rendered as without one, and a file that is not leaves the
files as they are, if the encoder takes its text (`renderOneOn_cases`). So what a batch leaves is
what the files that succeed on the machine, each alone, write (`RanAlone`), and each file comes to
the same in its turn as alone, and is told of alike (`RanAlone.stepOn`).

Main statement: `inTurn`, what rendering files one after the other comes to, broken off or not.
-/

namespace TicketMarkup

/-! ## What a machine sees of a file -/

namespace Machine

variable {m : Machine} {files now : FileTree} {p : FilePath}

/-- A machine tells the same of a path in two file trees that have the same entry there. -/
theorem lookup_eq_of_lookup (h : now.lookup p = files.lookup p) :
    m.lookup now p = m.lookup files p := by
  rw [lookup, h, ← lookup]

/-- What a machine tells of a path is what the path leads to. -/
theorem lookup_of_ok {e : Option Entry} (h : m.lookup files p = .ok e) :
    files.lookup p = .ok e := by
  unfold lookup at h
  split at h
  next => cases h
  next => exact h

theorem readTree_eq_of_lookup (h : now.lookup p = files.lookup p) :
    m.readTree now p = m.readTree files p := by
  unfold readTree
  rw [lookup_eq_of_lookup h]
  cases hlookup : m.lookup files p with
  | error fault => rfl
  | ok e =>
    cases e with
    | none => rfl
    | some e =>
      have hread : m.read now p = m.read files p := by
        simp only [read, FileTree.read_eq_of_lookup h (lookup_of_ok hlookup)]
      rw [hread]

theorem encodingFault?_eq_of_lookup (h : now.lookup p = files.lookup p) (r : Rendering) :
    m.encodingFault? r now p = m.encodingFault? r files p := by
  have hread : ∀ octets, now.read p = .ok octets ↔ files.read p = .ok octets := fun octets => by
    rw [FileTree.read_eq_ok_iff_lookup, FileTree.read_eq_ok_iff_lookup, h]
  have htext : loneHalfText? now p = loneHalfText? files p := by
    unfold loneHalfText?
    cases hnow : now.read p with
    | ok octets => rw [(hread octets).1 hnow]
    | error fault =>
      cases hfiles : files.read p with
      | ok octets =>
        rw [(hread octets).2 hfiles] at hnow
        cases hnow
      | error fault' => rfl
  rw [encodingFault?, encodingFault?, htext]

/-- A file is rendered alike where it holds the same and the same can be written. -/
theorem renderFile_fst_eq {output : FilePath} (hinput : now.lookup p = files.lookup p)
    (houtput : ∀ octets fault,
      now.write output octets = .error fault ↔ files.write output octets = .error fault)
    (r : Rendering) :
    (m.renderFile r now p output).1 = (m.renderFile r files p output).1 := by
  unfold renderFile
  rw [readTree_eq_of_lookup hinput, encodingFault?_eq_of_lookup hinput]
  cases m.readTree files p with
  | error fault => rfl
  | ok data =>
    dsimp only
    cases m.render r data with
    | error fault => rfl
    | ok rendered =>
      dsimp only
      generalize (if (m.encodingFault? r files p).isSome = true then []
        else Text.encode rendered.2) = octets
      cases hfiles : files.write output octets with
      | error fault => rw [(houtput octets fault).2 hfiles]
      | ok files' =>
        cases hnow : now.write output octets with
        | error fault =>
          rw [(houtput octets fault).1 hnow] at hfiles
          cases hfiles
        | ok now' => cases m.encodingFault? r files p <;> rfl

end Machine

namespace BatchOptions

variable {o : BatchOptions} {m : Machine} {settings : Except SettingsFault Settings}
  {files now : FileTree}

/-! ## One file -/

/-- Whether a file is rendered if it is rendered alone, on a host. -/
def succeedsOn (o : BatchOptions) (h : Host) (settings : Except SettingsFault Settings)
    (files : FileTree) (p : FilePath) : Bool :=
  match o.renderOneOn h settings files p none with
  | .ok one => one.succeeded
  | .error _ => false

/-- Whether the encoder takes the text that a file is rendered to. -/
def Encodes (o : BatchOptions) (m : Machine) (settings : Except SettingsFault Settings)
    (files : FileTree) (p : FilePath) : Prop :=
  ∀ r, o.rendering? settings = some r → m.encodingFault? r files p = none

theorem rendering_eq_ok_iff {r : Rendering} :
    o.rendering settings = .ok r ↔ o.rendering? settings = some r := by
  unfold rendering rendering?
  cases settings with
  | error fault => simp [Except.toOption]
  | ok settings =>
    cases hr : Rendering.ofOptions o.options settings <;> simp [Except.toOption, hr]

/-- An attempt succeeds exactly if the settings make a rendering that renders the file. -/
theorem attemptOn_eq_ok_iff {input output : FilePath} {tree : List Display} {files' : FileTree} :
    o.attemptOn m settings files input output = (.ok tree, files') ↔
      ∃ r, o.rendering? settings = some r ∧
        m.renderFile r files input output = (.ok tree, files') := by
  simp only [← rendering_eq_ok_iff]
  unfold attemptOn
  cases hr : o.rendering settings with
  | error fault => simp
  | ok r =>
    simp only [Except.ok.injEq, exists_eq_left']
    rcases m.renderFile r files input output with ⟨fault | tree', files''⟩ <;>
      simp

/-- A failed attempt leaves all files as they were, if what it renders can be encoded. -/
theorem attemptOn_of_error {input output : FilePath} {fault : RunFault}
    (h : (o.attemptOn m settings files input output).1 = .error fault)
    (hencodes : o.Encodes m settings files input) :
    (o.attemptOn m settings files input output).2 = files := by
  unfold attemptOn at h ⊢
  cases hr : o.rendering settings with
  | error fault => rfl
  | ok r =>
    simp only [hr] at h ⊢
    cases hrun : (m.renderFile r files input output).1 with
    | error fault => exact Machine.renderFile_of_error hrun (hencodes r (rendering_eq_ok_iff.1 hr))
    | ok tree =>
      rw [hrun] at h
      cases h

/-- What becomes of a file is decided by what lies at its path, and by whether the output may be
written. -/
theorem attemptOn_fst_eq {p output : FilePath} (hinput : now.lookup p = files.lookup p)
    (houtput : ∀ octets fault,
      now.write output octets = .error fault ↔ files.write output octets = .error fault) :
    (o.attemptOn m settings now p output).1 = (o.attemptOn m settings files p output).1 := by
  unfold attemptOn
  cases o.rendering settings with
  | error fault => rfl
  | ok r => exact congrArg (Except.mapError _) (Machine.renderFile_fst_eq hinput houtput r)

/-- What is said of a file that was tried, and what it leaves. -/
def tried (o : BatchOptions) (m : Machine) (settings : Except SettingsFault Settings)
    (files : FileTree) (p target : FilePath) : FileReport :=
  let attempt := o.attemptOn m settings files p target
  let last : Bool × Notice :=
    match attempt.1 with
    | .error fault => (false, .failure p target fault)
    | .ok _ => (true, .success target)
  { succeeded := last.1
    notices := o.announcement p target ++ [last.2]
    records := o.attemptRecordsOn m settings files p target
    files := attempt.2 }

/-- What rendering a file comes to on a machine, if the path can be followed and the format is
known: nothing lies there, it is not named like a tree file, or it is tried. -/
theorem renderOneOn_lenient {p target : FilePath} {output : Option FilePath} {e : Option Entry}
    (hlookup : m.lookup files p = .ok e) (htarget : o.target p output = .ok target) :
    o.renderOneOn (.lenient m) settings files p output =
      .ok (if e = none then ⟨false, [.notFound p], [], files⟩
        else if p.isTreePath = true then o.tried m settings files p target
        else ⟨false, [.skipped p], [], files⟩) := by
  unfold renderOneOn tried
  simp only [Host.toMachine_lenient, FileReport.tell_lenient, failure?_lenient, List.nil_append,
    hlookup, htarget]
  cases e with
  | none => rfl
  | some e =>
    cases p.isTreePath with
    | false => rfl
    | true => cases (o.attemptOn m settings files p target).1 <;> simp

/-- To announce a file is not to say that it was rendered. -/
theorem not_success_mem_announcement {p target t : FilePath} :
    .success t ∉ o.announcement p target := by
  unfold announcement
  split
  next => split <;> simp
  next => exact List.not_mem_nil

/-- Rendering a file to a place gives an answer where the system tells what its path leads to. The
file is told of as a success exactly if it is rendered on the machine. Nothing is changed otherwise,
if the encoder takes its text. -/
theorem renderOneOn_cases {p target : FilePath} {output : Option FilePath} {e : Option Entry}
    (hlookup : m.lookup files p = .ok e) (htarget : o.target p output = .ok target)
    (hencodes : o.Encodes m settings files p) :
    ∃ one, o.renderOneOn (.lenient m) settings files p output = .ok one ∧
      (∀ t, .success t ∈ one.notices ↔ one.succeeded = true ∧ t = target) ∧
      ((∃ r tree, one.succeeded = true ∧ o.rendering? settings = some r ∧
          m.renderFile r files p target = (.ok tree, one.files)) ∨
        one.succeeded = false ∧ one.files = files ∧
          ∀ r tree files', o.rendering? settings = some r →
            m.renderFile r files p target ≠ (.ok tree, files')) := by
  refine ⟨_, renderOneOn_lenient hlookup htarget, ?_⟩
  have hunread : ∀ fault, m.readTree files p = .error fault →
      ∀ r tree files', o.rendering? settings = some r →
        m.renderFile r files p target ≠ (.ok tree, files') := by
    intro fault hread r tree files' _ hrun
    obtain ⟨data, s, hdata, -⟩ := Machine.renderFile_eq_ok_iff.1 hrun
    cases hread.symm.trans hdata
  cases e with
  | none =>
    exact ⟨by simp, .inr ⟨rfl, rfl, hunread .absent (by simp only [Machine.readTree, hlookup])⟩⟩
  | some e =>
    by_cases htree : p.isTreePath = true
    · rw [if_neg (Option.some_ne_none e), if_pos htree]
      cases hresult : (o.attemptOn m settings files p target).1 with
      | error fault =>
        refine ⟨?_, .inr ⟨?_, attemptOn_of_error hresult hencodes, ?_⟩⟩
        · simp [tried, hresult, not_success_mem_announcement]
        · simp [tried, hresult]
        · intro r tree files' hr hrun
          rw [attemptOn_eq_ok_iff.2 ⟨r, hr, hrun⟩] at hresult
          cases hresult
      | ok tree =>
        obtain ⟨r, hr, hrun⟩ := attemptOn_eq_ok_iff.1 (Prod.ext hresult rfl :
          o.attemptOn m settings files p target = (.ok tree, _))
        refine ⟨?_, .inl ⟨r, tree, ?_, hr, hrun⟩⟩
        · simp [tried, hresult, not_success_mem_announcement]
        · simp [tried, hresult]
    · rw [if_neg (Option.some_ne_none e), if_neg htree]
      refine ⟨by simp, .inr ⟨rfl, rfl, hunread .unsupported ?_⟩⟩
      simp [Machine.readTree, hlookup, htree]

/-- A file that is rendered, or is said to have failed, is one that the system tells of. -/
theorem exists_lookup_of_renderOneOn {p : FilePath} {output : Option FilePath} {one : FileReport}
    (hone : o.renderOneOn (.lenient m) settings files p output = .ok one) :
    ∃ e, m.lookup files p = .ok e := by
  cases hlookup : m.lookup files p with
  | ok e => exact ⟨e, rfl⟩
  | error fault => simp [renderOneOn, hlookup] at hone

/-- A file is told of as a success exactly if it succeeds. -/
theorem success_mem_notices_iff {p target t : FilePath} {one : FileReport}
    (hone : o.renderOneOn (.lenient m) settings files p none = .ok one)
    (htarget : o.target p none = .ok target) (hencodes : o.Encodes m settings files p) :
    .success t ∈ one.notices ↔
      o.succeedsOn (.lenient m) settings files p = true ∧ t = target := by
  obtain ⟨e, he⟩ := exists_lookup_of_renderOneOn hone
  obtain ⟨one', hone', htold, -⟩ := renderOneOn_cases he htarget hencodes
  cases hone.symm.trans hone'
  rw [htold, succeedsOn, hone]

/-- What is rendered on a machine is written, and nothing else is. -/
theorem renderOneOn_writes {p : FilePath} {e : Option Entry} {format : OutputFormat}
    (hformat : OutputFormat.ofName o.format = .ok format) (hlookup : m.lookup files p = .ok e)
    (hencodes : o.Encodes m settings files p) :
    ∃ one, o.renderOneOn (.lenient m) settings files p none = .ok one ∧
      ((∃ a octets, one.succeeded = true ∧ o.Writes settings files p a octets ∧
          one.files = files.insert a (.file octets)) ∨
        one.succeeded = false ∧ one.files = files) := by
  have htarget := target_of_ofName hformat p
  obtain ⟨one, hone, -, hcases⟩ := renderOneOn_cases hlookup htarget hencodes
  refine ⟨one, hone, ?_⟩
  rcases hcases with ⟨r, tree, hsucceeded, hr, hrun⟩ | ⟨hfails, hfiles, -⟩
  · obtain ⟨data, s, hdata, hs, -, hwrite⟩ := Machine.renderFile_eq_ok_iff.1 hrun
    obtain ⟨htree, hs⟩ := Machine.display_of_render hs
    obtain ⟨a, ha, hfolder, hfiles⟩ := FileTree.resolve_of_write hwrite
    have htext := Rendering.render_eq_ok_iff.2 ⟨tree, htree, hs⟩
    exact .inl ⟨a, _, hsucceeded, ⟨⟨r, data, s, hr, Machine.readTree_of_ok hdata, htext, rfl⟩,
      ⟨_, htarget, ha⟩, hfolder⟩, hfiles⟩
  · exact .inr ⟨hfails, hfiles⟩

/-- A file succeeds on a machine exactly if it is rendered there. -/
theorem succeedsOn_iff {p target : FilePath} {r : Rendering} (hr : o.rendering? settings = some r)
    (htarget : o.target p none = .ok target) (hencodes : o.Encodes m settings files p) :
    o.succeedsOn (.lenient m) settings files p = true ↔
      ∃ tree files', m.renderFile r files p target = (.ok tree, files') := by
  cases hlookup : m.lookup files p with
  | error fault =>
    have hread : m.readTree files p = .error (.access fault) := by
      simp only [Machine.readTree, hlookup]
    refine iff_of_false ?_ ?_
    · simp [succeedsOn, renderOneOn, hlookup]
    · rintro ⟨tree, files', hrun⟩
      obtain ⟨data, s, hdata, -⟩ := Machine.renderFile_eq_ok_iff.1 hrun
      cases hread.symm.trans hdata
  | ok e =>
    obtain ⟨one, hone, -, hcases⟩ := renderOneOn_cases hlookup htarget hencodes
    rw [succeedsOn, hone]
    rcases hcases with ⟨r', tree, hsucceeded, hr', hrun⟩ | ⟨hfails, -, hnone⟩
    · cases hr.symm.trans hr'
      exact iff_of_true hsucceeded ⟨tree, one.files, hrun⟩
    · refine iff_of_false (by simp [hfails]) ?_
      rintro ⟨tree, files', hrun⟩
      exact hnone r tree files' hr hrun

/-- A file that succeeds on a machine is written. -/
theorem exists_writes_of_succeedsOn {p : FilePath} {format : OutputFormat}
    (hformat : OutputFormat.ofName o.format = .ok format) (hencodes : o.Encodes m settings files p)
    (hsucceeds : o.succeedsOn (.lenient m) settings files p = true) :
    ∃ one a octets, o.renderOneOn (.lenient m) settings files p none = .ok one ∧
      o.Writes settings files p a octets ∧ one.files = files.insert a (.file octets) := by
  unfold succeedsOn at hsucceeds
  split at hsucceeds
  next one hone =>
    obtain ⟨e, he⟩ := exists_lookup_of_renderOneOn hone
    obtain ⟨one', hone', hcases⟩ := renderOneOn_writes hformat he hencodes
    cases hone.symm.trans hone'
    rcases hcases with ⟨a, octets, -, hw, hfiles⟩ | ⟨hfails, -⟩
    · exact ⟨one, a, octets, hone, hw, hfiles⟩
    · cases hfails.symm.trans hsucceeds
  next => cases hsucceeds

/-! ## A file in its turn -/

/-- The place that a tree file is rendered to is next to it. -/
theorem not_isDeadEnd_of_target {p target : FilePath} {a : Address} (htree : p.isTreePath = true)
    (htarget : o.target p none = .ok target) (ha : files.resolve p = .ok a) :
    ¬FileTree.IsDeadEnd (files.resolve target) := by
  rw [BatchOptions.target] at htarget
  split at htarget
  next => cases htarget
  next format _ =>
    rw [Except.ok.injEq] at htarget
    rw [← htarget]
    exact FileTree.not_isDeadEnd_of_sibling ha (FilePath.parts_ne_nil_of_isTreePath htree)
      (p.start_rendered format) (p.parts_rendered format)

section Turn

variable {inputs done : List FilePath} {format : OutputFormat}
  (hformat : OutputFormat.ofName o.format = .ok format)
  (hapart : o.LieApart settings files inputs) (hdone : ∀ q ∈ done, q ∈ inputs)
  (hran : o.RanAlone settings files
    (done.filter (o.succeedsOn (.lenient m) settings files)) now)
  {p : FilePath} (hp : p ∈ inputs)

include hapart hdone hran hp

theorem RanAlone.lookup_eq_of_filter : now.lookup p = files.lookup p :=
  RanAlone.lookup_eq hapart (fun q hq => hdone q (List.mem_filter.1 hq).1) hran hp

include hformat

/-- A file is told of alike in its turn and alone, and succeeds in both or in neither. -/
theorem RanAlone.tried_alike {e : Option Entry} (hlookup : m.lookup files p = .ok e) :
    ∃ alone turn, o.renderOneOn (.lenient m) settings files p none = .ok alone ∧
      o.renderOneOn (.lenient m) settings now p none = .ok turn ∧
      turn.succeeded = alone.succeeded ∧ turn.notices = alone.notices := by
  have hsame : now.lookup p = files.lookup p :=
    RanAlone.lookup_eq_of_filter hapart hdone hran hp
  have htarget := target_of_ofName hformat p
  have hnow : m.lookup now p = .ok e := (Machine.lookup_eq_of_lookup hsame).trans hlookup
  -- Both runs take the same branches up to the attempt, which sees the same input, and an output
  -- next to it that may be written in both file trees or in none.
  refine ⟨_, _, renderOneOn_lenient hlookup htarget, renderOneOn_lenient hnow htarget, ?_⟩
  cases e with
  | none => exact ⟨rfl, rfl⟩
  | some e =>
    by_cases htree : p.isTreePath = true
    · obtain ⟨a, ha⟩ := FileTree.exists_resolve_of_lookup (Machine.lookup_of_ok hlookup)
      have hlive := not_isDeadEnd_of_target htree htarget ha
      have hattempt : (o.attemptOn m settings now p (p.rendered format.extension none)).1 =
          (o.attemptOn m settings files p (p.rendered format.extension none)).1 :=
        attemptOn_fst_eq hsame fun _ _ => hran.sameFolders.write_eq_error_iff hlive
      simp only [if_neg (Option.some_ne_none e), if_pos htree, tried, hattempt, and_self]
    · simp only [if_neg (Option.some_ne_none e), if_neg htree, and_self]

/-- A file is rendered in its turn as it would be alone. -/
theorem RanAlone.stepOn {e : Option Entry} (hlookup : m.lookup files p = .ok e)
    (hencodes : o.Encodes m settings files p) :
    ∃ alone turn, o.renderOneOn (.lenient m) settings files p none = .ok alone ∧
      o.renderOneOn (.lenient m) settings now p none = .ok turn ∧
      turn.succeeded = o.succeedsOn (.lenient m) settings files p ∧
      turn.notices = alone.notices ∧ (turn.succeeded = false → turn.files = now) ∧
      o.RanAlone settings files
        ((done ++ [p]).filter (o.succeedsOn (.lenient m) settings files)) turn.files := by
  have hsame : now.lookup p = files.lookup p :=
    RanAlone.lookup_eq_of_filter hapart hdone hran hp
  have hnow : m.lookup now p = .ok e := (Machine.lookup_eq_of_lookup hsame).trans hlookup
  have hencodes' : o.Encodes m settings now p := fun r hr =>
    (Machine.encodingFault?_eq_of_lookup hsame r).trans (hencodes r hr)
  obtain ⟨alone, turn, halone, hturn, hsucceeded, hnotices⟩ :=
    RanAlone.tried_alike hformat hapart hdone hran hp hlookup
  obtain ⟨turn', hturn', hcases⟩ := renderOneOn_writes hformat hnow hencodes'
  cases hturn.symm.trans hturn'
  have hsucceeds : o.succeedsOn (.lenient m) settings files p = turn.succeeded := by
    rw [succeedsOn, halone]
    exact hsucceeded.symm
  refine ⟨alone, turn, halone, hturn, hsucceeds.symm, hnotices, ?_, ?_⟩
  · rcases hcases with ⟨a, octets, hturned, -⟩ | ⟨-, hfiles⟩
    · simp [hturned]
    · exact fun _ => hfiles
  · rw [List.filter_append, List.filter_cons, List.filter_nil, hsucceeds]
    rcases hcases with ⟨a, octets, hturned, hw, hfiles⟩ | ⟨hfails, hfiles⟩
    · rw [hturned, if_pos rfl, hfiles]
      exact RanAlone.write hapart (fun q hq => hdone q (List.mem_filter.1 hq).1) hran hp hw
    · rw [hfails, if_neg Bool.false_ne_true, List.append_nil, hfiles]
      exact hran

end Turn

/-! ## Files, one after the other -/

/-- What rendering files after others comes to, with a lenient console, if `more` of them had their
turn: these were told of as they would be alone, and those of them that succeed alone were written.
All of them had their turn unless there is one that the system does not tell of. -/
structure InTurn (o : BatchOptions) (m : Machine) (settings : Except SettingsFault Settings)
    (files : FileTree) (done rest more : List FilePath) (run : Except BatchBreak BatchReport) :
    Prop where
  mem : ∀ p ∈ more, p ∈ rest
  ran : o.RanAlone settings files
    ((done ++ more).filter (o.succeedsOn (.lenient m) settings files)) (BatchReport.of run).files
  told : ∀ p ∈ more, ∃ alone, o.renderOneOn (.lenient m) settings files p none = .ok alone ∧
    ∀ n ∈ alone.notices, n ∈ (BatchReport.of run).notices
  heard : ∀ n ∈ (BatchReport.of run).notices,
    (∃ p ∈ more, ∃ alone, o.renderOneOn (.lenient m) settings files p none = .ok alone ∧
      n ∈ alone.notices) ∨ (∃ stop, run = .error stop) ∧ ∃ p, n = .stopped p
  complete : ∀ report, run = .ok report → more = rest ∧
    report.succeeded = rest.countP (o.succeedsOn (.lenient m) settings files)
  stopped : ∀ stop, run = .error stop → ∃ p ∈ rest, ∃ fault, m.lookup files p = .error fault

namespace InTurn

variable {done rest more : List FilePath} {p : FilePath}

/-- No file had its turn yet. -/
theorem nil
    (hran : o.RanAlone settings files
      (done.filter (o.succeedsOn (.lenient m) settings files)) now) :
    InTurn o m settings files done [] [] (o.renderAllOn (.lenient m) settings now []) where
  mem := List.forall_mem_nil _
  ran := by simpa [renderAllOn] using hran
  told := List.forall_mem_nil _
  heard := List.forall_mem_nil _
  complete := by
    rintro report ⟨⟩
    exact ⟨rfl, rfl⟩
  stopped := by rintro stop ⟨⟩

/-- A batch breaks off at a file that the system does not tell of. -/
theorem stop
    (hran : o.RanAlone settings files (done.filter (o.succeedsOn (.lenient m) settings files)) now)
    {fault : AccessFault} (hnow : m.lookup now p = .error fault)
    (hlookup : m.lookup files p = .error fault) :
    InTurn o m settings files done (p :: rest) []
      (o.renderAllOn (.lenient m) settings now (p :: rest)) := by
  have hstop : o.renderAllOn (.lenient m) settings now (p :: rest) =
      .error ⟨.access p fault, .none [.stopped p] now⟩ := by
    rw [renderAllOn, renderOneOn]
    simp [hnow, BatchReport.between, BatchReport.none]
  rw [hstop]
  exact
    { mem := List.forall_mem_nil _
      ran := by simpa using hran
      told := List.forall_mem_nil _
      heard := List.forall_mem_singleton.2 (.inr ⟨⟨_, rfl⟩, p, rfl⟩)
      complete := by rintro report ⟨⟩
      stopped := fun _ _ => ⟨p, List.mem_cons_self, fault, hlookup⟩ }

/-- A file has its turn, and others after it. -/
theorem cons {alone turn : FileReport}
    (halone : o.renderOneOn (.lenient m) settings files p none = .ok alone)
    (hturn : o.renderOneOn (.lenient m) settings now p none = .ok turn)
    (hsucceeded : turn.succeeded = o.succeedsOn (.lenient m) settings files p)
    (hnotices : turn.notices = alone.notices)
    (hmore : InTurn o m settings files (done ++ [p]) rest more
      (o.renderAllOn (.lenient m) settings turn.files rest)) :
    InTurn o m settings files done (p :: rest) (p :: more)
      (o.renderAllOn (.lenient m) settings now (p :: rest)) := by
  have hof := of_renderAllOn_cons hturn rest
  refine ⟨?_, ?_, ?_, ?_, ?_, ?_⟩
  · exact List.forall_mem_cons.2
      ⟨List.mem_cons_self, fun q hq => List.mem_cons_of_mem _ (hmore.mem q hq)⟩
  · rw [hof, FileReport.files_andThen]
    simpa using hmore.ran
  · rw [hof, FileReport.notices_andThen]
    refine List.forall_mem_cons.2 ⟨⟨alone, halone, fun n hn => ?_⟩, fun q hq => ?_⟩
    · exact List.mem_append_left _ (hnotices ▸ hn)
    · obtain ⟨alone', halone', htold⟩ := hmore.told q hq
      exact ⟨alone', halone', fun n hn => List.mem_append_right _ (htold n hn)⟩
  · rw [hof, FileReport.notices_andThen]
    intro n hn
    rcases List.mem_append.1 hn with hn | hn
    · exact .inl ⟨p, List.mem_cons_self, alone, halone, hnotices ▸ hn⟩
    · rcases hmore.heard n hn with ⟨q, hq, hheard⟩ | ⟨⟨stop, hstop⟩, hstopped⟩
      · exact .inl ⟨q, List.mem_cons_of_mem _ hq, hheard⟩
      · refine .inr ⟨⟨⟨stop.fault, turn.andThen stop.before⟩, ?_⟩, hstopped⟩
        rw [renderAllOn, hturn]
        simp only [hstop]
  · intro report hreport
    obtain ⟨one, more', hone, hmore', rfl⟩ := renderAllOn_cons_eq_ok_iff.1 hreport
    cases hturn.symm.trans hone
    obtain ⟨rfl, hcount⟩ := hmore.complete more' hmore'
    refine ⟨rfl, ?_⟩
    rw [List.countP_cons, ← hcount, ← hsucceeded]
    exact Nat.add_comm _ _
  · intro stop hstop
    rw [renderAllOn, hturn] at hstop
    cases hrest : o.renderAllOn (.lenient m) settings turn.files rest with
    | ok report => simp [hrest] at hstop
    | error stop' =>
      obtain ⟨q, hq, hfault⟩ := hmore.stopped stop' hrest
      exact ⟨q, List.mem_cons_of_mem _ hq, hfault⟩

variable {run : Except BatchBreak BatchReport}

/-- The successes that are told of are those of the files that had their turn. -/
theorem success_mem_iff (h : InTurn o m settings files done rest more run)
    (hencodes : ∀ p ∈ rest, o.Encodes m settings files p) {format : OutputFormat}
    (hformat : OutputFormat.ofName o.format = .ok format) {t : FilePath} :
    .success t ∈ (BatchReport.of run).notices ↔
      ∃ p ∈ more, o.succeedsOn (.lenient m) settings files p = true ∧
        t = p.rendered format.extension none := by
  have hone : ∀ p ∈ more, ∀ alone,
      o.renderOneOn (.lenient m) settings files p none = .ok alone →
        (.success t ∈ alone.notices ↔ o.succeedsOn (.lenient m) settings files p = true ∧
          t = p.rendered format.extension none) := fun p hp alone halone =>
    success_mem_notices_iff halone (target_of_ofName hformat p) (hencodes p (h.mem p hp))
  constructor
  · intro htold
    rcases h.heard _ htold with ⟨p, hp, alone, halone, hmem⟩ | ⟨-, p, hstopped⟩
    · exact ⟨p, hp, (hone p hp alone halone).1 hmem⟩
    · cases hstopped
  · rintro ⟨p, hp, hsuccess⟩
    obtain ⟨alone, halone, htold⟩ := h.told p hp
    exact htold _ ((hone p hp alone halone).2 hsuccess)

/-- All files are rendered, without a break and without a failure, exactly if each of them succeeds
alone. -/
theorem failed_eq_zero_iff (h : InTurn o m settings files done rest more run)
    (hcounts : ∀ report, run = .ok report → report.succeeded + report.failed = rest.length) :
    (∃ report, run = .ok report ∧ report.failed = 0) ↔
      ∀ p ∈ rest, o.succeedsOn (.lenient m) settings files p = true := by
  constructor
  · rintro ⟨report, hrun, hfailed⟩
    obtain ⟨-, hcount⟩ := h.complete report hrun
    have hlength := hcounts report hrun
    exact List.countP_eq_length.1 (by omega)
  · intro hall
    cases hrun : run with
    | error stop =>
      obtain ⟨p, hp, fault, hfault⟩ := h.stopped stop hrun
      have hsucceeds := hall p hp
      simp [succeedsOn, renderOneOn, hfault] at hsucceeds
    | ok report =>
      obtain ⟨-, hcount⟩ := h.complete report hrun
      have hlength := hcounts report hrun
      rw [List.countP_eq_length.2 hall] at hcount
      exact ⟨report, rfl, by omega⟩

end InTurn

/-- Files that lie apart are rendered in turn as each would be alone. -/
theorem inTurn {inputs done rest : List FilePath} {format : OutputFormat}
    (hformat : OutputFormat.ofName o.format = .ok format)
    (hapart : o.LieApart settings files inputs)
    (hencodes : ∀ p ∈ rest, o.Encodes m settings files p)
    (hran : o.RanAlone settings files
      (done.filter (o.succeedsOn (.lenient m) settings files)) now)
    (hall : ∀ q ∈ done ++ rest, q ∈ inputs) :
    ∃ more, InTurn o m settings files done rest more
      (o.renderAllOn (.lenient m) settings now rest) := by
  induction rest generalizing done now with
  | nil => exact ⟨[], .nil hran⟩
  | cons p rest ih =>
    have hdone : ∀ q ∈ done, q ∈ inputs := fun q hq => hall q (List.mem_append_left _ hq)
    have hp : p ∈ inputs := hall p (List.mem_append_right _ List.mem_cons_self)
    obtain ⟨hencodesp, hencodesRest⟩ := List.forall_mem_cons.1 hencodes
    cases hlookup : m.lookup files p with
    | error fault =>
      have hsame := RanAlone.lookup_eq_of_filter hapart hdone hran hp
      exact ⟨[], .stop hran ((Machine.lookup_eq_of_lookup hsame).trans hlookup) hlookup⟩
    | ok e =>
      obtain ⟨alone, turn, halone, hturn, hsucceeded, hnotices, -, hafter⟩ :=
        RanAlone.stepOn hformat hapart hdone hran hp hlookup hencodesp
      obtain ⟨more, hmore⟩ := ih hencodesRest hafter (by simpa using hall)
      exact ⟨p :: more, .cons halone hturn hsucceeded hnotices hmore⟩

/-- Files that lie apart are rendered in turn as each would be alone, the first one to begin
with. -/
theorem inTurn_of_nil {inputs rest : List FilePath} {format : OutputFormat}
    (hformat : OutputFormat.ofName o.format = .ok format)
    (hapart : o.LieApart settings files inputs)
    (hencodes : ∀ p ∈ rest, o.Encodes m settings files p) (hrest : ∀ p ∈ rest, p ∈ inputs) :
    ∃ more, InTurn o m settings files [] rest more
      (o.renderAllOn (.lenient m) settings files rest) :=
  inTurn hformat hapart hencodes ranAlone_nil hrest

end BatchOptions

end TicketMarkup
