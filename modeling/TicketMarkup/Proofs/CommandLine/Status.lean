import TicketMarkup.CommandLine
import TicketMarkup.Proofs.Batch.Independent

/-!
# What the exit status says

A run is asked to render some files to some others (`Command.jobs?`): a file to the place that is
given or next to itself, or the tree files of a folder next to themselves. A file was rendered by a
run if the run says so and its data, as text, is what lies there afterwards (`RenderedBy`).

On a host that serves a command (`Command.Served`), the encoder takes the texts and the console
takes the notices. There the exit status is zero exactly if the settings and the format are accepted
and each file that the run is asked for was rendered, which is so if each can be (`Renderable`).
Whatever the status is, nothing was changed but where a file was rendered to (`execute_truthful`).
One step shows this for a single file (`truthful_file`) and one for a folder (`truthful_folder`),
the latter also for a run that breaks off on the way. The settings may be any, or refused; the
system may keep files to itself, and the stack may be used up.

A console that does not take a notice makes the status wrong (`execute_not_truthful_tagged`).
-/

namespace TicketMarkup

namespace CommandLine

/-! ## What a run is asked for -/

/-- A file to be rendered, and where to. -/
structure Job where
  input : FilePath
  output : FilePath

/-- A file to be rendered next to itself. -/
def Job.besides (format : OutputFormat) (p : FilePath) : Job :=
  ⟨p, p.rendered format.extension none⟩

@[simp] theorem Job.input_besides (format : OutputFormat) (p : FilePath) :
    (besides format p).input = p := rfl

@[simp] theorem Job.output_besides (format : OutputFormat) (p : FilePath) :
    (besides format p).output = p.rendered format.extension none := by
  simp only [besides]

namespace Command

variable (c : Command) {m : Machine} {files : FileTree}

/-- The rendering that a command asks for, in a format. -/
def rendering (settings : Settings) (format : OutputFormat) : Rendering where
  renderer := .ofFormat settings.profiles format
  base := Options.textOr c.base settings.base
  ticket := c.ticket
  limit := settings.limit

/-- The files that a command asks for, in a format. They are not known if the system does not tell
what the path leads to, or if a folder cannot be listed. -/
def jobs? (m : Machine) (files : FileTree) (format : OutputFormat) : Option (List Job) :=
  match m.lookup files c.path with
  | .error _ => none
  | .ok (some (.file _)) => some [⟨c.path, c.output.getD (c.path.rendered format.extension none)⟩]
  | .ok _ =>
    match BatchOptions.firstFault files (BatchOptions.listed files c.path true) with
    | some _ => none
    | none => some ((BatchOptions.taken files c.path true).map (Job.besides format))

/-- Whether a command asks for some files, in a format and with some settings: these are accepted,
and the files are known. -/
structure Asks (m : Machine) (read : Except SettingsFault Settings) (files : FileTree)
    (settings : Settings) (format : OutputFormat) (jobs : List Job) : Prop where
  settings_read : read = .ok settings
  format_eq : c.format? settings = .ok format
  jobs_eq : c.jobs? m files format = some jobs

/-- What a command asks for is decided by the command, the settings and the files. -/
theorem Asks.unique {c : Command} {read : Except SettingsFault Settings}
    {settings settings' : Settings} {format format' : OutputFormat} {jobs jobs' : List Job}
    (h : c.Asks m read files settings format jobs)
    (h' : c.Asks m read files settings' format' jobs') :
    settings = settings' ∧ format = format' ∧ jobs = jobs' := by
  obtain rfl := Except.ok.inj (h.settings_read.symm.trans h'.settings_read)
  obtain rfl := Except.ok.inj (h.format_eq.symm.trans h'.format_eq)
  exact ⟨rfl, rfl, Option.some.inj (h.jobs_eq.symm.trans h'.jobs_eq)⟩

/-- The path of a file asks for that file. -/
theorem jobs?_of_file {octets : List UInt8}
    (h : m.lookup files c.path = .ok (some (.file octets))) (format : OutputFormat) :
    c.jobs? m files format =
      some [⟨c.path, c.output.getD (c.path.rendered format.extension none)⟩] := by
  simp only [jobs?, h]

/-- The path of a folder asks for the tree files below it, if all of them can be looked up. -/
theorem jobs?_eq_some_iff {e : Option Entry} (h : m.lookup files c.path = .ok e)
    (hfile : ∀ octets, e ≠ some (.file octets)) {format : OutputFormat} {jobs : List Job} :
    c.jobs? m files format = some jobs ↔
      (∀ p ∈ BatchOptions.listed files c.path true, ∃ e, files.lookup p = .ok e) ∧
        (BatchOptions.taken files c.path true).map (Job.besides format) = jobs := by
  have hjobs : c.jobs? m files format =
      match BatchOptions.firstFault files (BatchOptions.listed files c.path true) with
      | some _ => none
      | none => some ((BatchOptions.taken files c.path true).map (Job.besides format)) := by
    rw [jobs?, h]
    rcases e with _ | octets | _
    · rfl
    · exact absurd rfl (hfile octets)
    · rfl
  rw [hjobs, ← BatchOptions.firstFault_eq_none_iff]
  cases BatchOptions.firstFault files (BatchOptions.listed files c.path true) <;> simp

theorem ofName_options (format : OutputFormat) :
    OutputFormat.ofName (c.options format).format = .ok format := OutputFormat.ofName_name format

theorem target_options (format : OutputFormat) :
    (c.options format).target c.path c.output =
      .ok (c.output.getD (c.path.rendered format.extension none)) := by
  cases c.output with
  | none => rw [BatchOptions.target_of_ofName (c.ofName_options format), Option.getD_none]
  | some output => rfl

theorem rendering?_options (settings : Settings) (format : OutputFormat) :
    (c.options format).rendering? (.ok settings) = some (c.rendering settings format) := by
  have hname : Options.textOr (some format.name) settings.format = format.name := by
    cases format <;> rfl
  refine BatchOptions.rendering?_of_ofOptions ?_
  simp only [Rendering.ofOptions, BatchOptions.options, options, hname, OutputFormat.ofName_name]
  rfl

end Command

/-! ## What a run has done -/

/-- Whether a run rendered a file: it says so, and what lies in the place that the file was to be
rendered to is the text of the data that the file held. -/
structure RenderedBy (r : Rendering) (files : FileTree) (run : Run) (input output : FilePath) :
    Prop where
  told : .success output ∈ run.notices
  holds : ∃ data s, files.readTree input = .ok data ∧ r.render data = .ok s ∧
    run.files.read output = .ok (Text.encode s)

/-- Whether a file can be rendered to a place on a machine. -/
def Renderable (m : Machine) (r : Rendering) (files : FileTree) (input output : FilePath) : Prop :=
  ∃ tree files', m.renderFile r files input output = (.ok tree, files')

/-- Whether the exit status of a run tells if all of some files were rendered, which they are if
they can be, and nothing was changed but where one of them was rendered to. -/
structure Truthful (m : Machine) (r : Rendering) (files : FileTree) (jobs : List Job) (run : Run) :
    Prop where
  status : run.ending.code = 0 ↔ ∀ job ∈ jobs, RenderedBy r files run job.input job.output
  possible : run.ending.code = 0 ↔ ∀ job ∈ jobs, Renderable m r files job.input job.output
  changed : ∀ a, run.files.get? a ≠ files.get? a →
    ∃ job ∈ jobs, RenderedBy r files run job.input job.output ∧ files.resolve job.output = .ok a

/-- The text of what is rendered to a place is what lies there. -/
theorem holds_of_renderFile {m : Machine} {r : Rendering} {files files' : FileTree}
    {input output : FilePath} {tree : List Display}
    (h : m.renderFile r files input output = (.ok tree, files')) :
    (∃ data s, files.readTree input = .ok data ∧ r.render data = .ok s ∧
      files'.read output = .ok (Text.encode s)) ∧
    ∀ a, files'.get? a ≠ files.get? a → files.resolve output = .ok a := by
  obtain ⟨data, s, hdata, hs, -, hwrite⟩ := Machine.renderFile_eq_ok_iff.1 h
  obtain ⟨htree, hs⟩ := Machine.display_of_render hs
  refine ⟨⟨data, s, Machine.readTree_of_ok hdata, Rendering.render_eq_ok_iff.2 ⟨tree, htree, hs⟩,
    FileTree.read_write hwrite⟩, fun a ha => ?_⟩
  obtain ⟨b, hb, -, -⟩ := FileTree.resolve_of_write hwrite
  have hab : a = b := Classical.byContradiction fun hne =>
    ha (FileTree.get?_write_of_ne hwrite hb hne)
  exact hab ▸ hb

/-- The exit status is zero exactly if all was done. -/
theorem code_statusOf (complete : Bool) : (statusOf complete).code = 0 ↔ complete = true := by
  cases complete <;> simp [statusOf, Ending.code]

/-- A run of a batch ends with status zero exactly if the batch was finished and met the
condition. -/
theorem code_ofBatch {isDone : BatchReport → Bool} {batch : Except BatchBreak BatchReport} :
    (Run.ofBatch isDone batch).ending.code = 0 ↔
      ∃ report, batch = .ok report ∧ isDone report = true := by
  cases batch with
  | error stop => simp [Run.ofBatch, Ending.code]
  | ok report => simp [Run.ofBatch, code_statusOf]

variable {c : Command} {m : Machine} {settings : Settings} {format : OutputFormat}
  {files : FileTree}

/-- A run for a single file. -/
theorem truthful_file {target : FilePath} {e : Option Entry}
    (hlookup : m.lookup files c.path = .ok e)
    (htarget : (c.options format).target c.path c.output = .ok target)
    (hencodes : m.encodingFault? (c.rendering settings format) files c.path = none) :
    Truthful m (c.rendering settings format) files [⟨c.path, target⟩]
      (.ofBatch (·.failed = 0)
        (c.renderFile (.lenient m) (.ok settings) (c.options format) files)) := by
  have hr := c.rendering?_options settings format
  obtain ⟨one, hone, htold, hcases⟩ := BatchOptions.renderOneOn_cases hlookup htarget
    fun r hr' => Option.some.inj (hr.symm.trans hr') ▸ hencodes
  have hbatch : c.renderFile (.lenient m) (.ok settings) (c.options format) files =
      .ok (one.andThen (.none [] one.files)) := by
    rw [Command.renderFile, hone]
    rfl
  have hcode : (Run.ofBatch (·.failed = 0)
      (c.renderFile (.lenient m) (.ok settings) (c.options format) files)).ending.code = 0 ↔
        one.succeeded = true := by
    rw [code_ofBatch, hbatch]
    cases hsucceeded : one.succeeded <;> simp [FileReport.andThen, BatchReport.none, hsucceeded]
  have hnotices : (Run.ofBatch (·.failed = 0)
      (c.renderFile (.lenient m) (.ok settings) (c.options format) files)).notices =
        one.notices := by
    rw [Run.notices_ofBatch, hbatch]
    exact List.append_nil _
  have hfiles : (Run.ofBatch (·.failed = 0)
      (c.renderFile (.lenient m) (.ok settings) (c.options format) files)).files = one.files := by
    rw [Run.files_ofBatch, hbatch]
    rfl
  rcases hcases with ⟨r, tree, hsucceeded, hr', hrun⟩ | ⟨hfails, hkept, hnone⟩
  · cases hr.symm.trans hr'
    obtain ⟨hholds, hchanged⟩ := holds_of_renderFile hrun
    have hrendered : RenderedBy (c.rendering settings format) files _ c.path target :=
      ⟨hnotices ▸ (htold target).2 ⟨hsucceeded, rfl⟩, hfiles ▸ hholds⟩
    refine ⟨?_, ?_, fun a ha => ⟨_, List.mem_singleton_self _, hrendered, ?_⟩⟩
    · rw [hcode, List.forall_mem_singleton]
      exact iff_of_true hsucceeded hrendered
    · rw [hcode, List.forall_mem_singleton]
      exact iff_of_true hsucceeded ⟨tree, one.files, hrun⟩
    · exact hchanged a (hfiles ▸ ha)
  · refine ⟨?_, ?_, fun a ha => absurd (congrArg (·.get? a) (hfiles.trans hkept)) ha⟩
    · rw [hcode, hfails, List.forall_mem_singleton]
      refine iff_of_false Bool.false_ne_true fun hrendered => ?_
      cases hfails.symm.trans ((htold target).1 (hnotices ▸ hrendered.told)).1
    · rw [hcode, hfails, List.forall_mem_singleton]
      refine iff_of_false Bool.false_ne_true ?_
      rintro ⟨tree, files', hrun⟩
      exact hnone _ tree files' hr hrun

section Folder

variable {run : Run} {more : List FilePath} {all : Except BatchBreak BatchReport} {p : FilePath}
  (hturns : (c.options format).InTurn m (.ok settings) files []
    (BatchOptions.taken files c.path true) more all)
  (hencodes : ∀ q ∈ BatchOptions.taken files c.path true,
    (c.options format).Encodes m (.ok settings) files q)

/-- A file of a folder succeeds exactly if it can be rendered. -/
theorem succeedsOn_iff_renderable (hp : p ∈ BatchOptions.taken files c.path true)
    (hencodes : ∀ q ∈ BatchOptions.taken files c.path true,
      (c.options format).Encodes m (.ok settings) files q) :
    (c.options format).succeedsOn (.lenient m) (.ok settings) files p = true ↔
      Renderable m (c.rendering settings format) files p (p.rendered format.extension none) :=
  BatchOptions.succeedsOn_iff (c.rendering?_options settings format)
    (BatchOptions.target_of_ofName (c.ofName_options format) p) (hencodes p hp)

include hturns hencodes

/-- A file whose turn came was rendered if it succeeds. -/
theorem renderedBy_of_succeedsOn (hfiles : run.files = (BatchReport.of all).files)
    (htold : ∀ t, .success t ∈ run.notices ↔ .success t ∈ (BatchReport.of all).notices)
    (hp : p ∈ more)
    (hsucceeds : (c.options format).succeedsOn (.lenient m) (.ok settings) files p = true) :
    RenderedBy (c.rendering settings format) files run p (p.rendered format.extension none) := by
  have hformat := c.ofName_options format
  have hplace := BatchOptions.target_of_ofName hformat p
  have hsuccess := (hturns.success_mem_iff hencodes hformat).2 ⟨p, hp, hsucceeds, rfl⟩
  obtain ⟨-, a, octets, -, hw, -⟩ :=
    BatchOptions.exists_writes_of_succeedsOn hformat (hencodes p (hturns.mem p hp)) hsucceeds
  have hread := hturns.ran.read_of_writes (List.mem_filter.2 ⟨hp, hsucceeds⟩) hplace hw
  obtain ⟨r, data, s, hr, hdata, hs, rfl⟩ := hw.exists_text
  obtain rfl := Option.some.inj ((c.rendering?_options settings format).symm.trans hr)
  exact ⟨(htold _).2 hsuccess, data, s, hdata, hs, hfiles ▸ hread⟩

/-- A file of a folder that was rendered succeeds: what is told of no other file is told of it. -/
theorem succeedsOn_of_renderedBy
    (htold : ∀ t, .success t ∈ run.notices ↔ .success t ∈ (BatchReport.of all).notices)
    (hp : p ∈ BatchOptions.taken files c.path true)
    (hrendered : RenderedBy (c.rendering settings format) files run p
      (p.rendered format.extension none)) :
    (c.options format).succeedsOn (.lenient m) (.ok settings) files p = true := by
  have hformat := c.ofName_options format
  obtain ⟨q, hq, hsucceeds, hsame⟩ :=
    (hturns.success_mem_iff hencodes hformat).1 ((htold _).1 hrendered.told)
  have hq := hturns.mem q hq
  obtain ⟨-, a, octets, -, hw, -⟩ :=
    BatchOptions.exists_writes_of_succeedsOn hformat (hencodes q hq) hsucceeds
  obtain ⟨r, data, s, -, hdata, -⟩ := hw.exists_text
  obtain ⟨data', s', hdata', -⟩ := hrendered.holds
  obtain rfl := eq_of_rendered (BatchOptions.mem_taken hp).1
    (BatchOptions.mem_taken hq).1 (readTree_eq_ok_iff.1 hdata').1 (readTree_eq_ok_iff.1 hdata).1
    hsame
  exact hsucceeds

/-- A run for the files of a folder, if it renders these and tells of the same as rendered. -/
theorem truthful_folder (hfiles : run.files = (BatchReport.of all).files)
    (htold : ∀ t, .success t ∈ run.notices ↔ .success t ∈ (BatchReport.of all).notices)
    (hcounts : ∀ report, all = .ok report →
      report.succeeded + report.failed = (BatchOptions.taken files c.path true).length)
    (hcode : run.ending.code = 0 ↔ ∃ report, all = .ok report ∧ report.failed = 0) :
    Truthful m (c.rendering settings format) files
      ((BatchOptions.taken files c.path true).map (Job.besides format)) run := by
  have hformat := c.ofName_options format
  have hsucceed := hturns.failed_eq_zero_iff hcounts
  constructor
  · simp only [hcode, List.forall_mem_map, Job.input_besides, Job.output_besides]
    constructor
    · intro hcompleted p hp
      have hsucceeds := hsucceed.1 hcompleted p hp
      obtain ⟨report, hreport, -⟩ := hcompleted
      obtain ⟨rfl, -⟩ := hturns.complete report hreport
      exact renderedBy_of_succeedsOn hturns hencodes hfiles htold hp hsucceeds
    · exact fun hall => hsucceed.2 fun p hp =>
        succeedsOn_of_renderedBy hturns hencodes htold hp (hall p hp)
  · simp only [hcode, hsucceed, List.forall_mem_map, Job.input_besides, Job.output_besides]
    exact forall₂_congr fun p hp => succeedsOn_iff_renderable hp hencodes
  · intro a ha
    rw [hfiles] at ha
    -- What no file that had its turn writes is kept, so one of them wrote it.
    have hwritten : ∃ p ∈ more.filter ((c.options format).succeedsOn (.lenient m) (.ok settings)
        files), ∃ octets, (c.options format).Writes (.ok settings) files p a octets :=
      Classical.byContradiction fun hnone =>
        ha (hturns.ran.kept a fun p hp octets hw => hnone ⟨p, hp, octets, hw⟩)
    obtain ⟨p, hp, octets, hw⟩ := hwritten
    obtain ⟨hp, hsucceeds⟩ := List.mem_filter.1 hp
    obtain ⟨target, htarget, ha⟩ := hw.exists_target
    obtain rfl := Except.ok.inj ((BatchOptions.target_of_ofName hformat p).symm.trans htarget)
    refine ⟨_, List.mem_map_of_mem (hturns.mem p hp), ?_⟩
    rw [Job.input_besides, Job.output_besides]
    exact ⟨renderedBy_of_succeedsOn hturns hencodes hfiles htold hp hsucceeds, ha⟩

end Folder

/-! ## Runs of a command -/

namespace Command

variable {h : Host} {read : Except SettingsFault Settings} {jobs : List Job}

/-- What a command that is asked to render a folder comes to, with a lenient console. -/
theorem renderFolder_cases (c : Command) (o : BatchOptions) (read : Except SettingsFault Settings)
    (hfolder : m.lookup files c.path = files.lookup c.path) :
    ((∃ p ∈ BatchOptions.listed files c.path true, ∃ fault, files.lookup p = .error fault) ∧
      ∃ stop, c.renderFolder (.lenient m) read o files = .error stop ∧
        stop.before.files = files) ∨
    (∀ p ∈ BatchOptions.listed files c.path true, ∃ e, files.lookup p = .ok e) ∧
      ∃ before after, (∀ t, .success t ∉ before ++ after) ∧
        ((∃ stop,
          o.renderAllOn (.lenient m) read files (BatchOptions.taken files c.path true) =
            .error stop ∧
          c.renderFolder (.lenient m) read o files =
            .error ⟨stop.fault, stop.before.between before []⟩) ∨
        ∃ run,
          o.renderAllOn (.lenient m) read files (BatchOptions.taken files c.path true) = .ok run ∧
          c.renderFolder (.lenient m) read o files = .ok (run.between before after)) := by
  unfold renderFolder
  have hwarning : ∀ t, .success t ∉
      (if c.output.isSome then [.outputIgnored] else [] : List Notice) := by
    intro t
    split <;> simp
  generalize (if c.output.isSome then [.outputIgnored] else [] : List Notice) = warning
    at hwarning ⊢
  simp only [BatchReport.tell_lenient, BatchReport.notices_between, BatchReport.notices_none,
    List.nil_append]
  rcases BatchOptions.renderFolderOn_cases o read true hfolder with
    ⟨hunlisted, fault, hfault⟩ | ⟨hlisted, before, after, hquiet, ⟨stop, hstop, hfault⟩ |
      ⟨run, hrun, hreport⟩⟩
  · exact .inl ⟨hunlisted, _, by rw [hfault], rfl⟩
  · refine .inr ⟨hlisted, warning ++ before, after, fun t => ?_, .inl ⟨stop, hstop, ?_⟩⟩
    · simpa [hwarning] using hquiet t
    · simp [hfault]
  · refine .inr ⟨hlisted, warning ++ before, after ++ [.complete run.succeeded run.failed],
      fun t => ?_, .inr ⟨run, hrun, ?_⟩⟩
    · simpa [hwarning] using hquiet t
    · simp [hreport, BatchReport.between]

/-- A command on a file renders it. -/
theorem execute_eq_of_file {octets : List UInt8} (hformat : c.format? settings = .ok format)
    (hlookup : h.lookup files c.path = .ok (some (.file octets))) :
    c.execute h (.ok settings) files =
      .ofBatch (·.failed = 0) (c.renderFile h (.ok settings) (c.options format) files) := by
  simp only [execute, hformat, hlookup]

/-- A command on what is not a file renders the tree files below it. -/
theorem execute_eq_of_not_file {e : Option Entry} (hformat : c.format? settings = .ok format)
    (hlookup : h.lookup files c.path = .ok e) (hfile : ∀ octets, e ≠ some (.file octets)) :
    c.execute h (.ok settings) files =
      .ofBatch (·.failed = 0) (c.renderFolder h (.ok settings) (c.options format) files) := by
  unfold execute
  simp only [hformat, hlookup]

/-- A command that asks for the files of a folder tells truly whether they were rendered. -/
theorem truthful_renderFolder (hfolder : m.lookup files c.path = files.lookup c.path)
    (hlisted : ∀ p ∈ BatchOptions.listed files c.path true, ∃ e, files.lookup p = .ok e)
    (hencodes : ∀ p ∈ BatchOptions.taken files c.path true,
      (c.options format).Encodes m (.ok settings) files p) :
    Truthful m (c.rendering settings format) files
      ((BatchOptions.taken files c.path true).map (Job.besides format))
      (.ofBatch (·.failed = 0)
        (c.renderFolder (.lenient m) (.ok settings) (c.options format) files)) := by
  obtain ⟨more, hturns⟩ := BatchOptions.inTurn_of_nil (c.ofName_options format)
    (BatchOptions.lieApart_taken (c.ofName_options format)) hencodes fun p hp => hp
  rcases c.renderFolder_cases (c.options format) (.ok settings) hfolder with
    ⟨⟨p, hp, fault, hfault⟩, -⟩ |
      ⟨-, before, after, hquiet, ⟨stop, hstop, hbroken⟩ | ⟨run, hrun, hreport⟩⟩
  · obtain ⟨e, he⟩ := hlisted p hp
    cases he.symm.trans hfault
  · rw [hbroken]
    rw [hstop] at hturns
    refine truthful_folder hturns hencodes rfl (fun t => ?_) (by simp) ?_
    · have hquiet := hquiet t
      rw [List.mem_append, not_or] at hquiet
      simp [hquiet]
    · simp [code_ofBatch]
  · rw [hreport]
    rw [hrun] at hturns
    refine truthful_folder hturns hencodes rfl (fun t => ?_)
      (fun _ hreport => BatchOptions.counts_renderAllOn (hrun.trans hreport)) ?_
    · have hquiet := hquiet t
      rw [List.mem_append, not_or] at hquiet
      simp [hquiet]
    · simp [code_ofBatch]

/-- A command that asks for something tells truly whether it was done. -/
theorem truthful_of_asks (hasks : c.Asks m read files settings format jobs)
    (hencodes : ∀ job ∈ jobs,
      m.encodingFault? (c.rendering settings format) files job.input = none) :
    Truthful m (c.rendering settings format) files jobs (c.execute (.lenient m) read files) := by
  obtain ⟨rfl, hformat, hjobs⟩ := hasks
  cases hlookup : m.lookup files c.path with
  | error fault => simp [jobs?, hlookup] at hjobs
  | ok e =>
    by_cases hfile : ∃ octets, e = some (.file octets)
    · obtain ⟨octets, rfl⟩ := hfile
      rw [c.jobs?_of_file hlookup, Option.some.injEq] at hjobs
      subst hjobs
      rw [execute_eq_of_file hformat hlookup]
      have hencodes := hencodes _ List.mem_cons_self
      exact truthful_file hlookup (c.target_options format) hencodes
    · have hfile : ∀ octets, e ≠ some (.file octets) := fun octets he => hfile ⟨octets, he⟩
      obtain ⟨hlisted, rfl⟩ := (c.jobs?_eq_some_iff hlookup hfile).1 hjobs
      rw [execute_eq_of_not_file hformat hlookup hfile]
      refine truthful_renderFolder (hlookup.trans (Machine.lookup_of_ok hlookup).symm) hlisted ?_
      intro p hp r hr
      rw [c.rendering?_options, Option.some.injEq] at hr
      subst hr
      exact List.forall_mem_map.1 hencodes p hp

/-- A command that asks for nothing that can be done fails, and changes nothing. -/
theorem fails_of_not_asks
    (hasks : ∀ settings format jobs, ¬c.Asks m read files settings format jobs) :
    (c.execute (.lenient m) read files).ending.code ≠ 0 ∧
      (c.execute (.lenient m) read files).files = files := by
  cases read with
  | error fault => simp [execute, Ending.code]
  | ok settings =>
    cases hformat : c.format? settings with
    | error e => simp [execute, hformat, code_ofBatch]
    | ok format =>
      cases hlookup : m.lookup files c.path with
      | error fault => simp [execute, hformat, hlookup, Ending.code]
      | ok e =>
        by_cases hfile : ∃ octets, e = some (.file octets)
        · obtain ⟨octets, rfl⟩ := hfile
          exact absurd ⟨rfl, hformat, c.jobs?_of_file hlookup format⟩ (hasks settings format _)
        · have hfile : ∀ octets, e ≠ some (.file octets) := fun octets he => hfile ⟨octets, he⟩
          rw [execute_eq_of_not_file hformat hlookup hfile]
          rcases c.renderFolder_cases (c.options format) (.ok settings)
            (hlookup.trans (Machine.lookup_of_ok hlookup).symm) with
            ⟨-, stop, hstop, hkept⟩ | ⟨hlisted, -⟩
          · rw [hstop]
            exact ⟨by simp [code_ofBatch], hkept⟩
          · exact absurd ⟨rfl, hformat, (c.jobs?_eq_some_iff hlookup hfile).2 ⟨hlisted, rfl⟩⟩
              (hasks settings format _)

/-- Whether a host serves a command: the encoder takes the texts that the files are rendered to that
the command asks for, and the console takes all that the run tells. -/
structure Served (c : Command) (h : Host) (read : Except SettingsFault Settings)
    (files : FileTree) : Prop where
  encodes : ∀ settings format jobs, c.Asks h.toMachine read files settings format jobs →
    ∀ job ∈ jobs, h.encodingFault? (c.rendering settings format) files job.input = none
  told : ∀ n ∈ (c.execute (.lenient h.toMachine) read files).notices, h.refusal? n = none

/-- The exit status of the command is zero exactly if the settings and the format are accepted and
each file that it asks for was rendered to its place, which is so if each can be. Zero or not,
nothing was changed but what lies where a file was rendered to. -/
theorem execute_truthful (c : Command) (h : Host) (read : Except SettingsFault Settings)
    (files : FileTree) (hserved : c.Served h read files) :
    ((c.execute h read files).ending.code = 0 ↔
      ∃ settings format jobs, c.Asks h.toMachine read files settings format jobs ∧
        ∀ job ∈ jobs, RenderedBy (c.rendering settings format) files (c.execute h read files)
          job.input job.output) ∧
    (∀ settings format jobs, c.Asks h.toMachine read files settings format jobs →
      ((c.execute h read files).ending.code = 0 ↔ ∀ job ∈ jobs,
        Renderable h.toMachine (c.rendering settings format) files job.input job.output)) ∧
    ∀ a, (c.execute h read files).files.get? a ≠ files.get? a →
      ∃ settings format jobs, c.Asks h.toMachine read files settings format jobs ∧
        ∃ job ∈ jobs, RenderedBy (c.rendering settings format) files (c.execute h read files)
          job.input job.output ∧ files.resolve job.output = .ok a := by
  rw [execute_of_taken hserved.told]
  have htruthful : ∀ settings format jobs, c.Asks h.toMachine read files settings format jobs →
      Truthful h.toMachine (c.rendering settings format) files jobs
        (c.execute (.lenient h.toMachine) read files) :=
    fun settings format jobs hasks =>
      truthful_of_asks hasks (hserved.encodes settings format jobs hasks)
  by_cases hasks : ∃ settings format jobs, c.Asks h.toMachine read files settings format jobs
  · obtain ⟨settings, format, jobs, hasks⟩ := hasks
    have htrue := htruthful settings format jobs hasks
    refine ⟨⟨fun hcode => ⟨settings, format, jobs, hasks, htrue.status.1 hcode⟩, ?_⟩,
      fun settings format jobs hasks => (htruthful settings format jobs hasks).possible,
      fun a ha => ⟨settings, format, jobs, hasks, htrue.changed a ha⟩⟩
    rintro ⟨settings', format', jobs', hasks', hall⟩
    obtain ⟨rfl, rfl, rfl⟩ := hasks.unique hasks'
    exact htrue.status.2 hall
  · obtain ⟨hcode, hfiles⟩ := fails_of_not_asks fun settings format jobs h =>
      hasks ⟨settings, format, jobs, h⟩
    refine ⟨iff_of_false hcode ?_, fun settings format jobs h => ?_,
      fun a ha => absurd (congrArg (·.get? a) hfiles) ha⟩
    · rintro ⟨settings, format, jobs, h, -⟩
      exact hasks ⟨settings, format, jobs, h⟩
    · exact absurd ⟨settings, format, jobs, h⟩ hasks

/-- A folder with a tree file. -/
def oneTree : FileTree :=
  (FileTree.empty [] (List.forall_mem_nil _)).place ["d", "t.json"]
    (.file (Text.encode "[\"a\"]"))

/-- Asks for a tree file as text, at a given place. -/
def oneTreeCommand : Command :=
  ⟨FilePath.ofText "d/t.json", some (FilePath.ofText "u"), some "TEXT", .null, none, false⟩

/-- A file that is rendered to a given place, on a terminal. -/
theorem execute_truthful_one_tree :
    oneTreeCommand.Served .terminal (.ok Settings.default) oneTree ∧
      (oneTreeCommand.execute .terminal (.ok Settings.default) oneTree).ending.code = 0 ∧
      ∃ settings format job, oneTreeCommand.Asks Host.terminal.toMachine (.ok Settings.default)
        oneTree settings format [job] ∧
      RenderedBy (oneTreeCommand.rendering settings format) oneTree
        (oneTreeCommand.execute .terminal (.ok Settings.default) oneTree) job.input job.output := by
  have hlookup : Host.terminal.lookup oneTree oneTreeCommand.path =
      .ok (some (.file (Text.encode "[\"a\"]"))) := by rfl
  have hwhole : loneHalfText? oneTree oneTreeCommand.path = none := by decide +kernel
  have hserved : oneTreeCommand.Served .terminal (.ok Settings.default) oneTree := by
    refine ⟨fun settings format jobs hasks job hjob => ?_, by decide +kernel⟩
    obtain rfl := Option.some.inj
      (hasks.jobs_eq.symm.trans (oneTreeCommand.jobs?_of_file hlookup format))
    obtain rfl := List.mem_singleton.1 hjob
    exact Machine.encodingFault?_of_loneHalfText? hwhole
  have hcode : (oneTreeCommand.execute .terminal (.ok Settings.default) oneTree).ending.code =
      0 := by decide +kernel
  obtain ⟨settings, format, jobs, hasks, hall⟩ :=
    (execute_truthful oneTreeCommand .terminal (.ok Settings.default) oneTree hserved).1.1 hcode
  obtain rfl := Option.some.inj
    (hasks.jobs_eq.symm.trans (oneTreeCommand.jobs?_of_file hlookup format))
  exact ⟨hserved, hcode, settings, format, _, hasks, hall _ (List.mem_singleton_self _)⟩

/-- A tree file in a folder, whose path has a tag in it. -/
def taggedTree : FileTree :=
  (FileTree.empty [] (List.forall_mem_nil _)).place ["[", "x].json"]
    (.file (Text.encode "[\"a\"]"))

/-- Asks for a tree file whose path has a tag in it. -/
def taggedCommand : Command := ⟨FilePath.ofText "[/x].json", none, none, .null, none, false⟩

/-- The exit status may tell of a failure where all was rendered: a terminal does not take the
notice of it. -/
theorem execute_not_truthful_tagged :
    ∃ job, taggedCommand.Asks Host.terminal.toMachine (.ok Settings.default) taggedTree
        Settings.default .html [job] ∧
      taggedTree.lookup job.output = .ok none ∧
      (∃ data s, taggedTree.readTree job.input = .ok data ∧
        (taggedCommand.rendering Settings.default .html).render data = .ok s ∧
        (taggedCommand.execute .terminal (.ok Settings.default) taggedTree).files.read job.output =
          .ok (Text.encode s)) ∧
      (taggedCommand.execute .terminal (.ok Settings.default) taggedTree).ending.code ≠ 0 := by
  have hlookup : Host.terminal.lookup taggedTree taggedCommand.path =
      .ok (some (.file (Text.encode "[\"a\"]"))) := by rfl
  refine ⟨_, ⟨rfl, by rfl, taggedCommand.jobs?_of_file hlookup .html⟩, by rfl,
    ⟨.arr [.str "a"], "<p>a</p>", by rfl, by rfl, by rfl⟩, by decide +kernel⟩

/-- A tree file with half a character in it. -/
def halvedTree : FileTree :=
  (FileTree.empty [] (List.forall_mem_nil _)).place ["t.json"]
    (.file (Text.encode "[\"\\ud800\"]"))

/-- Asks for a tree file with half a character in it. -/
def halvedCommand : Command := ⟨FilePath.ofText "t.json", none, none, .null, none, false⟩

/-- A run may leave an output that is no rendering: the text is not encoded after the file was
begun. -/
theorem execute_not_truthful_halved :
    ∃ job, halvedCommand.Asks Host.terminal.toMachine (.ok Settings.default) halvedTree
        Settings.default .html [job] ∧
      (halvedCommand.execute .terminal (.ok Settings.default) halvedTree).files.get?
        ["t-rendered.html"] ≠ halvedTree.get? ["t-rendered.html"] ∧
      ¬RenderedBy (halvedCommand.rendering Settings.default .html) halvedTree
        (halvedCommand.execute .terminal (.ok Settings.default) halvedTree) job.input
        job.output := by
  have hlookup : Host.terminal.lookup halvedTree halvedCommand.path =
      .ok (some (.file (Text.encode "[\"\\ud800\"]"))) := by rfl
  refine ⟨_, ⟨rfl, by rfl, halvedCommand.jobs?_of_file hlookup .html⟩, by decide +kernel, ?_⟩
  have hquiet : .success (FilePath.ofText "t-rendered.html") ∉
      (halvedCommand.execute .terminal (.ok Settings.default) halvedTree).notices := by
    decide +kernel
  exact fun hrendered => hquiet hrendered.told

end Command

end CommandLine

end TicketMarkup
