import TicketMarkup.Batch
import TicketMarkup.Host

/-!
# Batches on a host

A batch takes the same steps on a host as without one, and tells each notice when it is due. Where a
notice is not taken, what comes after it is not done. Only after a file was rendered this is taken
for a fault of the file and told of once more, so that a file may be there that the batch says it
failed at; if that is not taken either, or the notice was another one, the batch breaks off.

Main statements: `renderFolderOn_ample`, on an ample host a batch is what it is without one, and
`renderFolderOn_of_taken`, a console that takes all that is told makes no difference.
-/

namespace TicketMarkup

/-- The report of a file with more told after it. -/
def FileReport.tell (h : Host) (one : FileReport) (notices : List Notice) :
    Except BatchBreak FileReport :=
  match h.untold? notices with
  | some complaint =>
    .error ⟨.untold complaint,
      ⟨0, 0, one.notices ++ h.taken notices, one.records, one.files⟩⟩
  | .none => .ok { one with notices := one.notices ++ notices }

/-- A report with more told after it. -/
def BatchReport.tell (h : Host) (report : BatchReport) (notices : List Notice) :
    Except BatchBreak BatchReport :=
  match h.untold? notices with
  | some complaint => .error ⟨.untold complaint, report.between [] (h.taken notices)⟩
  | .none => .ok (report.between [] notices)

/-- A batch that broke off, with the file told of at which it did. -/
def BatchBreak.tell (h : Host) (stop : BatchBreak) (input : FilePath) : BatchBreak :=
  match stop.before.tell h [.stopped input] with
  | .ok before => ⟨stop.fault, before⟩
  | .error untold => untold

namespace BatchOptions

variable (o : BatchOptions) (m : Machine) (h : Host) (settings : Except SettingsFault Settings)

/-- The rendering of each file. -/
def rendering : Except RunFault Rendering :=
  match settings with
  | .error fault => .error (.settings fault)
  | .ok settings => (Rendering.ofOptions o.options settings).mapError .format

/-- Renders a file to another. -/
def attemptOn (files : FileTree) (input output : FilePath) :
    Except RunFault (List Display) × FileTree :=
  match o.rendering settings with
  | .error fault => (.error fault, files)
  | .ok r =>
    let run := m.renderFile r files input output
    (run.1.mapError .file, run.2)

/-- The records that rendering a file to another leaves. -/
def attemptRecordsOn (files : FileTree) (input output : FilePath) : List RenderRecord :=
  match o.rendering settings with
  | .error _ => []
  | .ok r => m.fileRecords r files input output

/-- Why a file is said to have failed, if it is: it did, or its success was not taken. -/
def failure? (target : FilePath) : Except RunFault (List Display) → Option RunFault
  | .error fault => some fault
  | .ok _ => (h.refusal? (.success target)).map .untold

/-- Renders a file, to a given place or next to itself. -/
def renderOneOn (files : FileTree) (input : FilePath) (output : Option FilePath) :
    Except BatchBreak FileReport :=
  let untouched : FileReport := ⟨false, [], [], files⟩
  match h.lookup files input with
  | .error fault => .error ⟨.access input fault, .none [] files⟩
  | .ok none => untouched.tell h [.notFound input]
  | .ok (some _) =>
    if !input.isTreePath then untouched.tell h [.skipped input]
    else
      match o.target input output with
      | .error fault => .error ⟨fault, .none [] files⟩
      | .ok target =>
        match untouched.tell h (o.announcement input target) with
        | .error stop => .error stop
        | .ok announced =>
          let (result, files') := o.attemptOn h.toMachine settings files input target
          let after : FileReport :=
            { announced with
              records := o.attemptRecordsOn h.toMachine settings files input target
              files := files' }
          match failure? h target result with
          | some fault => after.tell h [.failure input target fault]
          | none =>
            .ok { after with succeeded := true, notices := after.notices ++ [.success target] }

/-! ## Folders -/

/-- Renders files next to themselves, one after the other. -/
def renderAllOn (files : FileTree) : List FilePath → Except BatchBreak BatchReport
  | [] => .ok (.none [] files)
  | input :: rest =>
    match o.renderOneOn h settings files input none with
    | .error stop => .error (stop.tell h input)
    | .ok one =>
      match renderAllOn one.files rest with
      | .error stop => .error ⟨stop.fault, one.andThen stop.before⟩
      | .ok more => .ok (one.andThen more)

/-- Renders the tree files of a folder, and of the folders in it if that is asked for. -/
def renderFolderOn (files : FileTree) (folder : FilePath) (recursive : Bool) :
    Except BatchBreak BatchReport :=
  let untouched : BatchReport := .none [] files
  match h.lookup files folder with
  | .error fault => .error ⟨.access folder fault, untouched⟩
  | .ok (some .folder) =>
    match firstFault files (subfolders files folder recursive) with
    | some fault => .error ⟨fault, untouched⟩
    | none =>
      match select files folder recursive with
      | [] => untouched.tell h [.noTrees folder]
      | first :: rest =>
        match untouched.tell h [.found (rest.length + 1)] with
        | .error stop => .error stop
        | .ok counted =>
          match o.renderAllOn h settings files (first :: rest) with
          | .error stop => .error ⟨stop.fault, stop.before.between counted.notices []⟩
          | .ok report =>
            (report.between counted.notices []).tell h
              [.progress ((first :: rest).getLast (List.cons_ne_nil first rest))]
  | .ok _ => untouched.tell h [.notFolder folder]

end BatchOptions

@[simp] theorem mapError_ok {ε ε' α : Type} (f : ε → ε') (a : α) :
    (Except.ok a : Except ε α).mapError f = .ok a := rfl

@[simp] theorem mapError_error {ε ε' α : Type} (f : ε → ε') (e : ε) :
    (Except.error e : Except ε α).mapError f = .error (f e) := rfl

/-! ## What is told -/

section Tell

variable {h : Host} {notices : List Notice}

/-- Notices that are taken are added to what the report has told. -/
theorem FileReport.tell_of_taken (one : FileReport) (hn : ∀ n ∈ notices, h.refusal? n = none) :
    one.tell h notices = .ok { one with notices := one.notices ++ notices } := by
  rw [tell, h.untold?_eq_none_iff.2 hn]

/-- Notices that are taken come after those of the report. -/
theorem BatchReport.tell_of_taken (report : BatchReport)
    (hn : ∀ n ∈ notices, h.refusal? n = .none) :
    report.tell h notices = .ok (report.between [] notices) := by
  rw [tell, h.untold?_eq_none_iff.2 hn]

@[simp] theorem FileReport.tell_lenient (m : Machine) (one : FileReport) (notices : List Notice) :
    one.tell (.lenient m) notices = .ok { one with notices := one.notices ++ notices } :=
  one.tell_of_taken fun _ _ => rfl

@[simp] theorem BatchReport.tell_lenient (m : Machine) (report : BatchReport)
    (notices : List Notice) : report.tell (.lenient m) notices = .ok (report.between [] notices) :=
  report.tell_of_taken fun _ _ => rfl

/-- Where the notice of a stop is taken, the batch breaks off with its own fault. -/
theorem BatchBreak.tell_of_taken (stop : BatchBreak) {input : FilePath}
    (hn : h.refusal? (.stopped input) = none) :
    stop.tell h input = ⟨stop.fault, stop.before.between [] [.stopped input]⟩ := by
  rw [tell, BatchReport.tell_of_taken _ (List.forall_mem_singleton.2 hn)]

@[simp] theorem BatchBreak.tell_lenient (m : Machine) (stop : BatchBreak) (input : FilePath) :
    stop.tell (.lenient m) input = ⟨stop.fault, stop.before.between [] [.stopped input]⟩ :=
  stop.tell_of_taken rfl

end Tell

namespace BatchOptions

variable {o : BatchOptions} {m : Machine} {h : Host} {settings : Except SettingsFault Settings}
  {files : FileTree}

@[simp] theorem failure?_lenient (m : Machine) (target : FilePath)
    (result : Except RunFault (List Display)) :
    failure? (.lenient m) target result =
      match result with
      | .error fault => some fault
      | .ok _ => none := by
  cases result <;> rfl

/-- A file is rendered on a host as with a lenient console, if the console takes all that such a one
is told. -/
theorem renderOneOn_of_taken {input : FilePath} {output : Option FilePath}
    (hn : ∀ one, o.renderOneOn (.lenient h.toMachine) settings files input output = .ok one →
      ∀ n ∈ one.notices, h.refusal? n = none) :
    o.renderOneOn h settings files input output =
      o.renderOneOn (.lenient h.toMachine) settings files input output := by
  -- With a lenient console the notices of a branch are known once the branch is: then `hn` says
  -- that they are taken, one after the other as they are told.
  unfold renderOneOn at hn ⊢
  simp only [Host.toMachine_lenient, FileReport.tell_lenient, List.nil_append,
    failure?_lenient] at hn ⊢
  cases hlookup : h.lookup files input with
  | error fault => rfl
  | ok e =>
    cases e with
    | none =>
      simp only [hlookup] at hn ⊢
      rw [FileReport.tell_of_taken _ (hn _ rfl)]
      rfl
    | some e =>
      by_cases htree : input.isTreePath = true
      · simp only [hlookup, htree, Bool.not_true, Bool.false_eq_true, if_false] at hn ⊢
        cases htarget : o.target input output with
        | error fault => rfl
        | ok target =>
          simp only [htarget] at hn ⊢
          cases hresult : (o.attemptOn h.toMachine settings files input target).1 with
          | error fault =>
            simp only [hresult] at hn ⊢
            have hall := hn _ rfl
            obtain ⟨hannounced, hfailure⟩ := List.forall_mem_append.1 hall
            rw [FileReport.tell_of_taken _ hannounced]
            simp only [failure?, FileReport.tell_of_taken _ hfailure, List.nil_append]
          | ok tree =>
            simp only [hresult] at hn ⊢
            have hall := hn _ rfl
            obtain ⟨hannounced, hsuccess⟩ := List.forall_mem_append.1 hall
            rw [FileReport.tell_of_taken _ hannounced]
            simp only [failure?, hsuccess _ (List.mem_singleton_self _), Option.map_none,
              List.nil_append]
      · have htree : input.isTreePath = false := by simpa using htree
        simp only [hlookup, htree, Bool.not_false, if_true] at hn ⊢
        rw [FileReport.tell_of_taken _ (hn _ rfl)]
        rfl

/-- What a batch does is what it does with the first file and then with the others. -/
theorem of_renderAllOn_cons {p : FilePath} {one : FileReport}
    (hone : o.renderOneOn h settings files p none = .ok one) (rest : List FilePath) :
    BatchReport.of (o.renderAllOn h settings files (p :: rest)) =
      one.andThen (BatchReport.of (o.renderAllOn h settings one.files rest)) := by
  rw [renderAllOn, hone]
  cases hmore : o.renderAllOn h settings one.files rest <;> simp [hmore]

/-- Files are rendered by rendering the first and then, from the files that this leaves, the
others. -/
theorem renderAllOn_cons_eq_ok_iff {p : FilePath} {rest : List FilePath} {run : BatchReport} :
    o.renderAllOn h settings files (p :: rest) = .ok run ↔
      ∃ one more, o.renderOneOn h settings files p none = .ok one ∧
        o.renderAllOn h settings one.files rest = .ok more ∧ run = one.andThen more := by
  rw [renderAllOn]
  cases hone : o.renderOneOn h settings files p none with
  | error stop => simp
  | ok one =>
    cases hmore : o.renderAllOn h settings one.files rest with
    | error stop => simp [hmore]
    | ok more =>
      simp only [hmore, Except.ok.injEq, exists_and_left, exists_eq_left']
      exact eq_comm

/-- Every file is counted once. -/
theorem counts_renderAllOn {inputs : List FilePath} {report : BatchReport}
    (hrun : o.renderAllOn h settings files inputs = .ok report) :
    report.succeeded + report.failed = inputs.length := by
  induction inputs generalizing files report with
  | nil =>
    obtain rfl := Except.ok.inj hrun
    rfl
  | cons input rest ih =>
    obtain ⟨one, more, -, hmore, rfl⟩ := renderAllOn_cons_eq_ok_iff.1 hrun
    have := ih hmore
    cases hone : one.succeeded <;> simp [FileReport.andThen, hone] <;> omega

/-- Files are rendered on a host as with a lenient console, if the console takes all that such a one
is told. -/
theorem renderAllOn_of_taken {inputs : List FilePath}
    (hn : ∀ n ∈ (BatchReport.of
      (o.renderAllOn (.lenient h.toMachine) settings files inputs)).notices, h.refusal? n = none) :
    o.renderAllOn h settings files inputs =
      o.renderAllOn (.lenient h.toMachine) settings files inputs := by
  induction inputs generalizing files with
  | nil => rfl
  | cons input rest ih =>
    rw [renderAllOn] at hn
    rw [renderAllOn, renderAllOn]
    cases hone : o.renderOneOn (.lenient h.toMachine) settings files input none with
    | error stop =>
      simp only [hone, BatchBreak.tell_lenient, BatchReport.of_error, BatchReport.notices_between,
        List.mem_append] at hn
      rw [renderOneOn_of_taken (by rw [hone]; rintro one ⟨⟩), hone]
      simp only [stop.tell_of_taken (hn _ (.inr (List.mem_singleton_self _))),
        BatchBreak.tell_lenient]
    | ok one =>
      rw [← renderAllOn, of_renderAllOn_cons hone, FileReport.notices_andThen] at hn
      obtain ⟨hfirst, hrest⟩ := List.forall_mem_append.1 hn
      rw [renderOneOn_of_taken (by rw [hone]; rintro _ ⟨⟩; exact hfirst), hone]
      simp only [ih hrest]

/-- A folder is rendered on a host as with a lenient console, if the console takes all that such a
one is told. -/
theorem renderFolderOn_of_taken {folder : FilePath} {recursive : Bool}
    (hn : ∀ n ∈ (BatchReport.of (o.renderFolderOn (.lenient h.toMachine) settings files folder
      recursive)).notices, h.refusal? n = none) :
    o.renderFolderOn h settings files folder recursive =
      o.renderFolderOn (.lenient h.toMachine) settings files folder recursive := by
  unfold renderFolderOn at hn ⊢
  simp only [Host.toMachine_lenient, BatchReport.tell_lenient] at hn ⊢
  cases hlookup : h.lookup files folder with
  | error fault => rfl
  | ok e =>
    rcases e with _ | octets | _
    all_goals simp only [hlookup, BatchReport.of_ok, BatchReport.notices_between] at hn ⊢
    · exact BatchReport.tell_of_taken _ fun n hn' => hn n (List.mem_append_right _ hn')
    · exact BatchReport.tell_of_taken _ fun n hn' => hn n (List.mem_append_right _ hn')
    · cases hlisted : firstFault files (subfolders files folder recursive) with
      | some fault => rfl
      | none =>
        simp only [hlisted] at hn ⊢
        cases hselect : select files folder recursive with
        | nil =>
          simp only [hselect, BatchReport.of_ok, BatchReport.notices_between] at hn ⊢
          exact BatchReport.tell_of_taken _ fun n hn' => hn n (List.mem_append_right _ hn')
        | cons first rest =>
          simp only [hselect] at hn ⊢
          cases hrun : o.renderAllOn (.lenient h.toMachine) settings files (first :: rest) with
          | error stop =>
            simp only [hrun, BatchReport.of_error, BatchReport.notices_between,
              List.forall_mem_append] at hn ⊢
            obtain ⟨⟨⟨-, hfound⟩, hstop⟩, -⟩ := hn
            rw [renderAllOn_of_taken (by rw [hrun]; exact hstop), hrun,
              BatchReport.tell_of_taken _ hfound]
            rfl
          | ok report =>
            simp only [hrun, BatchReport.of_ok, BatchReport.notices_between,
              List.forall_mem_append] at hn ⊢
            obtain ⟨⟨-, ⟨⟨-, hfound⟩, hreport⟩, -⟩, hprogress⟩ := hn
            rw [renderAllOn_of_taken (by rw [hrun]; exact hreport), hrun,
              BatchReport.tell_of_taken _ hfound]
            simp only [BatchReport.tell_of_taken _ hprogress, BatchReport.notices_between]

/-! ## On an ample host -/

/-- On an ample host a file is tried as it is without one. -/
theorem attemptOn_ample (input output : FilePath) :
    o.attemptOn .ample settings files input output = o.attempt settings files input output := by
  unfold attemptOn attempt rendering
  cases settings with
  | error fault => rfl
  | ok settings =>
    cases hr : Rendering.ofOptions o.options settings with
    | error e => simp only [hr, mapError_error]
    | ok r =>
      simp only [hr, mapError_ok, Machine.renderFile_ample]
      rcases r.renderFile files input output with ⟨fault | tree, files'⟩ <;> rfl

theorem attemptRecordsOn_ample (input output : FilePath) :
    o.attemptRecordsOn .ample settings files input output =
      o.attemptRecords settings files input output := by
  unfold attemptRecordsOn attemptRecords rendering
  cases settings with
  | error fault => rfl
  | ok settings =>
    cases hr : Rendering.ofOptions o.options settings with
    | error e => simp only [hr, mapError_error]
    | ok r => simp only [hr, mapError_ok, Machine.fileRecords_ample]

/-- On an ample host a file is rendered as without one. -/
theorem renderOneOn_ample (input : FilePath) (output : Option FilePath) :
    o.renderOneOn .ample settings files input output =
      (o.renderOne settings files input output).mapError fun fault =>
        ⟨fault, .none [] files⟩ := by
  have hlookup : Machine.ample.lookup files input = files.lookup input := rfl
  unfold renderOneOn renderOne
  simp only [Host.ample, Host.toMachine_lenient, FileReport.tell_lenient, failure?_lenient, hlookup,
    attemptOn_ample, attemptRecordsOn_ample, List.nil_append]
  cases files.lookup input with
  | error fault => rfl
  | ok e =>
    cases e with
    | none => rfl
    | some e =>
      cases input.isTreePath with
      | false => rfl
      | true =>
        cases o.target input output with
        | error fault => rfl
        | ok target =>
          dsimp only
          rcases o.attempt settings files input target with ⟨fault | tree, files'⟩ <;> rfl

/-- On an ample host a batch goes through its inputs as it does without one. -/
theorem renderAllOn_ample (inputs : List FilePath) :
    o.renderAllOn .ample settings files inputs = o.renderAll settings files inputs := by
  induction inputs generalizing files with
  | nil => rfl
  | cons input rest ih =>
    rw [renderAllOn, renderAll, renderOneOn_ample]
    cases o.renderOne settings files input none with
    | error fault => rfl
    | ok one =>
      dsimp only [mapError_ok]
      cases hrest : o.renderAll settings one.files rest <;> simp only [ih, hrest]

/-- On an ample host a folder is rendered as without one. -/
theorem renderFolderOn_ample (folder : FilePath) (recursive : Bool) :
    o.renderFolderOn .ample settings files folder recursive =
      o.renderFolder settings files folder recursive := by
  have hlookup : Machine.ample.lookup files folder = files.lookup folder := rfl
  unfold renderFolderOn renderFolder
  simp only [renderAllOn_ample]
  simp only [Host.ample, Host.toMachine_lenient, BatchReport.tell_lenient, hlookup]
  cases files.lookup folder with
  | error fault => rfl
  | ok e =>
    rcases e with _ | octets | _
    · rfl
    · rfl
    · cases firstFault files (subfolders files folder recursive) with
      | some fault => rfl
      | none =>
        cases select files folder recursive with
        | nil => rfl
        | cons first rest =>
          dsimp only
          cases o.renderAll settings files (first :: rest) with
          | error stop => rfl
          | ok report => simp [BatchReport.between, BatchReport.none]

end BatchOptions

end TicketMarkup
