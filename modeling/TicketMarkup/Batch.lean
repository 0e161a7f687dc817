import TicketMarkup.Console

/-!
# Batches

A tree file is rendered next to itself or to a given place, and all tree files of a folder next to
themselves. Files do not depend on each other: one that fails is counted and told of, and the next
one is taken. What an earlier run has rendered is not taken as input.

Settings are read once for a batch; if they are refused every file fails.

A batch breaks off at a path that is too long, or at the first tree file if the format is unknown.
What was rendered before stays.

Main statements: `renderAll_append`, a batch may be cut in two; `counts_renderAll`, every file is
counted once; and `mem_select_iff`, which files of a folder are taken.
-/

namespace TicketMarkup

/-- What is asked of a batch. -/
structure BatchOptions where
  /-- The name of the output format. -/
  format : String
  /-- Whether to tell what is done with each file. -/
  verbose : Bool
  /-- The ticket that the texts belong to, null if the documents say. -/
  ticket : Json
  /-- The address of the tracker. -/
  base : Option String
  deriving DecidableEq

/-- Why a batch breaks off. -/
inductive BatchFault where
  | format (e : UnsupportedFormat)
  /-- A path cannot be followed. -/
  | access (p : FilePath) (fault : AccessFault)
  /-- The console did not take a notice and says why. -/
  | untold (complaint : String)
  deriving DecidableEq

/-- The wording of a fault. -/
def BatchFault.message : BatchFault → String
  | format e => e.message
  | access p fault => fault.message p
  | untold complaint => complaint

/-- What became of one file, what was told and recorded of it, and the files afterwards. -/
structure FileReport where
  succeeded : Bool
  notices : List Notice
  records : List RenderRecord
  files : FileTree

/-- What became of the files of a batch, what was told and recorded of them, and the files
afterwards. -/
structure BatchReport where
  succeeded : Nat
  failed : Nat
  notices : List Notice
  records : List RenderRecord
  files : FileTree

/-- The report of a file and, from the files that it leaves, of others. -/
def FileReport.andThen (one : FileReport) (more : BatchReport) : BatchReport where
  succeeded := (if one.succeeded then 1 else 0) + more.succeeded
  failed := (if one.succeeded then 0 else 1) + more.failed
  notices := one.notices ++ more.notices
  records := one.records ++ more.records
  files := more.files

/-- The report of no files. -/
def BatchReport.none (notices : List Notice) (files : FileTree) : BatchReport :=
  ⟨0, 0, notices, [], files⟩

/-- A report with more told before it and after it. -/
def BatchReport.between (report : BatchReport) (before after : List Notice) : BatchReport :=
  { report with notices := before ++ report.notices ++ after }

/-- A batch that broke off: why, and what had been done. -/
structure BatchBreak where
  fault : BatchFault
  before : BatchReport

/-- What a batch has done, whether or not it broke off. -/
def BatchReport.of : Except BatchBreak BatchReport → BatchReport
  | .ok report => report
  | .error stop => stop.before

@[simp] theorem BatchReport.of_ok (report : BatchReport) : of (.ok report) = report := rfl

@[simp] theorem BatchReport.of_error (stop : BatchBreak) : of (.error stop) = stop.before := rfl

@[simp] theorem BatchReport.files_none (notices : List Notice) (files : FileTree) :
    (BatchReport.none notices files).files = files := rfl

@[simp] theorem BatchReport.notices_none (notices : List Notice) (files : FileTree) :
    (BatchReport.none notices files).notices = notices := rfl

@[simp] theorem BatchReport.files_between (report : BatchReport) (before after : List Notice) :
    (report.between before after).files = report.files := rfl

@[simp] theorem BatchReport.notices_between (report : BatchReport) (before after : List Notice) :
    (report.between before after).notices = before ++ report.notices ++ after := rfl

@[simp] theorem BatchReport.failed_between (report : BatchReport) (before after : List Notice) :
    (report.between before after).failed = report.failed := rfl

@[simp] theorem BatchReport.between_between (report : BatchReport) (a b c d : List Notice) :
    (report.between a b).between c d = report.between (c ++ a) (b ++ d) := by
  simp [between]

@[simp] theorem FileReport.files_andThen (one : FileReport) (more : BatchReport) :
    (one.andThen more).files = more.files := rfl

@[simp] theorem FileReport.notices_andThen (one : FileReport) (more : BatchReport) :
    (one.andThen more).notices = one.notices ++ more.notices := rfl

namespace BatchOptions

variable (o : BatchOptions) (settings : Except SettingsFault Settings)

/-- The options of the rendering of each file. -/
def options : Options := { format := some o.format, base := o.base, ticket := o.ticket }

/-- Where the result of a file goes. -/
def target (input : FilePath) : Option FilePath → Except BatchFault FilePath
  | some output => .ok output
  | none =>
    match OutputFormat.ofName o.format with
    | .error e => .error (.format e)
    | .ok format => .ok (input.rendered format.extension none)

/-- What is told before a file is rendered. -/
def announcement (input output : FilePath) : List Notice :=
  if o.verbose then
    [.processing input, .target output, .format o.format] ++
      if o.ticket = .null then [] else [.ticket o.ticket]
  else []

/-- Renders a file to another. -/
def attempt (files : FileTree) (input output : FilePath) :
    Except RunFault (List Display) × FileTree :=
  match settings with
  | .error fault => (.error (.settings fault), files)
  | .ok settings =>
    match Rendering.ofOptions o.options settings with
    | .error e => (.error (.format e), files)
    | .ok r =>
      match r.renderFile files input output with
      | (.error fault, files') => (.error (.file fault), files')
      | (.ok tree, files') => (.ok tree, files')

/-- The records that rendering a file to another leaves. -/
def attemptRecords (files : FileTree) (input output : FilePath) : List RenderRecord :=
  match settings with
  | .error _ => []
  | .ok settings =>
    match Rendering.ofOptions o.options settings with
    | .error _ => []
    | .ok r => r.fileRecords files input output

/-- Renders a file, to a given place or next to itself. Only in the second case the format has to
be known beforehand. -/
def renderOne (files : FileTree) (input : FilePath) (output : Option FilePath) :
    Except BatchFault FileReport :=
  match files.lookup input with
  | .error fault => .error (.access input fault)
  | .ok none => .ok ⟨false, [.notFound input], [], files⟩
  | .ok (some _) =>
    if !input.isTreePath then .ok ⟨false, [.skipped input], [], files⟩
    else
      match o.target input output with
      | .error fault => .error fault
      | .ok target =>
        let records := o.attemptRecords settings files input target
        match o.attempt settings files input target with
        | (.error fault, files') =>
          .ok ⟨false, o.announcement input target ++ [.failure input target fault], records, files'⟩
        | (.ok _, files') =>
          .ok ⟨true, o.announcement input target ++ [.success target], records, files'⟩

/-! ## Folders -/

/-- Renders files next to themselves, one after the other. -/
def renderAll (files : FileTree) : List FilePath → Except BatchBreak BatchReport
  | [] => .ok (.none [] files)
  | input :: rest =>
    match o.renderOne settings files input none with
    | .error fault => .error ⟨fault, .none [.stopped input] files⟩
    | .ok one =>
      match renderAll one.files rest with
      | .error stop => .error ⟨stop.fault, one.andThen stop.before⟩
      | .ok more => .ok (one.andThen more)

/-- Whether an entry of a folder is taken: by its name, with the suffix in lower case. -/
def isTaken (p : FilePath) : Bool :=
  treeSuffix.toList.isSuffixOf p.name.toList && !p.isRendered

/-- The entries of a folder that are taken, in order. -/
def select (files : FileTree) (folder : FilePath) (recursive : Bool) : List FilePath :=
  ((files.below folder recursive).filter isTaken).mergeSort FilePath.le

/-- The folders in a folder that are listed with it. -/
def subfolders (files : FileTree) (folder : FilePath) (recursive : Bool) : List FilePath :=
  if recursive then files.foldersBelow folder else []

/-- The fault at the first of some paths that cannot be followed. -/
def firstFault (files : FileTree) : List FilePath → Option BatchFault
  | [] => none
  | p :: rest =>
    match files.lookup p with
    | .error fault => some (.access p fault)
    | .ok _ => firstFault files rest

/-- Renders the tree files of a folder, and of the folders in it if that is asked for. All folders
are listed before the first file is rendered. -/
def renderFolder (files : FileTree) (folder : FilePath) (recursive : Bool) :
    Except BatchBreak BatchReport :=
  match files.lookup folder with
  | .error fault => .error ⟨.access folder fault, .none [] files⟩
  | .ok (some .folder) =>
    match firstFault files (subfolders files folder recursive) with
    | some fault => .error ⟨fault, .none [] files⟩
    | none =>
      match select files folder recursive with
      | [] => .ok (.none [.noTrees folder] files)
      | first :: rest =>
        match o.renderAll settings files (first :: rest) with
        | .error stop => .error ⟨stop.fault, stop.before.between [.found (rest.length + 1)] []⟩
        | .ok report =>
          .ok (report.between [.found (rest.length + 1)]
            [.progress ((first :: rest).getLast (List.cons_ne_nil first rest))])
  | .ok _ => .ok (.none [.notFolder folder] files)

/-! ## What a batch does -/

/-- Which files of a folder a batch takes. -/
theorem mem_select_iff {files : FileTree} {folder p : FilePath} {recursive : Bool} :
    p ∈ select files folder recursive ↔ p ∈ files.below folder recursive ∧ isTaken p = true := by
  simp [select, List.mem_mergeSort]

/-- Nothing is at fault exactly if every path can be looked up. -/
theorem firstFault_eq_none_iff {files : FileTree} {paths : List FilePath} :
    firstFault files paths = none ↔ ∀ p ∈ paths, ∃ e, files.lookup p = .ok e := by
  induction paths with
  | nil => simp [firstFault]
  | cons p rest ih =>
    rw [firstFault, List.forall_mem_cons]
    cases hlookup : files.lookup p with
    | error fault => simp
    | ok e => simp [ih]

/-- The fault that is reported is that of one of the paths. -/
theorem exists_of_firstFault {files : FileTree} {paths : List FilePath} {fault : BatchFault}
    (h : firstFault files paths = some fault) :
    ∃ p ∈ paths, ∃ fault, files.lookup p = .error fault := by
  induction paths with
  | nil => cases h
  | cons p rest ih =>
    rw [firstFault] at h
    cases hlookup : files.lookup p with
    | error fault => exact ⟨p, List.mem_cons_self, fault, hlookup⟩
    | ok e =>
      rw [hlookup] at h
      obtain ⟨q, hq, hfault⟩ := ih h
      exact ⟨q, List.mem_cons_of_mem _ hq, hfault⟩

variable {o settings}

/-- Every input is counted once, as rendered or as failed. -/
theorem counts_renderAll {files : FileTree} {inputs : List FilePath} {report : BatchReport}
    (h : o.renderAll settings files inputs = .ok report) :
    report.succeeded + report.failed = inputs.length := by
  induction inputs generalizing files report with
  | nil =>
    obtain rfl := Except.ok.inj h
    rfl
  | cons input rest ih =>
    unfold renderAll at h
    split at h
    next => cases h
    next one _ =>
      split at h
      next => cases h
      next more hm =>
        obtain rfl := Except.ok.inj h
        have := ih hm
        cases hone : one.succeeded <;> simp [FileReport.andThen, hone] <;> omega

/-- A batch may be cut in two: the second half goes on with the files that the first one left. -/
theorem renderAll_append {files : FileTree} {a b : List FilePath} {first second : BatchReport}
    (ha : o.renderAll settings files a = .ok first)
    (hb : o.renderAll settings first.files b = .ok second) :
    o.renderAll settings files (a ++ b) =
      .ok ⟨first.succeeded + second.succeeded, first.failed + second.failed,
        first.notices ++ second.notices, first.records ++ second.records, second.files⟩ := by
  induction a generalizing files first with
  | nil =>
    obtain rfl := Except.ok.inj ha
    simpa [BatchReport.none] using hb
  | cons input rest ih =>
    unfold renderAll at ha
    split at ha
    next => cases ha
    next one h =>
      split at ha
      next => cases ha
      next more hm =>
        obtain rfl := Except.ok.inj ha
        simp [renderAll, h, ih hm hb, FileReport.andThen, Nat.add_assoc]

end BatchOptions

end TicketMarkup
