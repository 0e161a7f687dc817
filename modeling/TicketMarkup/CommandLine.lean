import TicketMarkup.Batch.Hosted

/-!
# Command line

The command takes the path of a tree file or of a folder, and options. What it does with them, on a
host and with the settings that were read, is a run (`Command.execute`): it ends with exit status
zero if all that was asked for was rendered and one if not, also where it breaks off.

How arguments make a command and how settings are read is not the program's own. Here it is given as
far as the program relies on it. Options and the path may stand in any order; of an option that is
given twice the last value counts. A long option has its value after an equals sign or as the next
argument, a short one as the next argument or as the rest of its own, and short options may be
written together. Two dashes end the options. Arguments that cannot be used end a run with status
two. Asking for the version comes before everything but arguments that cannot be told apart.

Main statements: `execute_of_taken`, a console that takes all that is told makes no difference;
`run_of_usage_fault`, arguments that cannot be used change no file; and `parse_positional`, an
argument that is no option may stand anywhere.
-/

namespace TicketMarkup

namespace CommandLine

/-! ## Arguments -/

/-- The options of the command. -/
inductive OptionName where
  | output
  | format
  | ticket
  | base
  | verbose
  | version
  | help
  deriving DecidableEq, Repr

namespace OptionName

/-- The option with a long name. -/
def ofLong : String → Option OptionName
  | "--output" => some output
  | "--format" => some format
  | "--ticket" => some ticket
  | "--trac-url" => some base
  | "--verbose" => some verbose
  | "--version" => some version
  | "--help" => some help
  | _ => none

/-- The option with a short name. -/
def ofShort : Char → Option OptionName
  | 'o' => some output
  | 'f' => some format
  | 't' => some ticket
  | 'v' => some verbose
  | 'V' => some version
  | _ => none

/-- Whether an option has a value. -/
def hasValue : OptionName → Bool
  | output => true
  | format => true
  | ticket => true
  | base => true
  | _ => false

end OptionName

/-- Why arguments cannot be used. -/
inductive UsageFault where
  | unknownOption
  | missingValue (name : OptionName)
  | unexpectedValue (name : OptionName)
  | missingPath
  /-- Nothing lies where the path leads. -/
  | noSuchPath
  /-- The ticket is no positive integer. -/
  | badTicket
  | extraArgument
  deriving DecidableEq, Repr

/-- Options with their values, and the arguments that are no options. -/
structure Arguments where
  options : List (OptionName × String)
  positionals : List String
  deriving DecidableEq

/-- What one argument says: options with their values, and an option whose value is the next
argument. -/
structure Words where
  options : List (OptionName × String)
  open? : Option OptionName

/-- The options of an argument that joins short ones. -/
def shortOptions : List Char → Except UsageFault Words
  | [] => .ok ⟨[], none⟩
  | c :: rest =>
    match OptionName.ofShort c with
    | none => .error .unknownOption
    | some name =>
      if name.hasValue then
        .ok (if rest = [] then ⟨[], some name⟩ else ⟨[(name, String.ofList rest)], none⟩)
      else
        match shortOptions rest with
        | .error fault => .error fault
        | .ok words => .ok { words with options := (name, "") :: words.options }

/-- The options of an argument that starts with a dash. -/
def optionWords (arg : List Char) : Except UsageFault Words :=
  let name := arg.takeWhile (· ≠ '=')
  let value? := (arg.dropWhile (· ≠ '=')).tail?
  match OptionName.ofLong (String.ofList name) with
  | some option =>
    match option.hasValue, value? with
    | true, some value => .ok ⟨[(option, String.ofList value)], none⟩
    | true, none => .ok ⟨[], some option⟩
    | false, some _ => .error (.unexpectedValue option)
    | false, none => .ok ⟨[(option, "")], none⟩
  | none =>
    match arg with
    | '-' :: '-' :: _ => .error .unknownOption
    | _ => shortOptions arg.tail

/-- Whether an argument is an option: it starts with a dash and is more than that. -/
def isOption (arg : String) : Bool :=
  match arg.toList with
  | '-' :: _ :: _ => true
  | _ => false

/-- Puts options in front of arguments. -/
def Arguments.withOptions (options : List (OptionName × String)) (a : Arguments) : Arguments :=
  { a with options := options ++ a.options }

/-- Tells options and other arguments apart. -/
def parse : List String → Except UsageFault Arguments
  | [] => .ok ⟨[], []⟩
  | arg :: rest =>
    if arg = "--" then .ok ⟨[], rest⟩
    else if isOption arg then
      match optionWords arg.toList with
      | .error fault => .error fault
      | .ok ⟨options, none⟩ => (parse rest).map (Arguments.withOptions options)
      | .ok ⟨options, some name⟩ =>
        match rest with
        | [] => .error (.missingValue name)
        | value :: rest => (parse rest).map (Arguments.withOptions (options ++ [(name, value)]))
    else (parse rest).map fun a => { a with positionals := arg :: a.positionals }

/-- The last value of an option. -/
def Arguments.value? (a : Arguments) (name : OptionName) : Option String :=
  (a.options.reverse.find? fun x => x.1 = name).map Prod.snd

/-! ## Commands -/

/-- What is asked for. -/
structure Command where
  path : FilePath
  output : Option FilePath
  format : Option String
  /-- The ticket, null if none is given. -/
  ticket : Json
  base : Option String
  verbose : Bool
  deriving DecidableEq

/-- The ticket that an option names: a positive whole number. -/
def ticketOf : Option String → Except UsageFault Json
  | none => .ok .null
  | some s =>
    match Numeral.readWhole s with
    | some n => if 0 < n then .ok (.int n) else .error .badTicket
    | none => .error .badTicket

/-- The command that arguments give for the files there are. -/
def commandOf (files : FileTree) (a : Arguments) : Except UsageFault Command :=
  match a.positionals with
  | [] => .error .missingPath
  | path :: more =>
    if files.find? (FilePath.ofText path) = none then .error .noSuchPath
    else
      match ticketOf (a.value? .ticket) with
      | .error fault => .error fault
      | .ok ticket =>
        if more ≠ [] then .error .extraArgument
        else
          .ok
            { path := FilePath.ofText path
              output := (a.value? .output).map FilePath.ofText
              format := a.value? .format
              ticket := ticket
              base := a.value? .base
              verbose := (a.value? .verbose).isSome }

/-! ## Runs -/

/-- Why a run ends: by its exit status, or because it breaks off. -/
inductive Ending where
  | status (code : Nat)
  | usage (fault : UsageFault)
  | settings (fault : SettingsFault)
  | batch (fault : BatchFault)
  deriving DecidableEq

/-- The exit status of an ending. -/
def Ending.code : Ending → Nat
  | status code => code
  | usage _ => 2
  | settings _ => 1
  | batch _ => 1

/-- A finished run: how it ended, what it told its user and recorded, and the files afterwards. -/
structure Run where
  ending : Ending
  notices : List Notice
  records : List RenderRecord
  files : FileTree

/-- The exit status of a report. -/
def statusOf (complete : Bool) : Ending := .status (if complete then 0 else 1)

/-- The run that a batch makes, with status zero if it meets a condition. -/
def Run.ofBatch (isDone : BatchReport → Bool) (batch : Except BatchBreak BatchReport) : Run where
  ending :=
    match batch with
    | .error stop => .batch stop.fault
    | .ok report => statusOf (isDone report)
  notices := (BatchReport.of batch).notices
  records := (BatchReport.of batch).records
  files := (BatchReport.of batch).files

namespace Command

variable (c : Command) (h : Host) (settings : Except SettingsFault Settings)

/-- The format that a command asks for, with the settings there are. -/
def format? (settings : Settings) : Except UnsupportedFormat OutputFormat :=
  OutputFormat.ofName (Options.textOr c.format settings.format)

/-- What a command asks of a batch, in a format. -/
def options (format : OutputFormat) : BatchOptions :=
  { format := format.name, verbose := c.verbose, ticket := c.ticket, base := c.base }

/-- Renders a single file, as a batch. -/
def renderFile (o : BatchOptions) (files : FileTree) : Except BatchBreak BatchReport :=
  (o.renderOneOn h settings files c.path c.output).map fun one =>
    one.andThen (.none [] one.files)

/-- Renders a folder. -/
def renderFolder (o : BatchOptions) (files : FileTree) : Except BatchBreak BatchReport :=
  match (BatchReport.none [] files).tell h (if c.output.isSome then [.outputIgnored] else []) with
  | .error stop => .error stop
  | .ok warned =>
    match o.renderFolderOn h settings files c.path true with
    | .error stop => .error ⟨stop.fault, stop.before.between warned.notices []⟩
    | .ok report =>
      (report.between warned.notices []).tell h [.complete report.succeeded report.failed]

/-- Renders what a command asks for. -/
def execute (files : FileTree) : Run :=
  match settings with
  | .error fault => ⟨.settings fault, [], [], files⟩
  | .ok s =>
    match c.format? s with
    | .error e =>
      .ofBatch (fun _ => false) ((BatchReport.none [] files).tell h [.unsupportedFormat e])
    | .ok format =>
      match h.lookup files c.path with
      | .error fault => ⟨.batch (.access c.path fault), [], [], files⟩
      | .ok (some (.file _)) =>
        .ofBatch (·.failed = 0) (c.renderFile h settings (c.options format) files)
      | .ok _ => .ofBatch (·.failed = 0) (c.renderFolder h settings (c.options format) files)

end Command

/-- Runs the command with arguments. -/
def run (h : Host) (environment : Assignments) (files : FileTree) (args : List String) : Run :=
  match parse args with
  | .error fault => ⟨.usage fault, [], [], files⟩
  | .ok a =>
    match (a.options.map Prod.fst).find? fun name => name = .version || name = .help with
    | some .version => ⟨statusOf true, [.version], [], files⟩
    | some _ => ⟨statusOf true, [.usage], [], files⟩
    | none =>
      match commandOf files a with
      | .error fault => ⟨.usage fault, [], [], files⟩
      | .ok command =>
        command.execute h (Settings.read environment files Settings.defaultFile) files

/-! ## What a run does -/

@[simp] theorem Run.notices_ofBatch (isDone : BatchReport → Bool)
    (batch : Except BatchBreak BatchReport) :
    (ofBatch isDone batch).notices = (BatchReport.of batch).notices := rfl

@[simp] theorem Run.files_ofBatch (isDone : BatchReport → Bool)
    (batch : Except BatchBreak BatchReport) :
    (ofBatch isDone batch).files = (BatchReport.of batch).files := rfl

namespace Command

variable {c : Command} {h : Host} {settings : Except SettingsFault Settings} {o : BatchOptions}
  {files : FileTree}

/-- A file is rendered alike on every console that takes what is told of it. -/
theorem renderFile_of_taken
    (hn : ∀ n ∈ (BatchReport.of (c.renderFile (.lenient h.toMachine) settings o files)).notices,
      h.refusal? n = none) :
    c.renderFile h settings o files = c.renderFile (.lenient h.toMachine) settings o files := by
  unfold renderFile at hn ⊢
  rw [BatchOptions.renderOneOn_of_taken]
  intro one hone n hmem
  refine hn n ?_
  rw [hone]
  exact List.mem_append_left _ hmem

theorem renderFolder_of_taken
    (hn : ∀ n ∈ (BatchReport.of (c.renderFolder (.lenient h.toMachine) settings o files)).notices,
      h.refusal? n = none) :
    c.renderFolder h settings o files = c.renderFolder (.lenient h.toMachine) settings o files := by
  unfold renderFolder at hn ⊢
  simp only [BatchReport.tell_lenient] at hn ⊢
  cases hrun : o.renderFolderOn (.lenient h.toMachine) settings files c.path true with
  | error stop =>
    simp only [hrun, BatchReport.of_error, BatchReport.notices_between,
      List.forall_mem_append] at hn ⊢
    obtain ⟨⟨⟨-, hwarning⟩, hstop⟩, -⟩ := hn
    rw [BatchOptions.renderFolderOn_of_taken (by rw [hrun]; exact hstop), hrun,
      BatchReport.tell_of_taken _ hwarning]
    rfl
  | ok report =>
    simp only [hrun, BatchReport.of_ok, BatchReport.notices_between,
      List.forall_mem_append] at hn ⊢
    obtain ⟨⟨-, ⟨⟨-, hwarning⟩, hreport⟩, -⟩, hcomplete⟩ := hn
    rw [BatchOptions.renderFolderOn_of_taken (by rw [hrun]; exact hreport), hrun,
      BatchReport.tell_of_taken _ hwarning]
    simp only [BatchReport.tell_of_taken _ hcomplete, BatchReport.notices_between]

/-- A command is run on a host as with a lenient console, if the console takes all that such a one
is told. -/
theorem execute_of_taken
    (hn : ∀ n ∈ (c.execute (.lenient h.toMachine) settings files).notices, h.refusal? n = none) :
    c.execute h settings files = c.execute (.lenient h.toMachine) settings files := by
  unfold execute at hn ⊢
  cases settings with
  | error fault => rfl
  | ok s =>
    cases hformat : c.format? s with
    | error e =>
      simp only [hformat, BatchReport.tell_lenient, Run.notices_ofBatch] at hn ⊢
      rw [BatchReport.tell_of_taken _ fun n hmem => hn n (List.mem_append_right _ hmem)]
    | ok format =>
      simp only [hformat, Host.toMachine_lenient] at hn ⊢
      cases hlookup : h.lookup files c.path with
      | error fault => rfl
      | ok e =>
        rcases e with _ | octets | _
        all_goals simp only [hlookup, Run.notices_ofBatch] at hn ⊢
        · rw [renderFolder_of_taken hn]
        · rw [renderFile_of_taken hn]
        · rw [renderFolder_of_taken hn]

end Command

/-- Arguments that cannot be used change no file. -/
theorem run_of_usage_fault (h : Host) {environment : Assignments} {files : FileTree}
    {args : List String} {fault : UsageFault} (hparse : parse args = .error fault) :
    run h environment files args = ⟨.usage fault, [], [], files⟩ := by
  simp [run, hparse]

/-- An argument that is no option is kept, and the others are parsed without it. -/
theorem parse_positional {arg : String} {rest : List String} (h : isOption arg = false) :
    parse (arg :: rest) =
      (parse rest).map fun a => { a with positionals := arg :: a.positionals } := by
  have : arg ≠ "--" := by
    rintro rfl
    exact absurd h (by decide +kernel)
  simp [parse, this, h]

example : (parse ["a", "-vt3", "--format=text", "-o", "-x", "--", "-b"]).toOption =
    some ⟨[(.verbose, ""), (.ticket, "3"), (.format, "text"), (.output, "-x")], ["a", "-b"]⟩ := by
  decide +kernel

end CommandLine

end TicketMarkup
