import TicketMarkup.Format.Basic
import TicketMarkup.OutputFormat
import TicketMarkup.Settings.Basic
import TicketMarkup.TreeFile

/-!
# Rendering

A rendering is all that turning parsed markup into a written text depends on: the renderer, the
address of the tracker, a ticket that takes precedence over the one a document names, and the
nesting that is accepted. It is made from options and settings, where an option that is not given,
or is empty, leaves the setting in force.

Rendering a tree file writes the text to another file. Nothing is written before the text is
complete. What a machine may add to that, a stack that is used up or a text that cannot be encoded,
is said of the machine (`Machine.renderFile`).

Main statements: `renderFile_of_error` (a failure changes no file) and `renderFile_eq_ok_iff` (what
a success reads, returns and writes).
-/

namespace TicketMarkup

/-- What a user may choose. A ticket that is null is none. -/
structure Options where
  /-- The name of the output format. -/
  format : Option String := none
  /-- The address of the tracker. -/
  base : Option String := none
  /-- The address that user names are appended to. -/
  profiles : Option String := none
  ticket : Json := .null
  /-- The deepest nesting that is accepted. -/
  limit : Option Int := none
  deriving DecidableEq

namespace Options

/-- A text option; one that is not given, or is empty, leaves the setting in force. -/
def textOr (option : Option String) (setting : String) : String :=
  match option with
  | none => setting
  | some s => if s = "" then setting else s

/-- The option on nesting; one that is not given, or is zero, leaves the setting in force. -/
def limitOr (option : Option Int) (setting : Int) : Int :=
  match option with
  | none => setting
  | some n => if n = 0 then setting else n

end Options

/-- How trees are rendered. -/
structure Rendering where
  renderer : Renderer
  /-- The address of the tracker. -/
  base : String
  /-- The ticket that texts belong to, null if the documents say. -/
  ticket : Json
  /-- The deepest nesting that is accepted. -/
  limit : Int
  deriving DecidableEq

/-- Why a tree cannot be rendered. -/
inductive RenderFault where
  | load (failure : LoadFailure)
  /-- The items of a list have numbers that cannot be written. -/
  | numbering (fault : NumeralFault)
  /-- There is no stack left for a tree that was loaded. -/
  | exhausted
  deriving DecidableEq

/-- The wording of a fault. -/
def RenderFault.message : RenderFault → String
  | load failure => failure.message
  | numbering fault => fault.message
  | exhausted => exhaustedText

/-- Why a tree file cannot be rendered to another file. -/
inductive FileFault where
  | input (fault : TreeFileFault)
  | render (fault : RenderFault)
  | output (fault : AccessFault)
  /-- The text cannot be encoded; the encoder says why. -/
  | unencodable (complaint : String)
  deriving DecidableEq

/-- Whether a fault is reported as one of rendering the file. The other faults reach the user as
those of the step that found them. -/
def FileFault.isReported : FileFault → Bool
  | .input .absent => true
  | .input .unsupported => true
  | .input .blank => true
  | .input (.notJson _ _ _) => true
  | .render (.load (.malformed _)) => true
  | _ => false

/-- The wording of a fault on the way from one file to another. -/
def FileFault.message (input output : FilePath) : FileFault → String
  | .input fault => fault.message input
  | .render (.load (.malformed fault)) =>
    "Malformed tree in " ++ input.name ++ ": " ++ fault.message
  | .render fault => fault.message
  | .output fault => fault.message output
  | .unencodable complaint => complaint

/-- What rendering leaves a record of. -/
inductive RenderRecord where
  | load (record : LoadRecord)
  /-- A document was loaded and is to be formatted. -/
  | document (nodes : Nat) (ticket : Json)
  | format (record : FormatRecord)
  /-- A file was written. -/
  | wrote (p : FilePath)

/-- The wording of a record. -/
def RenderRecord.message : RenderRecord → String
  | load record => record.message
  | document nodes ticket =>
    "Formatting " ++ Numeral.text nodes ++ " node(s) with ticket " ++ ticket.text
  | format record => record.message
  | wrote p => "Wrote " ++ p.text

namespace Rendering

/-- The rendering that options and settings ask for. -/
def ofOptions (options : Options) (settings : Settings) : Except UnsupportedFormat Rendering :=
  match OutputFormat.ofName (Options.textOr options.format settings.format) with
  | .error e => .error e
  | .ok format =>
    .ok
      { renderer := .ofFormat (Options.textOr options.profiles settings.profiles) format
        base := Options.textOr options.base settings.base
        ticket := options.ticket
        limit := Options.limitOr options.limit settings.limit }

/-! ## Trees -/

/-- The context of a document. -/
def context (r : Rendering) (document : Document) : Context :=
  ⟨if r.ticket ≠ .null then r.ticket else document.ticket, .str r.base⟩

/-- Parsed markup as a display tree. -/
def display (r : Rendering) (data : Json) : Except LoadFailure (List Display) :=
  match (loadDocument r.limit data).outcome with
  | .error failure => .error failure
  | .ok document => .ok (format (r.context document) document.nodes)

/-- Parsed markup as a written text. -/
def render (r : Rendering) (data : Json) : Except RenderFault String :=
  match r.display data with
  | .error failure => .error (.load failure)
  | .ok tree =>
    match r.renderer.render tree with
    | .error fault => .error (.numbering fault)
    | .ok s => .ok s

/-- The records that turning parsed markup into a display tree leaves. -/
def records (r : Rendering) (data : Json) : List RenderRecord :=
  let loading := loadDocument r.limit data
  loading.records.map .load ++
    match loading.outcome with
    | .error _ => []
    | .ok document =>
      .document document.nodes.length (r.context document).ticket ::
        (nodeRecords document.nodes).map .format

/-! ## Files -/

/-- Renders a tree file to another file: the display tree that was written, and the files
afterwards. -/
def renderFile (r : Rendering) (files : FileTree) (input output : FilePath) :
    Except FileFault (List Display) × FileTree :=
  match files.readTree input with
  | .error fault => (.error (.input fault), files)
  | .ok data =>
    match r.display data with
    | .error failure => (.error (.render (.load failure)), files)
    | .ok tree =>
      match r.renderer.render tree with
      | .error fault => (.error (.render (.numbering fault)), files)
      | .ok s =>
        match files.write output (Text.encode s) with
        | .error fault => (.error (.output fault), files)
        | .ok files' => (.ok tree, files')

/-- The records that rendering a tree file to another file leaves. -/
def fileRecords (r : Rendering) (files : FileTree) (input output : FilePath) : List RenderRecord :=
  match files.readTree input with
  | .error _ => []
  | .ok data =>
    r.records data ++
      match (r.renderFile files input output).1 with
      | .error _ => []
      | .ok _ => [.wrote output]

theorem renderFile_of_error {r : Rendering} {files : FileTree} {input output : FilePath}
    {fault : FileFault} (h : (r.renderFile files input output).1 = .error fault) :
    (r.renderFile files input output).2 = files := by
  cases hi : files.readTree input with
  | error _ => simp only [renderFile, hi]
  | ok data =>
    cases hd : r.display data with
    | error _ => simp only [renderFile, hi, hd]
    | ok tree =>
      cases hr : r.renderer.render tree with
      | error _ => simp only [renderFile, hi, hd, hr]
      | ok s =>
        cases hw : files.write output (Text.encode s) with
        | error _ => simp only [renderFile, hi, hd, hr, hw]
        | ok _ => simp [renderFile, hi, hd, hr, hw] at h

theorem renderFile_eq_ok_iff {r : Rendering} {files files' : FileTree} {input output : FilePath}
    {tree : List Display} :
    r.renderFile files input output = (.ok tree, files') ↔
      ∃ data s, files.readTree input = .ok data ∧ r.display data = .ok tree ∧
        r.renderer.render tree = .ok s ∧ files.write output (Text.encode s) = .ok files' := by
  unfold renderFile
  constructor
  · intro h
    split at h
    next => cases h
    next data hi =>
      split at h
      next => cases h
      next t hd =>
        split at h
        next => cases h
        next s hr =>
          split at h
          next => cases h
          next f hw =>
            obtain ⟨rfl, rfl⟩ : t = tree ∧ f = files' := by simpa using h
            exact ⟨data, s, hi, hd, hr, hw⟩
  · rintro ⟨data, s, hi, hd, hr, hw⟩
    simp only [hi, hd, hr, hw]

end Rendering

end TicketMarkup
