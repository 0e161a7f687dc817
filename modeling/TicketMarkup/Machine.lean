import TicketMarkup.Json.Halves
import TicketMarkup.Rendering
import TicketMarkup.Source.Calls

/-!
# Machines

What the program takes from the machine that it runs on, besides the files: whether the system tells
what a path leads to and lets a file be read, how much stack there is for reading, loading and
rendering, and what the encoder says of a text with half a character in it. Each is a parameter;
`Machine.ample` refuses nothing and has all the stack. Folders are listed as they are: what the
system keeps to itself is not among the files.

Rendering a tree file on a machine takes the same steps in the same order as without one. What the
machine refuses ends them as a fault of the file, before anything is written; only the encoder comes
after the output was begun, so that an output whose text cannot be encoded is left empty.

Main statements: `readTree_of_not_refuses`, a machine that does not refuse a tree file reads what it
holds; `renderFile_of_ok`, what is rendered on a machine is rendered without one; and
`renderFile_of_error`, a failure changes no file unless the encoder is at fault.
-/

namespace TicketMarkup

/-- Whether a path leads to a tree file with some text: more than blanks. -/
structure HoldsText (files : FileTree) (p : FilePath) (text : List Char) : Prop where
  isTreePath : p.isTreePath = true
  holds : ∃ octets s, files.read p = .ok octets ∧ Text.decode octets = .ok s ∧
    text = Text.unifyLineEnds s
  notBlank : Text.isAllBlank text = false

/-- The text of a tree file if half a surrogate pair stands alone in it. -/
def loneHalfText? (files : FileTree) (p : FilePath) : Option (List Char) :=
  match files.read p with
  | .error _ => none
  | .ok octets =>
    match Text.decode octets with
    | .error _ => none
    | .ok s =>
      let text := Text.unifyLineEnds s
      if Json.hasLoneHalf text then some text else none

/-- What a program takes from the machine that it runs on. -/
structure Machine where
  /-- Why the system does not tell what a path leads to, if it does not. -/
  lookupRefusal? : FilePath → Option AccessFault
  /-- Why the system does not let a file be read, if it does not. -/
  readRefusal? : FilePath → Option AccessFault
  /-- Whether decoding uses up the stack with so many containers open. -/
  decodingExhausted : Nat → Bool
  /-- Whether loading some data uses up the stack with a call. -/
  loadingExhausted : Json → Call → Bool
  /-- If formatting or writing some data uses up the stack, after how many records. -/
  renderingExhausted? : Rendering → Json → Option Nat
  /-- Why the text that is made of a JSON text cannot be encoded, if it cannot. The encoder is asked
  only where half a surrogate pair stands alone in the JSON text. -/
  encodingRefusal? : Rendering → List Char → Option String

namespace Machine

/-- The machine that refuses nothing and has all the stack. -/
def ample : Machine where
  lookupRefusal? _ := none
  readRefusal? _ := none
  decodingExhausted _ := false
  loadingExhausted _ _ := false
  renderingExhausted? _ _ := none
  encodingRefusal? _ _ := none

variable (m : Machine)

/-! ## Reading -/

/-- The data that a JSON text holds. -/
def treeOfText (s : List Char) : Except TreeFileFault Json :=
  if Text.isAllBlank s then .error .blank
  else
    match (Json.openings s).find? fun x => m.decodingExhausted x.1 with
    | some (_, isObject) => .error (.exhausted isObject)
    | none => TicketMarkup.treeOfText s

/-- The data that the octets of a tree file hold. -/
def treeOfOctets (octets : List UInt8) : Except TreeFileFault Json :=
  match Text.decode octets with
  | .error fault => .error (.notText fault)
  | .ok s => m.treeOfText (Text.unifyLineEnds s)

/-- What a path leads to, if the system tells. -/
def lookup (files : FileTree) (p : FilePath) : Except AccessFault (Option Entry) :=
  match m.lookupRefusal? p with
  | some fault => .error fault
  | none => files.lookup p

/-- The octets of the file that a path leads to, if the system lets it be read. -/
def read (files : FileTree) (p : FilePath) : Except AccessFault (List UInt8) :=
  match m.readRefusal? p with
  | some fault => .error fault
  | none => files.read p

/-- The data of the tree file that a path leads to. -/
def readTree (files : FileTree) (p : FilePath) : Except TreeFileFault Json :=
  match m.lookup files p with
  | .error fault => .error (.access fault)
  | .ok none => .error .absent
  | .ok (some _) =>
    if !p.isTreePath then .error .unsupported
    else
      match m.read files p with
      | .error fault => .error (.access fault)
      | .ok octets => m.treeOfOctets octets

/-! ## Rendering -/

/-- Loads a document. -/
def loadDocument (limit : Int) (data : Json) : Loading Document :=
  loadDocumentOn (m.loadingExhausted data) limit data

/-- Parsed markup as a written text, and the display tree that is written. -/
def render (r : Rendering) (data : Json) : Except RenderFault (List Display × String) :=
  match (m.loadDocument r.limit data).outcome with
  | .error failure => .error (.load failure)
  | .ok document =>
    if (m.renderingExhausted? r data).isSome then .error .exhausted
    else
      let tree := format (r.context document) document.nodes
      match r.renderer.render tree with
      | .error fault => .error (.numbering fault)
      | .ok s => .ok (tree, s)

/-- Why the text that is made of the tree file cannot be encoded, if it cannot. -/
def encodingFault? (r : Rendering) (files : FileTree) (p : FilePath) : Option String :=
  (loneHalfText? files p).bind (m.encodingRefusal? r)

/-- Renders a tree file to another file: the display tree that was written, and the files
afterwards. -/
def renderFile (r : Rendering) (files : FileTree) (input output : FilePath) :
    Except FileFault (List Display) × FileTree :=
  match m.readTree files input with
  | .error fault => (.error (.input fault), files)
  | .ok data =>
    match m.render r data with
    | .error fault => (.error (.render fault), files)
    | .ok (tree, s) =>
      let complaint? := m.encodingFault? r files input
      match files.write output (if complaint?.isSome then [] else Text.encode s) with
      | .error fault => (.error (.output fault), files)
      | .ok files' =>
        match complaint? with
        | some complaint => (.error (.unencodable complaint), files')
        | none => (.ok tree, files')

/-- The records that turning parsed markup into a display tree leaves. -/
def records (r : Rendering) (data : Json) : List RenderRecord :=
  let loading := m.loadDocument r.limit data
  loading.records.map .load ++
    match loading.outcome with
    | .error _ => []
    | .ok document =>
      let formatting := .document document.nodes.length (r.context document).ticket ::
        (nodeRecords document.nodes).map .format
      match m.renderingExhausted? r data with
      | some left => formatting.take left
      | none => formatting

/-- The records that rendering a tree file to another file leaves. -/
def fileRecords (r : Rendering) (files : FileTree) (input output : FilePath) :
    List RenderRecord :=
  match m.readTree files input with
  | .error _ => []
  | .ok data =>
    m.records r data ++
      match (m.renderFile r files input output).1 with
      | .error _ => []
      | .ok _ => [.wrote output]

/-! ## What a machine refuses -/

/-- Whether a machine refuses to read what a path leads to. -/
inductive Refuses (files : FileTree) (p : FilePath) : Prop where
  | lookup {fault : AccessFault} (h : m.lookupRefusal? p = some fault)
  | read {fault : AccessFault} (htree : p.isTreePath = true)
    (hlookup : ∃ e, files.lookup p = .ok (some e)) (h : m.readRefusal? p = some fault)
  /-- The stack is used up by the containers that are open in the text. -/
  | decoding {text : List Char} {opening : Nat × Bool} (htext : HoldsText files p text)
    (hopening : opening ∈ Json.openings text) (h : m.decodingExhausted opening.1 = true)

variable {m} {files files' : FileTree} {p : FilePath}

/-- What a machine refuses is not taken for a fault of the tree file. -/
theorem readTree_of_refuses (h : m.Refuses files p) :
    ∃ fault, m.readTree files p = .error fault ∧ (FileFault.input fault).isReported = false := by
  cases hlookup : m.lookupRefusal? p with
  | some fault =>
    exact ⟨.access fault, by simp only [readTree, Machine.lookup, hlookup], rfl⟩
  | none =>
    cases h with
    | lookup h => simp [hlookup] at h
    | @read fault htree hentry h =>
      obtain ⟨e, he⟩ := hentry
      exact ⟨.access fault, by simp [readTree, Machine.lookup, hlookup, he, htree, Machine.read, h],
        rfl⟩
    | decoding htext hopening h =>
      obtain ⟨octets, s, hoctets, hs, rfl⟩ := htext.holds
      have he := lookup_of_read hoctets
      cases hread : m.readRefusal? p with
      | some fault =>
        refine ⟨.access fault, ?_, rfl⟩
        simp [readTree, Machine.lookup, hlookup, he, htext.isTreePath, Machine.read, hread]
      | none =>
        cases hfind : (Json.openings (Text.unifyLineEnds s)).find? fun x =>
          m.decodingExhausted x.1 with
        | none => exact absurd h (List.find?_eq_none.1 hfind _ hopening)
        | some found =>
          refine ⟨.exhausted found.2, ?_, rfl⟩
          simp [readTree, Machine.lookup, hlookup, he, htext.isTreePath, Machine.read, hread,
            hoctets, treeOfOctets, hs, treeOfText, htext.notBlank, hfind]

/-- A text whose openings leave stack is read as it is without a bound. -/
theorem treeOfText_of_forall {s : List Char}
    (h : Text.isAllBlank s = false →
      ∀ opening ∈ Json.openings s, m.decodingExhausted opening.1 = false) :
    m.treeOfText s = TicketMarkup.treeOfText s := by
  unfold treeOfText
  split
  next hblank => simp [TicketMarkup.treeOfText, hblank]
  next hblank =>
    have hforall := h (by simpa using hblank)
    have hfind : ((Json.openings s).find? fun x => m.decodingExhausted x.1) = none :=
      List.find?_eq_none.2 fun opening hopening => by simp [hforall opening hopening]
    simp only [hfind]

/-- A machine that does not refuse a file tells what its path leads to. -/
theorem lookup_of_not_refuses (h : ¬m.Refuses files p) : m.lookup files p = files.lookup p := by
  have hlookup : m.lookupRefusal? p = none :=
    Option.eq_none_iff_forall_ne_some.2 fun fault hfault => h (.lookup hfault)
  simp only [Machine.lookup, hlookup]

/-- A machine that does not refuse a tree file reads it. -/
theorem read_of_not_refuses (h : ¬m.Refuses files p) (htree : p.isTreePath = true) {e : Entry}
    (he : files.lookup p = .ok (some e)) : m.read files p = files.read p := by
  have hread : m.readRefusal? p = none :=
    Option.eq_none_iff_forall_ne_some.2 fun fault hfault => h (.read htree ⟨e, he⟩ hfault)
  simp only [Machine.read, hread]

/-- A machine that does not refuse a tree file reads what the file holds. -/
theorem readTree_of_not_refuses (h : ¬m.Refuses files p) :
    m.readTree files p = files.readTree p := by
  unfold readTree FileTree.readTree
  rw [lookup_of_not_refuses h]
  cases he : files.lookup p with
  | error fault => rfl
  | ok e =>
    cases e with
    | none => rfl
    | some e =>
      by_cases htree : p.isTreePath = true
      · simp only [htree, read_of_not_refuses h htree he, Bool.not_true, Bool.false_eq_true,
          if_false]
        cases hoctets : files.read p with
        | error fault => rfl
        | ok octets =>
          dsimp only [treeOfOctets, TicketMarkup.treeOfOctets]
          cases hs : Text.decode octets with
          | error fault => rfl
          | ok s =>
            refine treeOfText_of_forall fun hblank opening hopening => ?_
            refine Bool.eq_false_iff.2 fun hexhausted => h ?_
            exact .decoding ⟨htree, ⟨octets, s, hoctets, hs, rfl⟩, hblank⟩ hopening hexhausted
      · simp [htree]

/-- A machine reads a tree file only as it is. -/
theorem readTree_of_ok {data : Json} (h : m.readTree files p = .ok data) :
    files.readTree p = .ok data := by
  by_cases hrefuses : m.Refuses files p
  · obtain ⟨fault, hfault, -⟩ := readTree_of_refuses hrefuses
    cases hfault.symm.trans h
  · rwa [readTree_of_not_refuses hrefuses] at h

/-! ## What is rendered on a machine -/

variable {r : Rendering} {data : Json} {tree : List Display} {s : String} {input output : FilePath}

/-- What is rendered on a machine is the text of the data. -/
theorem display_of_render (h : m.render r data = .ok (tree, s)) :
    r.display data = .ok tree ∧ r.renderer.render tree = .ok s := by
  unfold render at h
  split at h
  next => cases h
  next document hload =>
    have hload : (TicketMarkup.loadDocument r.limit data).outcome = .ok document :=
      Loading.outcome_of_onStack_ok hload
    dsimp only at h
    split at h
    next => cases h
    next =>
      split at h
      next => cases h
      next hs =>
        cases h
        exact ⟨by rw [Rendering.display, hload], hs⟩

/-- A file is rendered on a machine exactly if each step from reading to writing succeeds on it. -/
theorem renderFile_eq_ok_iff :
    m.renderFile r files input output = (.ok tree, files') ↔
      ∃ data s, m.readTree files input = .ok data ∧ m.render r data = .ok (tree, s) ∧
        m.encodingFault? r files input = none ∧
        files.write output (Text.encode s) = .ok files' := by
  unfold renderFile
  constructor
  · intro h
    split at h
    next => cases h
    next data hdata =>
      split at h
      next => cases h
      next t s hs =>
        cases hcomplaint : m.encodingFault? r files input with
        | none =>
          simp only [hcomplaint, Option.isSome_none, Bool.false_eq_true, if_false] at h
          split at h
          next => cases h
          next f hwrite =>
            cases h
            exact ⟨data, s, hdata, hs, rfl, hwrite⟩
        | some complaint =>
          simp only [hcomplaint] at h
          split at h
          next => cases h
          next => cases h
  · rintro ⟨data, s, hdata, hs, hcomplaint, hwrite⟩
    simp [hdata, hs, hcomplaint, hwrite]

/-- What is rendered on a machine is rendered without one. -/
theorem renderFile_of_ok (h : m.renderFile r files input output = (.ok tree, files')) :
    r.renderFile files input output = (.ok tree, files') := by
  obtain ⟨data, s, hdata, hs, -, hwrite⟩ := renderFile_eq_ok_iff.1 h
  obtain ⟨htree, hs⟩ := display_of_render hs
  exact Rendering.renderFile_eq_ok_iff.2 ⟨data, s, readTree_of_ok hdata, htree, hs, hwrite⟩

/-- A failure changes no file, unless the encoder is at fault. -/
theorem renderFile_of_error {fault : FileFault}
    (h : (m.renderFile r files input output).1 = .error fault)
    (hencoder : m.encodingFault? r files input = none) :
    (m.renderFile r files input output).2 = files := by
  cases hdata : m.readTree files input with
  | error _ => simp only [renderFile, hdata]
  | ok data =>
    cases hs : m.render r data with
    | error _ => simp only [renderFile, hdata, hs]
    | ok rendered =>
      obtain ⟨tree, s⟩ := rendered
      cases hwrite : files.write output (Text.encode s) with
      | error _ => simp [renderFile, hdata, hs, hencoder, hwrite]
      | ok _ => simp [renderFile, hdata, hs, hencoder, hwrite] at h

/-- The ample machine refuses no file. -/
theorem not_refuses_ample : ¬ample.Refuses files p := by
  rintro (h | ⟨-, -, h⟩ | ⟨-, -, h⟩)
  · cases h
  · cases h
  · cases h

theorem loadDocument_ample (limit : Int) (data : Json) :
    ample.loadDocument limit data = TicketMarkup.loadDocument limit data :=
  Loading.onStack_of_forall (fun _ _ => rfl) _

theorem encodingFault?_ample : ample.encodingFault? r files p = none := by
  rw [encodingFault?]
  cases loneHalfText? files p <;> rfl

/-- A text of whole characters can be encoded. -/
theorem encodingFault?_of_loneHalfText? (h : loneHalfText? files p = none) :
    m.encodingFault? r files p = none := by
  rw [encodingFault?, h, Option.bind_none]

/-- On an ample machine a file is rendered as without one. -/
theorem renderFile_ample (r : Rendering) (files : FileTree) (input output : FilePath) :
    ample.renderFile r files input output = r.renderFile files input output := by
  unfold renderFile Rendering.renderFile
  rw [readTree_of_not_refuses not_refuses_ample]
  cases files.readTree input with
  | error fault => rfl
  | ok data =>
    dsimp only [render, Rendering.display]
    rw [loadDocument_ample]
    cases (TicketMarkup.loadDocument r.limit data).outcome with
    | error failure => rfl
    | ok document =>
      have hstack : ample.renderingExhausted? r data = none := rfl
      simp only [hstack, Option.isSome_none, Bool.false_eq_true, if_false]
      cases r.renderer.render (format (r.context document) document.nodes) with
      | error fault => rfl
      | ok s =>
        cases hwrite : files.write output (Text.encode s) <;> simp [encodingFault?_ample, hwrite]

theorem fileRecords_ample (r : Rendering) (files : FileTree) (input output : FilePath) :
    ample.fileRecords r files input output = r.fileRecords files input output := by
  unfold fileRecords Rendering.fileRecords
  rw [readTree_of_not_refuses not_refuses_ample, renderFile_ample]
  cases files.readTree input with
  | error fault => rfl
  | ok data =>
    dsimp only [records, Rendering.records]
    rw [loadDocument_ample]
    rfl

end Machine

end TicketMarkup
