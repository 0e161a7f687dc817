import TicketMarkup.Machine
import TicketMarkup.Proofs.Batch.Steps
import TicketMarkup.Proofs.Json.LongInteger
import TicketMarkup.Proofs.Rendering.Files
import TicketMarkup.Proofs.Source.Stack

/-!
# Which faults of an input are reported

A tree file that cannot be rendered because of what it is, or because of what is in it, is reported
as such a file (`FileFault.isReported`), except in some cases (`Unreported`): its path is too long,
it is a folder, it is no text, it has an integer of too many digits, or an infinite number where an
integer is read, or the machine refuses it or has not the stack for it. Then the fault is that of
the step that met it. In all other cases in which the input cannot be taken the fault is reported
(`renderFile_reports_iff`), on every machine.
-/

namespace TicketMarkup

namespace Rendering

/-- Whether an input can be taken on a machine: it is a file that may be read, its octets are a
text, the text is JSON, its data is a document, and the stack is enough. -/
def TakesInput (m : Machine) (r : Rendering) (files : FileTree) (input : FilePath) : Prop :=
  (∃ e, m.lookup files input = .ok e) ∧
    ∃ octets s data document, m.read files input = .ok octets ∧ Text.decode octets = .ok s ∧
      Json.decode (Text.unifyLineEnds s) = .ok data ∧
      (∀ opening ∈ Json.openings (Text.unifyLineEnds s), m.decodingExhausted opening.1 = false) ∧
      (m.loadDocument r.limit data).outcome = .ok document

/-- Whether an input is refused for a reason that is not reported as one of a tree file. -/
inductive Unreported (m : Machine) (r : Rendering) (files : FileTree) (input : FilePath) :
    Prop where
  /-- The path, or a name on it, is too long. -/
  | longPath (h : files.lookup input = .error .nameTooLong)
  | folder (hpath : input.isTreePath = true) (h : files.lookup input = .ok (some .folder))
  | notText {octets : List UInt8} {fault : Text.Utf8Fault} (hpath : input.isTreePath = true)
    (hoctets : files.read input = .ok octets) (h : Text.decode octets = .error fault)
  /-- The first fault of the text is an integer of too many digits. -/
  | longInteger {text : List Char} {length : Nat} (htext : HoldsText files input text)
    (hlong : Json.HasLongInteger text length)
    (h : Json.decode text = .error (.numeral (.tooLong length)))
  /-- An infinite number is met where an integer is read. -/
  | infiniteNumber {text : List Char} {data v : Json} (htext : HoldsText files input text)
    (hdata : Json.decode text = .ok data) (hnodes : data.documentNodes? = some v)
    (h : MeetsInfinite r.limit 0 v)
  /-- The machine does not tell what the path leads to, does not let the file be read, or has not
  the stack to decode it. -/
  | refused (h : m.Refuses files input)
  /-- The machine has not the stack to load the data. -/
  | exhausted {text : List Char} {data : Json} {call : Call} (htext : HoldsText files input text)
    (hdata : Json.decode text = .ok data) (hcall : call ∈ documentCalls r.limit data)
    (h : m.loadingExhausted data call = true)

variable {m : Machine} {r : Rendering} {files : FileTree} {input output : FilePath}

/-! ## Reading -/

/-- A tree file with a text holds what the text holds. -/
theorem readTree_of_holdsText {text : List Char} (h : HoldsText files input text) :
    files.readTree input = treeOfText text := by
  obtain ⟨octets, s, hoctets, hs, rfl⟩ := h.holds
  rw [readTree_of_read h.isTreePath hoctets]
  simp only [treeOfOctets, hs]

/-- What is found wrong with octets is reported, unless they are no text or have an integer that is
too long. -/
theorem unreported_of_treeOfOctets {octets : List UInt8} {fault : TreeFileFault}
    (hpath : input.isTreePath = true) (hoctets : files.read input = .ok octets)
    (h : treeOfOctets octets = .error fault)
    (hfault : (FileFault.input fault).isReported = false) : Unreported m r files input := by
  unfold treeOfOctets at h
  split at h
  next utf8 hdecode => exact .notText hpath hoctets hdecode
  next s hs =>
    unfold treeOfText at h
    split at h
    next =>
      cases h
      cases hfault
    next hblank =>
      have hblank : Text.isAllBlank (Text.unifyLineEnds s) = false := by simpa using hblank
      split at h
      next => cases h
      next =>
        cases h
        cases hfault
      next hnumeral =>
        obtain ⟨length, hlong, rfl⟩ := Json.exists_figures_of_decode hnumeral
        exact .longInteger ⟨hpath, ⟨octets, s, hoctets, hs, rfl⟩, hblank⟩ hlong hnumeral

/-- A fault of reading that is not reported leaves the file unreported. -/
theorem unreported_of_readTree {fault : TreeFileFault} (h : files.readTree input = .error fault)
    (hfault : (FileFault.input fault).isReported = false) : Unreported m r files input := by
  unfold FileTree.readTree at h
  split at h
  next access hlookup =>
    obtain rfl := FileTree.eq_nameTooLong_of_lookup hlookup
    exact .longPath hlookup
  next =>
    cases h
    cases hfault
  next e hlookup =>
    split at h
    next =>
      cases h
      cases hfault
    next hpath =>
      have hpath : input.isTreePath = true := by simpa using hpath
      cases e with
      | folder => exact .folder hpath hlookup
      | file octets =>
        have hoctets := FileTree.read_of_lookup hlookup
        simp only [hoctets] at h
        exact unreported_of_treeOfOctets hpath hoctets h hfault

/-! ## Rendering -/

/-- The data of a tree file is more than blanks in its text. -/
theorem holdsText_of_readTree {data : Json} (h : files.readTree input = .ok data) :
    ∃ text, HoldsText files input text ∧ Json.decode text = .ok data := by
  obtain ⟨hpath, octets, s, hoctets, hs, hblank, hdata⟩ := readTree_eq_ok_iff_octets.1 h
  exact ⟨_, ⟨hpath, ⟨octets, s, hoctets, hs, rfl⟩, hblank⟩, hdata⟩

/-- A tree file that is read, and whose data is loaded, can be taken. -/
theorem takesInput_of_readTree {data : Json} {document : Document}
    (h : m.readTree files input = .ok data)
    (hload : (m.loadDocument r.limit data).outcome = .ok document) :
    TakesInput m r files input := by
  have hrefuses : ¬m.Refuses files input := fun hrefuses => by
    obtain ⟨fault, hfault, -⟩ := Machine.readTree_of_refuses hrefuses
    cases hfault.symm.trans h
  obtain ⟨hpath, octets, s, hoctets, hs, hblank, hdata⟩ :=
    readTree_eq_ok_iff_octets.1 (Machine.readTree_of_ok h)
  have he := lookup_of_read hoctets
  refine ⟨⟨_, (Machine.lookup_of_not_refuses hrefuses).trans he⟩, octets, s, data, document, ?_, hs,
    hdata, fun opening hopening => ?_, hload⟩
  · exact (Machine.read_of_not_refuses hrefuses hpath he).trans hoctets
  · exact Bool.eq_false_iff.2 fun hexhausted =>
      hrefuses (.decoding ⟨hpath, ⟨octets, s, hoctets, hs, rfl⟩, hblank⟩ hopening hexhausted)

/-- A file that cannot be read fails by the fault of reading. -/
theorem renderFile_of_readTree_error {fault : TreeFileFault}
    (h : m.readTree files input = .error fault) :
    (m.renderFile r files input output).1 = .error (.input fault) := by
  simp only [Machine.renderFile, h]

/-- A file whose data cannot be loaded fails by the failure of loading. -/
theorem renderFile_of_load_error {data : Json} {failure : LoadFailure}
    (hdata : m.readTree files input = .ok data)
    (h : (m.loadDocument r.limit data).outcome = .error failure) :
    (m.renderFile r files input output).1 = .error (.render (.load failure)) := by
  simp only [Machine.renderFile, hdata, Machine.render, h]

/-- An input that cannot be taken is not rendered, and if the fault is not reported, it is one of
the cases. -/
theorem exists_fault_of_not_takesInput (h : ¬TakesInput m r files input) :
    ∃ fault, (m.renderFile r files input output).1 = .error fault ∧
      (fault.isReported = false → Unreported m r files input) := by
  cases hread : m.readTree files input with
  | error fault =>
    refine ⟨.input fault, renderFile_of_readTree_error hread, fun hfault => ?_⟩
    by_cases hrefuses : m.Refuses files input
    · exact .refused hrefuses
    · rw [Machine.readTree_of_not_refuses hrefuses] at hread
      exact unreported_of_readTree hread hfault
  | ok data =>
    cases hload : (m.loadDocument r.limit data).outcome with
    | ok document => exact absurd (takesInput_of_readTree hread hload) h
    | error failure =>
      refine ⟨_, renderFile_of_load_error hread hload, fun hreported => ?_⟩
      obtain ⟨text, htext, hdata⟩ := holdsText_of_readTree (Machine.readTree_of_ok hread)
      by_cases hcalls : ∃ call ∈ documentCalls r.limit data, m.loadingExhausted data call = true
      · obtain ⟨call, hcall, hexhausted⟩ := hcalls
        exact .exhausted htext hdata hcall hexhausted
      · have hforall : ∀ call ∈ documentCalls r.limit data,
            m.loadingExhausted data call = false := by simpa using hcalls
        rw [Machine.loadDocument, loadDocumentOn, Loading.onStack_of_forall hforall] at hload
        cases failure with
        | malformed fault => cases hreported
        | infiniteNumber =>
          obtain ⟨v, hnodes, hmeets⟩ := loadDocument_eq_infinite_iff.1 hload
          exact .infiniteNumber htext hdata hnodes hmeets
        | exhausted => exact absurd hload loadDocument_ne_exhausted

/-- What is read wrongly without a machine is read wrongly on it, and not reported on it if it was
not without. -/
theorem exists_readTree_error {fault : TreeFileFault} (h : files.readTree input = .error fault)
    (hfault : (FileFault.input fault).isReported = false) :
    ∃ fault, m.readTree files input = .error fault ∧
      (FileFault.input fault).isReported = false := by
  by_cases hrefuses : m.Refuses files input
  · exact Machine.readTree_of_refuses hrefuses
  · exact ⟨fault, (Machine.readTree_of_not_refuses hrefuses).trans h, hfault⟩

/-- Data that is not loaded, and is not at fault, is not reported on any machine. -/
theorem exists_fault_of_load_error {text : List Char} {data : Json} {failure : LoadFailure}
    (htext : HoldsText files input text) (hdata : Json.decode text = .ok data)
    (hload : (m.loadDocument r.limit data).outcome = .error failure)
    (hfailure : (FileFault.render (.load failure)).isReported = false) :
    ∃ fault, (m.renderFile r files input output).1 = .error fault ∧ fault.isReported = false := by
  by_cases hrefuses : m.Refuses files input
  · obtain ⟨fault, hfault, hreported⟩ := Machine.readTree_of_refuses hrefuses
    exact ⟨_, renderFile_of_readTree_error hfault, hreported⟩
  · have htree := treeOfText_eq_ok_iff.2 ⟨htext.notBlank, hdata⟩
    have hread := (Machine.readTree_of_not_refuses hrefuses).trans
      ((readTree_of_holdsText htext).trans htree)
    exact ⟨_, renderFile_of_load_error hread hload, hfailure⟩

/-- In these cases the fault is not reported. -/
theorem Unreported.exists_fault (h : Unreported m r files input) :
    ∃ fault, (m.renderFile r files input output).1 = .error fault ∧ fault.isReported = false := by
  have hinput : ∀ {fault : TreeFileFault}, files.readTree input = .error fault →
      (FileFault.input fault).isReported = false →
      ∃ fault, (m.renderFile r files input output).1 = .error fault ∧
        fault.isReported = false := by
    intro fault hread hfault
    obtain ⟨fault', hread', hfault'⟩ := exists_readTree_error (m := m) hread hfault
    exact ⟨_, renderFile_of_readTree_error hread', hfault'⟩
  cases h with
  | longPath h =>
    have hread : files.readTree input = .error (.access .nameTooLong) := by
      simp only [FileTree.readTree, h]
    exact hinput hread rfl
  | folder hpath h =>
    have hread : files.readTree input = .error (.access .isFolder) := by
      simp [FileTree.readTree, h, hpath, FileTree.read_of_lookup h]
    exact hinput hread rfl
  | notText hpath hoctets h =>
    have hread := readTree_of_read hpath hoctets
    simp only [treeOfOctets, h] at hread
    exact hinput hread rfl
  | longInteger htext hlong h =>
    have hread := readTree_of_holdsText htext
    simp only [treeOfText, htext.notBlank, h, Bool.false_eq_true, if_false] at hread
    exact hinput hread rfl
  | @infiniteNumber text data v htext hdata hnodes h =>
    have hload := loadDocument_eq_infinite_iff.2 ⟨_, hnodes, h⟩
    by_cases hcalls : ∃ call ∈ documentCalls r.limit data, m.loadingExhausted data call = true
    · exact exists_fault_of_load_error htext hdata (Loading.outcome_onStack_of_exists hcalls _) rfl
    · have hinfinite : (m.loadDocument r.limit data).outcome = .error .infiniteNumber := by
        rwa [Machine.loadDocument, loadDocumentOn,
          Loading.onStack_of_forall (by simpa using hcalls)]
      exact exists_fault_of_load_error htext hdata hinfinite rfl
  | refused h =>
    obtain ⟨fault, hread, hfault⟩ := Machine.readTree_of_refuses h
    exact ⟨_, renderFile_of_readTree_error hread, hfault⟩
  | exhausted htext hdata hcall h =>
    exact exists_fault_of_load_error htext hdata
      (Loading.outcome_onStack_of_exists ⟨_, hcall, h⟩ _) rfl

/-- An input that cannot be taken is not rendered, whatever the machine and the files and wherever
the output. The fault is reported as one of a tree file, unless the path of the input is too long,
or it is named like a tree file and is a folder, no text, a text with an integer that is too long to
be read, or one with an infinite number where an integer is read, or the machine refuses the file or
has not the stack for it. -/
theorem renderFile_reports_iff (m : Machine) (r : Rendering) (files : FileTree)
    (input output : FilePath) (h : ¬TakesInput m r files input) :
    ∃ fault, (m.renderFile r files input output).1 = .error fault ∧
      (fault.isReported = true ↔ ¬Unreported m r files input) := by
  obtain ⟨fault, hfault, hunreported⟩ := exists_fault_of_not_takesInput h
  refine ⟨fault, hfault, fun hreported hcase => ?_, fun hcase => ?_⟩
  · obtain ⟨fault', hfault', hfalse⟩ := hcase.exists_fault
    cases hfault.symm.trans hfault'
    rw [hreported] at hfalse
    cases hfalse
  · have hnot : ¬fault.isReported = false := fun hfalse => hcase (hunreported hfalse)
    simpa using hnot

/-- The files of a folder with one tree file, which has some octets. -/
def oneFile (octets : List UInt8) : FileTree :=
  (FileTree.empty [] (List.forall_mem_nil _)).insert ["t.json"] (.file octets)

/-- Text output with the settings in force. -/
def plainRendering : Rendering := ⟨.text, Context.defaultBase, .null, defaultDepthLimit⟩

/-- A tree file that is broken off. -/
theorem renderFile_reports_iff_brokenOff :
    ¬TakesInput .ample plainRendering (oneFile [0x5b]) (.ofText "t.json") ∧
      ∃ fault, (Machine.ample.renderFile plainRendering (oneFile [0x5b]) (.ofText "t.json")
        (.ofText "t.md")).1 = .error fault ∧
        (fault.isReported = true ↔
          ¬Unreported .ample plainRendering (oneFile [0x5b]) (.ofText "t.json")) := by
  have h : ¬TakesInput .ample plainRendering (oneFile [0x5b]) (.ofText "t.json") := by
    rintro ⟨-, octets, s, data, document, hoctets, hs, hdata, -⟩
    have hbracket : Text.decode [0x5b] = .ok ['['] := by rfl
    cases hoctets
    cases hbracket.symm.trans hs
    cases hdata
  exact ⟨h, renderFile_reports_iff _ _ _ _ _ h⟩

/-- A tree file of one octet that begins no character. -/
theorem not_isReported_notText :
    ¬TakesInput .ample plainRendering (oneFile [0xff]) (.ofText "t.json") ∧
      ∃ fault, (Machine.ample.renderFile plainRendering (oneFile [0xff]) (.ofText "t.json")
        (.ofText "t.md")).1 = .error fault ∧ fault.isReported = false := by
  refine ⟨?_, .input (.notText (.badStart 0 0xff)), by rfl, rfl⟩
  rintro ⟨-, octets, s, data, document, hoctets, hs, -⟩
  cases hoctets
  cases hs

end Rendering

end TicketMarkup
