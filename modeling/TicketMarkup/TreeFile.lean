import TicketMarkup.FileTree
import TicketMarkup.Json.Decode
import TicketMarkup.Source.Load
import TicketMarkup.Text.LowerCase
import TicketMarkup.Text.Utf8

/-!
# Tree files

A tree file holds parsed markup as a JSON text in UTF-8. It is known by its suffix, in either case
of letters. Reading one asks, in this order, whether there is anything, whether the suffix is right,
whether the octets are a text, whether the text is more than blanks, and whether it is JSON. The
system lets every file be read, and the JSON may be nested to any depth; a machine on which that is
not so reads a file by `Machine.readTree`.

Main statement: `readTree_eq_ok_iff`, which files hold which data.
-/

namespace TicketMarkup

/-- The suffix of tree files. -/
def treeSuffix : String := ".json"

/-- The suffix of a path in lower case. -/
def FilePath.lowerSuffix (p : FilePath) : String := Text.lower p.suffix

/-- Whether a path is named like a tree file. -/
def FilePath.isTreePath (p : FilePath) : Bool := p.lowerSuffix = treeSuffix

/-- Why the data of a tree file cannot be read. -/
inductive TreeFileFault where
  /-- Nothing lies where the path leads. -/
  | absent
  /-- The path is not named like a tree file. -/
  | unsupported
  | access (fault : AccessFault)
  | notText (fault : Text.Utf8Fault)
  /-- The file holds blanks only. -/
  | blank
  /-- The text is no JSON. -/
  | notJson (text : List Char) (complaint : Json.Complaint) (position : Nat)
  /-- The text has an integer that is not read. -/
  | numeral (fault : NumeralFault)
  /-- There is no stack left for a container that the text opens. -/
  | exhausted (isObject : Bool)
  deriving DecidableEq

/-- The wording of a fault of the file that a path leads to. -/
def TreeFileFault.message (p : FilePath) : TreeFileFault → String
  | absent => "Input file not found: " ++ p.text
  | unsupported =>
    "Unsupported input format: " ++ p.lowerSuffix ++ ". Supported: " ++ treeSuffix
  | access fault => fault.message p
  | notText fault => fault.message
  | blank => "Input file contains no tree"
  | notJson text complaint position =>
    "Invalid JSON in " ++ p.name ++ ": " ++
      (Json.DecodeFault.malformed complaint position).message text
  | numeral fault => fault.message
  | exhausted isObject =>
    exhaustedText ++ " while decoding a JSON " ++ (if isObject then "object" else "array") ++
      " from a unicode string"

/-- The data that a JSON text holds. -/
def treeOfText (s : List Char) : Except TreeFileFault Json :=
  if Text.isAllBlank s then .error .blank
  else
    match Json.decode s with
    | .ok data => .ok data
    | .error (.malformed complaint position) => .error (.notJson s complaint position)
    | .error (.numeral fault) => .error (.numeral fault)

/-- The data that the octets of a tree file hold. Line ends are read as those of a text file. -/
def treeOfOctets (octets : List UInt8) : Except TreeFileFault Json :=
  match Text.decode octets with
  | .error fault => .error (.notText fault)
  | .ok s => treeOfText (Text.unifyLineEnds s)

/-- The data of the tree file that a path leads to. -/
def FileTree.readTree (tree : FileTree) (p : FilePath) : Except TreeFileFault Json :=
  match tree.lookup p with
  | .error fault => .error (.access fault)
  | .ok none => .error .absent
  | .ok (some _) =>
    if !p.isTreePath then .error .unsupported
    else
      match tree.read p with
      | .error fault => .error (.access fault)
      | .ok octets => treeOfOctets octets

/-- Which texts hold which data. -/
theorem treeOfText_eq_ok_iff {s : List Char} {data : Json} :
    treeOfText s = .ok data ↔ Text.isAllBlank s = false ∧ Json.decode s = .ok data := by
  unfold treeOfText
  split
  next h => simp [h]
  next h =>
    have h : Text.isAllBlank s = false := by simpa using h
    split
    next d hd => simp [h, hd]
    next hd => simp [hd]
    next hd => simp [hd]

/-- Which octets hold which data. -/
theorem treeOfOctets_eq_ok_iff {octets : List UInt8} {data : Json} :
    treeOfOctets octets = .ok data ↔
      ∃ s, Text.decode octets = .ok s ∧ treeOfText (Text.unifyLineEnds s) = .ok data := by
  unfold treeOfOctets
  split
  next h => simp [h]
  next s h => simp [h]

theorem lookup_of_read {tree : FileTree} {p : FilePath} {octets : List UInt8}
    (h : tree.read p = .ok octets) : tree.lookup p = .ok (some (.file octets)) := by
  unfold FileTree.read at h
  unfold FileTree.lookup
  split at h
  next => cases h
  next a ha =>
    rw [ha]
    split at h
    next o ho =>
      obtain rfl := Except.ok.inj h
      exact congrArg Except.ok ho
    next => cases h
    next => cases h

/-- A tree file that is read holds what its octets hold. -/
theorem readTree_of_read {tree : FileTree} {p : FilePath} {octets : List UInt8}
    (hpath : p.isTreePath = true) (h : tree.read p = .ok octets) :
    tree.readTree p = treeOfOctets octets := by
  simp [FileTree.readTree, lookup_of_read h, hpath, h]

/-- A path leads to a tree file with some data exactly if it has the suffix and leads to octets
that hold the data. -/
theorem readTree_eq_ok_iff {tree : FileTree} {p : FilePath} {data : Json} :
    tree.readTree p = .ok data ↔
      p.isTreePath = true ∧
        ∃ octets, tree.read p = .ok octets ∧ treeOfOctets octets = .ok data := by
  unfold FileTree.readTree
  split
  next hl =>
    simp only [reduceCtorEq, false_iff, not_and, not_exists]
    intro _ octets ho
    rw [lookup_of_read ho] at hl
    cases hl
  next hl =>
    simp only [reduceCtorEq, false_iff, not_and, not_exists]
    intro _ octets ho
    rw [lookup_of_read ho] at hl
    cases hl
  next =>
    split
    next h => simp_all
    next h =>
      split
      next hr => simp [hr]
      next octets hr => simp_all

end TicketMarkup
