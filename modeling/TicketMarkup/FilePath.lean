import TicketMarkup.Text.Lines
import TicketMarkup.Text.Basic

/-!
# File paths

A path is where it starts and the names on the way from there. Slashes that separate nothing and
the name of the folder itself (a single dot) do not belong to a path; the name of the folder above
(two dots) does, because what it means depends on the files.

The last name of a path splits into a stem and a suffix. The result of rendering a file lies in a
file named after its stem (`rendered`).

Main statements: `stem_append_suffix`, a name is its stem and its suffix, and `parts_join`, the
names of a path below a folder are those of the folder and its own.
-/

namespace TicketMarkup

/-- Where a path starts: at the working folder, or at one of the two roots. -/
inductive PathStart where
  | working
  | root
  /-- Two slashes, which are kept apart from the root. -/
  | doubleRoot
  deriving DecidableEq, Repr

/-- A name on a path: not empty, not the folder itself, and without slashes. -/
def IsPathName (s : String) : Prop := s ≠ "" ∧ s ≠ "." ∧ '/' ∉ s.toList

instance (s : String) : Decidable (IsPathName s) := inferInstanceAs (Decidable (_ ∧ _))

/-- A path to a file or a folder. -/
@[ext] structure FilePath where
  start : PathStart
  /-- The names on the way, the first one first. -/
  parts : List String
  isPathName : ∀ s ∈ parts, IsPathName s
  deriving DecidableEq

namespace FilePath

/-- The start that leading slashes stand for. -/
def startOfSlashes : Nat → PathStart
  | 0 => .working
  | 2 => .doubleRoot
  | _ => .root

/-- The names between the slashes of a text. -/
def partsOf (s : List Char) : List String :=
  ((Text.split '/' s).map String.ofList).filter fun name => name ≠ "" && name ≠ "."

/-- The parts of a path are never empty, never a dot, and have no slash. -/
theorem isPathName_of_mem_partsOf {s : List Char} {name : String} (h : name ∈ partsOf s) :
    IsPathName name := by
  simp only [partsOf, List.mem_filter, List.mem_map, Bool.and_eq_true, decide_eq_true_eq] at h
  obtain ⟨⟨l, hl, rfl⟩, h₁, h₂⟩ := h
  exact ⟨h₁, h₂, by simpa using Text.notMem_of_mem_split hl⟩

/-- The path that a text stands for. -/
def ofText (s : String) : FilePath :=
  ⟨startOfSlashes (s.toList.takeWhile (· = '/')).length, partsOf s.toList,
    fun _ => isPathName_of_mem_partsOf⟩

/-- The text of a path; without any name it is a dot or the root. -/
def text (p : FilePath) : String :=
  let names := Text.join ['/'] (p.parts.map String.toList)
  match p.start with
  | .working => if p.parts = [] then "." else String.ofList names
  | .root => String.ofList ('/' :: names)
  | .doubleRoot => String.ofList ('/' :: '/' :: names)

/-- The last name, empty if the path has none. -/
def name (p : FilePath) : String := p.parts.getLast?.getD ""

/-- The path without its last name. -/
def parent (p : FilePath) : FilePath :=
  ⟨p.start, p.parts.dropLast, fun s h => p.isPathName s (p.parts.dropLast_subset h)⟩

/-- The path that further names lead to. -/
def append (p : FilePath) (names : List String) (h : ∀ s ∈ names, IsPathName s) : FilePath :=
  ⟨p.start, p.parts ++ names, fun s hs => (List.mem_append.1 hs).elim (p.isPathName s) (h s)⟩

/-- A path as seen from a folder. -/
def join (folder p : FilePath) : FilePath :=
  match p.start with
  | .working => folder.append p.parts p.isPathName
  | _ => p

theorem parts_join {folder p : FilePath} (h : p.start = .working) :
    (folder.join p).parts = folder.parts ++ p.parts := by
  simp [join, append, h]

/-- Order by the names, compared one by one. -/
def le (p q : FilePath) : Bool := Text.listLe Text.le p.parts q.parts

/-! ## Stem and suffix -/

/-- A name split at its last dot. A dot that begins or ends the name does not count. -/
def splitName (s : List Char) : List Char × List Char :=
  let suffix := (s.reverse.takeWhile (· ≠ '.')).reverse
  match s.reverse.dropWhile (· ≠ '.') with
  | [] => (s, [])
  | _ :: stem => if stem = [] || suffix = [] then (s, []) else (stem.reverse, '.' :: suffix)

/-- A name is cut in two, and nothing is lost. -/
theorem fst_append_snd_splitName (s : List Char) : (splitName s).1 ++ (splitName s).2 = s := by
  unfold splitName
  split
  next => simp
  next c stem h =>
    dsimp only
    split
    next => simp
    next =>
      have hc : c = '.' := by
        have := List.head?_dropWhile_not (fun c => decide (c ≠ '.')) s.reverse
        rw [h] at this
        simpa using this
      have hs := List.takeWhile_append_dropWhile (p := fun c => decide (c ≠ '.')) (l := s.reverse)
      rw [h, hc] at hs
      simpa using congrArg List.reverse hs

/-- The last name up to its suffix. -/
def stem (p : FilePath) : String := String.ofList (splitName p.name.toList).1

/-- The suffix of the last name, from its dot on; empty if there is none. -/
def suffix (p : FilePath) : String := String.ofList (splitName p.name.toList).2

/-- A name is its stem and its suffix. -/
theorem stem_append_suffix (p : FilePath) : p.stem ++ p.suffix = p.name := by
  simp [stem, suffix, ← String.ofList_append, fst_append_snd_splitName]

/-! ## Rendered files -/

/-- What the stem of a rendered file ends with. -/
def renderedMark : String := "-rendered"

/-- Whether a file is named like a rendered one. -/
def isRendered (p : FilePath) : Bool := renderedMark.toList.isSuffixOf p.stem.toList

/-- Where the result of rendering a file goes: into a folder, or else next to the file. -/
def rendered (p : FilePath) (extension : String) (folder : Option FilePath) : FilePath :=
  (folder.getD p.parent).join (ofText (p.stem ++ renderedMark ++ extension))

example : (ofText "a//b/./c.json").text = "a/b/c.json" := by decide +kernel
example : ((ofText "//x/.y.tar.gz").rendered ".txt" none).text = "//x/.y.tar-rendered.txt" := by
  decide +kernel
example : (ofText "a.").suffix = "" ∧ (ofText ".json").suffix = "" ∧ (ofText "..").stem = ".." := by
  decide +kernel

end FilePath

end TicketMarkup
