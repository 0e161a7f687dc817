import TicketMarkup.Rendering
import TicketMarkup.Text.Cells

/-!
# Console

What a run tells its user, a notice at a time, and how notices are shown: each on lines of its own,
without the control characters that would move the cursor, and with tabs filled up with spaces. The
progress of a folder is shown in a column of its own, which is no wider than the text before its
tabs are filled up.

Notices are handed over with tags for their styles (`Notice.marked`). What a name or a fault has in
it is not told apart from these; here it is shown as it stands, and whether the console takes it is
said elsewhere (`Host`).

Main statements: `display_append` (notices are shown one after the other) and `not_mem_tab_fillTabs`
(no tab is shown).
-/

namespace TicketMarkup

/-- Why a file of a run is not rendered. -/
inductive RunFault where
  | settings (fault : SettingsFault)
  | format (e : UnsupportedFormat)
  | file (fault : FileFault)
  /-- The file was rendered, but the console did not take the notice of it and says why. -/
  | untold (complaint : String)
  deriving DecidableEq

/-- The wording of a fault on the way from one file to another. -/
def RunFault.message (input output : FilePath) : RunFault → String
  | settings fault => fault.message
  | format e => e.message
  | file fault => fault.message input output
  | untold complaint => complaint

/-- What a run tells its user. -/
inductive Notice where
  /-- Nothing lies where a path leads. -/
  | notFound (input : FilePath)
  /-- A file is not named like a tree file. -/
  | skipped (input : FilePath)
  /-- The four that precede the rendering of a file, if they are asked for. -/
  | processing (input : FilePath)
  | target (output : FilePath)
  | format (name : String)
  | ticket (id : Json)
  /-- A file was rendered. -/
  | success (output : FilePath)
  | failure (input output : FilePath) (fault : RunFault)
  /-- A path leads to no folder. -/
  | notFolder (folder : FilePath)
  /-- A folder holds no tree files. -/
  | noTrees (folder : FilePath)
  /-- How many tree files of a folder are rendered. -/
  | found (count : Nat)
  /-- The file that the progress of a folder ended with. -/
  | progress (input : FilePath)
  /-- The file at which the progress of a folder broke off. -/
  | stopped (input : FilePath)
  | unsupportedFormat (e : UnsupportedFormat)
  /-- An output path is given with a folder. -/
  | outputIgnored
  /-- How many files of a folder were rendered and how many were not. -/
  | complete (succeeded failed : Nat)
  | version
  | usage
  deriving DecidableEq

/-- The name of the program. -/
def programName : String := "tracmark"

/-- The version of the program. -/
def programVersion : String := "0.1.0"

/-- A part of a notice: text as it is, text between the tags of a style, or a tag that is not
closed. -/
inductive Part where
  | plain (s : String)
  | styled (style s : String)
  | opened (style : String)
  deriving DecidableEq

namespace Part

/-- The text of a part. -/
def text : Part → String
  | plain s => s
  | styled _ s => s
  | opened _ => ""

/-- A part with its tags. -/
def marked : Part → String
  | plain s => s
  | styled style s => "[" ++ style ++ "]" ++ s ++ "[/" ++ style ++ "]"
  | opened style => "[" ++ style ++ "]"

end Part

namespace Notice

/-- A number of files. -/
def count (n : Nat) : String := Numeral.text n

/-- How the file that is being rendered is shown. -/
def rendering (input : FilePath) : String := "Rendering " ++ input.name ++ "..."

/-- The parts of a notice. -/
def parts : Notice → List Part
  | notFound input => [.styled "red" "Error:", .plain (" File not found: " ++ input.text)]
  | skipped input =>
    [.styled "yellow" "Skipping:",
      .plain (" " ++ input.name ++ " (unsupported format: " ++ input.lowerSuffix ++ ")")]
  | processing input => [.styled "blue" "Processing:", .plain (" " ++ input.text)]
  | target output => [.styled "blue" "Output:", .plain (" " ++ output.text)]
  | format name => [.styled "blue" "Format:", .plain (" " ++ name)]
  | ticket id => [.styled "blue" "Ticket:", .plain (" #" ++ id.text)]
  | success output => [.styled "green" "Success:", .plain (" " ++ output.text)]
  | failure input output fault =>
    [.styled "red" ("Error processing " ++ input.name ++ ":"),
      .plain (" " ++ fault.message input output)]
  | notFolder folder => [.styled "red" "Error:", .plain (" Not a directory: " ++ folder.text)]
  | noTrees folder =>
    [.styled "yellow" ("No tree files found in " ++ folder.text),
      .plain ("\nSupported formats: " ++ treeSuffix)]
  | found n => [.styled "blue" ("Found " ++ count n ++ " file(s) to process")]
  | progress input => [.opened "progress.description", .plain (rendering input)]
  | stopped input => [.opened "progress.description", .plain (rendering input)]
  | unsupportedFormat e => [.styled "red" "Error:", .plain (" " ++ e.message)]
  | outputIgnored =>
    [.styled "yellow" "Warning:",
      .plain (" --output is ignored in folder mode. Files will be saved alongside originals " ++
        "with " ++ FilePath.renderedMark ++ " suffix.")]
  | complete succeeded failed =>
    [.plain "\n", .styled "bold" "Complete:",
      .plain (" " ++ count succeeded ++ " succeeded, " ++ count failed ++ " failed")]
  | version => [.plain (programName ++ " v" ++ programVersion)]
  | usage => [.plain ("Usage: " ++ programName ++ " [OPTIONS] PATH")]

/-- The text of a notice. -/
def text (n : Notice) : String := String.join (n.parts.map Part.text)

/-- The text of a notice with its tags. -/
def marked (n : Notice) : String := String.join (n.parts.map Part.marked)

end Notice

namespace Console

/-- The width between two tab stops. -/
def tabWidth : Nat := 8

/-- The control characters that are not shown: bell, backspace, vertical tab, form feed and
carriage return. -/
def isDropped (c : Char) : Bool :=
  c.toNat = 0x07 || c.toNat = 0x08 || (0x0B ≤ c.toNat && c.toNat ≤ 0x0D)

/-- A text from a column on with its tabs filled up to the next tab stop. Columns are cells of the
terminal, and a tab is measured as the space that takes its place. The text after a tab is measured
by itself. -/
def fillTabs (column : Nat) (x : Text.CellContext) : List Char → List Char
  | [] => []
  | '\t' :: s =>
    let column := column + x.width ' '
    let fill := if column % tabWidth = 0 then 0 else tabWidth - column % tabWidth
    ' ' :: List.replicate fill ' ' ++ fillTabs (column + fill) .start s
  | '\n' :: s => '\n' :: fillTabs 0 .start s
  | c :: s => c :: fillTabs (column + x.width c) (x.next c) s

/-- A text without tabs. -/
def untab (s : List Char) : List Char := fillTabs 0 .start s

theorem not_mem_tab_fillTabs (column : Nat) (x : Text.CellContext) (s : List Char) :
    '\t' ∉ fillTabs column x s := by
  fun_induction fillTabs column x s with
  | case1 => exact List.not_mem_nil
  | case2 => simp_all
  | case3 => simp_all
  | case4 column x c s h => simp_all [Ne.symm h]

/-! ## Columns -/

/-- The characters that end a line where the width of a text is measured. -/
def endsLine (c : Char) : Bool :=
  c = '\n' || (0x1C ≤ c.toNat && c.toNat ≤ 0x1E) || c.toNat = 0x85 || c.toNat = 0x2028 ||
    c.toNat = 0x2029

/-- The cells that the widest line of a text takes before tabs are filled up. -/
def columnWidth (s : List Char) : Nat :=
  ((Text.lines (s.map fun c => if endsLine c then '\n' else c)).map Text.cells).foldl max 0

/-- A text cut off, or filled up with spaces, to a width. An ellipsis shows what is cut off. -/
def fit (width : Nat) (s : List Char) : List Char :=
  let t := if width < Text.cells s then Text.cut (width - 1) s ++ ['…'] else s
  t ++ List.replicate (width - Text.cells t) ' '

/-- The lines of a text in a column. -/
def column (s : List Char) : List (List Char) :=
  let width := columnWidth s
  (Text.lines s).map fun l => fit width (untab l)

/-! ## Notices -/

/-- What stands before the column of progress. -/
def progressIndent : List Char := [' ', ' ']

/-- What stands before the first line of progress that broke off. -/
def progressSpinner : List Char := ['⠋', ' ']

/-- The column of progress after the given start of its first line. -/
def progressLines (start : List Char) : List (List Char) → List Char
  | [] => []
  | l :: rest =>
    start ++ l ++ ['\n'] ++ rest.flatMap fun l => progressIndent ++ l ++ ['\n']

/-- A notice as it is shown. -/
def line (notice : Notice) : List Char :=
  let shown := notice.text.toList.filter fun c => !isDropped c
  match notice with
  | .progress _ => progressLines progressIndent (column shown)
  | .stopped _ => progressLines progressSpinner (column shown)
  | _ => untab shown ++ ['\n']

/-- Notices as they are shown. -/
def display (notices : List Notice) : String := String.ofList (notices.flatMap line)

theorem display_append (a b : List Notice) : display (a ++ b) = display a ++ display b := by
  simp [display]

example : column "ab\tc".toList = ["ab…".toList] := by decide +kernel
example : column "ab\ncde".toList = ["ab ".toList, "cde".toList] := by decide +kernel
example : column "a\t\nbc".toList = ["a…".toList, "bc".toList] := by decide +kernel

end Console

end TicketMarkup
