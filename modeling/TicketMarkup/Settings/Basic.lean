import TicketMarkup.FileTree
import TicketMarkup.Format.Basic
import TicketMarkup.Number.Whole
import TicketMarkup.OutputFormat
import TicketMarkup.Settings.Assignments
import TicketMarkup.Source.Load
import TicketMarkup.Text.Utf8

/-!
# Settings

What a run takes from its surroundings: the address of the tracker, the address of the user
profiles, the name of the output format and the nesting that is accepted. A setting is looked up in
the environment first, then in a file of assignments, and has a default value. All but the nesting
are taken as they are.

Settings that were read are held, so that a later change of the surroundings is not seen.

Main statements: `ofSources_nil` (without any assignment the settings are the default ones) and
`held_of_some` (held settings are not read again).
-/

namespace TicketMarkup

/-- The settings of a run. -/
structure Settings where
  /-- The address of the tracker. -/
  base : String
  /-- The address that user names are appended to. -/
  profiles : String
  /-- The name of the output format, which need not be one. -/
  format : String
  /-- The deepest nesting that is accepted. -/
  limit : Int
  deriving DecidableEq, Repr

/-- The names that settings are looked up under. -/
inductive SettingName where
  | base
  | profiles
  | format
  | limit
  deriving DecidableEq, Repr

/-- A name as it is written. -/
def SettingName.text : SettingName → String
  | base => "TRACMARK_TRAC_URL"
  | profiles => "TRACMARK_PROFILE_URL"
  | format => "TRACMARK_FORMAT"
  | limit => "TRACMARK_MAX_DEPTH"

/-- Why settings are refused. -/
inductive SettingsFault where
  /-- The value of a setting is no integer. -/
  | notInteger (name : SettingName)
  /-- The file of assignments is no UTF-8 text. -/
  | notText (fault : Text.Utf8Fault)
  /-- The path to the file of assignments cannot be followed. -/
  | access (file : FilePath) (fault : AccessFault)
  deriving DecidableEq

/-- The wording of a fault. -/
def SettingsFault.message : SettingsFault → String
  | notInteger name => "Invalid settings: " ++ name.text ++ " is not an integer"
  | notText fault => fault.message
  | access file fault => fault.message file

namespace Settings

/-! ## Reading settings -/

/-- The settings unless others are given. -/
def default : Settings :=
  ⟨Context.defaultBase, Html.defaultProfiles, OutputFormat.html.name, defaultDepthLimit⟩

/-- The value of a setting: from the environment, or else from the file. -/
def value? (name : SettingName) (environment file : Assignments) : Option String :=
  let key := Text.lower name.text
  (environment.value? key).or (file.value? key)

/-- The settings that an environment and the assignments of a file give. -/
def ofSources (environment file : Assignments) : Except SettingsFault Settings :=
  let given (name : SettingName) (other : String) : String :=
    (value? name environment file).getD other
  let settings : Settings :=
    { default with
      base := given .base default.base
      profiles := given .profiles default.profiles
      format := given .format default.format }
  match value? .limit environment file with
  | none => .ok settings
  | some s =>
    match Numeral.readWhole s with
    | some limit => .ok { settings with limit := limit }
    | none => .error (.notInteger .limit)

theorem ofSources_nil : ofSources [] [] = .ok default := rfl

/-- The name of the file of assignments in the working folder. -/
def defaultFile : FilePath := FilePath.ofText ".env"

/-- The assignments that the octets of a file hold, in an environment. -/
def ofOctets (environment : Assignments) (octets : List UInt8) :
    Except SettingsFault Assignments :=
  match Text.decode octets with
  | .error fault => .error (.notText fault)
  | .ok s => .ok (Assignments.ofText environment (Text.unifyLineEnds (Text.dropMark s)))

/-- The assignments of a file; there are none if it is no file. -/
def fileAssignments (environment : Assignments) (tree : FileTree) (file : FilePath) :
    Except SettingsFault Assignments :=
  match tree.lookup file with
  | .error fault => .error (.access file fault)
  | .ok (some (.file octets)) => ofOctets environment octets
  | .ok _ => .ok []

/-- The settings that an environment and a file give. -/
def read (environment : Assignments) (tree : FileTree) (file : FilePath) :
    Except SettingsFault Settings :=
  match fileAssignments environment tree file with
  | .error fault => .error fault
  | .ok assignments => ofSources environment assignments

/-- The settings that are held, or else those of the environment and the working folder. -/
def held (known : Option Settings) (environment : Assignments) (tree : FileTree) :
    Except SettingsFault Settings :=
  match known with
  | some settings => .ok settings
  | none => read environment tree defaultFile

theorem held_of_some (settings : Settings) (environment : Assignments) (tree : FileTree) :
    held (some settings) environment tree = .ok settings := rfl

end Settings

end TicketMarkup
