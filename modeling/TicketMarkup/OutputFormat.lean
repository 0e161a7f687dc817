import TicketMarkup.Display.Html
import TicketMarkup.Display.Markdown
import TicketMarkup.Text.LowerCase

/-!
# Output formats

A display tree is written as an HTML fragment or as text. A format is called by its name, in
either case of letters, and its files have an extension of their own. A renderer is a format with
all that writing a tree in it depends on besides the tree.

Main statements: `ofName_name` (a format is found by its name) and `ofName_eq_error_iff` (a name
is refused exactly if it is the name of no format).
-/

namespace TicketMarkup

/-- The formats that a display tree is written in. -/
inductive OutputFormat where
  | html
  | text
  deriving DecidableEq, Repr

/-- A name, in lower case, that no format has. -/
structure UnsupportedFormat where
  name : String
  deriving DecidableEq, Repr

namespace OutputFormat

/-- The formats, in the order in which they are listed. -/
def all : List OutputFormat := [html, text]

/-- The name of a format. -/
def name : OutputFormat → String
  | html => "html"
  | text => "text"

/-- The extension of the files of a format. -/
def extension : OutputFormat → String
  | html => ".html"
  | text => ".txt"

/-- The names of all formats, for a message. -/
def listed : String :=
  String.ofList (Text.join ", ".toList (all.map fun format => format.name.toList))

/-- The format that has a name. -/
def ofName (s : String) : Except UnsupportedFormat OutputFormat :=
  match all.find? fun format => format.name = Text.lower s with
  | some format => .ok format
  | none => .error ⟨Text.lower s⟩

theorem mem_all (format : OutputFormat) : format ∈ all := by cases format <;> simp [all]

/-- The names of the formats are in small letters. -/
theorem lower_name (format : OutputFormat) : Text.lower format.name = format.name := by
  cases format <;> decide +kernel

/-- Each format is found by its name. -/
theorem ofName_name (format : OutputFormat) : ofName format.name = .ok format := by
  rw [ofName, lower_name]
  cases format <;> rfl

/-- A name is refused exactly if it is that of no format in whatever letters, and the fault tells it
in small ones. -/
theorem ofName_eq_error_iff {s : String} {e : UnsupportedFormat} :
    ofName s = .error e ↔
      (∀ format : OutputFormat, format.name ≠ Text.lower s) ∧ e = ⟨Text.lower s⟩ := by
  unfold ofName
  split
  next format h =>
    simp only [reduceCtorEq, false_iff, not_and]
    exact fun h' => absurd (by simpa using List.find?_some h) (h' format)
  next h =>
    simp only [List.find?_eq_none, decide_eq_true_eq] at h
    simp only [Except.error.injEq]
    exact ⟨fun he => ⟨fun format => h format (mem_all format), he.symm⟩, fun he => he.2.symm⟩

end OutputFormat

/-- The wording of the refusal of a name. -/
def UnsupportedFormat.message (e : UnsupportedFormat) : String :=
  "Unsupported output format: " ++ e.name ++ ". Supported formats: " ++ OutputFormat.listed

/-- A format with what writing a tree in it depends on: in HTML, user links point into the
profiles under an address. -/
inductive Renderer where
  | html (profiles : String)
  | text
  deriving DecidableEq, Repr

namespace Renderer

/-- The renderer of a format. -/
def ofFormat (profiles : String) : OutputFormat → Renderer
  | .html => html profiles
  | .text => text

/-- The format that a renderer writes. -/
def format : Renderer → OutputFormat
  | html _ => .html
  | text => .text

@[simp] theorem format_ofFormat (profiles : String) (format : OutputFormat) :
    (ofFormat profiles format).format = format := by
  cases format <;> rfl

/-- A display tree, written. Only text may fail, at a list whose numbers cannot be written. -/
def render : Renderer → List Display → Except NumeralFault String
  | html profiles, tree => .ok (Html.render profiles tree)
  | text, tree => Markdown.render tree

end Renderer

end TicketMarkup
