import TicketMarkup.Text.Blank
import TicketMarkup.Text.LowerCase

/-!
# Assignments

Names with values, as the environment of a run holds them and as a file of assignments does. The
file assigns a value to a name with an equals sign between them; `export` may stand in front, and a
comment after it. A value may be quoted, and then go over several lines; otherwise it ends with its
line, or before a blank that a hash follows. A value may refer to the names that are already known
(`expand`). What is no assignment is passed over up to the end of its line.

Names are looked up without regard to the case of letters, and the last of several wins.

Main statements: `value?_concat` (the last assignment wins), `unescape_of_notMem` (only a backslash
is changed in a quoted value), `expand_of_notMem` (only a dollar sign begins a reference) and
`suffix_assignmentAt` (what an assignment leaves is the end of the text).
-/

namespace TicketMarkup

/-- Names with their values, in order. A name may stand without any value. -/
abbrev Assignments := List (String × Option String)

namespace Assignments

/-! ## Names and values -/

/-- Assigns a value: in its place if the name has one, and else at the end. -/
def set (name : String) (value : Option String) : Assignments → Assignments
  | [] => [(name, value)]
  | (n, v) :: rest => if n = name then (n, value) :: rest else (n, v) :: set name value rest

/-- Takes a name away. -/
def unset (name : String) (assignments : Assignments) : Assignments :=
  assignments.filter fun a => a.1 ≠ name

/-- The last value under a name that is given in lower case. A name without a value takes back
what was assigned before it. -/
def value? (key : String) (assignments : Assignments) : Option String :=
  assignments.foldl (fun found a => if Text.lower a.1 = key then a.2 else found) none

/-- The last assignment to a name wins. -/
theorem value?_concat (key name : String) (value : Option String) (assignments : Assignments) :
    value? key (assignments ++ [(name, value)]) =
      if Text.lower name = key then value else value? key assignments := by
  simp [value?]

/-! ## Quoted values -/

/-- The text up to the closing quotation mark, and the text after it. A backslash takes a backslash
or a mark that follows it along. A mark that is taken along closes only if no other does, and then
the last such one. -/
def quotedText (mark : Char) : List Char → Option (List Char × List Char)
  | [] => none
  | [c] => if c = mark then some ([], []) else none
  | c :: d :: s =>
    if c = mark then some ([], d :: s)
    else if c = '\\' && (d = '\\' || d = mark) then
      match quotedText mark s with
      | some r => some (c :: d :: r.1, r.2)
      | none => if d = mark then some ([c], s) else none
    else (quotedText mark (d :: s)).map fun r => (c :: r.1, r.2)

/-- What stands behind a quoted text is the end of the text. -/
theorem suffix_quotedText {mark : Char} {s value rest : List Char}
    (h : quotedText mark s = some (value, rest)) : rest <:+ s := by
  fun_induction quotedText mark s generalizing value with
  | case1 => cases h
  | case2 =>
    obtain ⟨-, rfl⟩ := by simpa using h
    simp
  | case3 => cases h
  | case4 =>
    obtain ⟨-, rfl⟩ := by simpa using h
    exact List.suffix_cons _ _
  | case5 c d s _ _ r hr ih =>
    obtain ⟨-, rfl⟩ := by simpa using h
    exact (ih hr).trans ((List.suffix_cons _ _).trans (List.suffix_cons _ _))
  | case6 =>
    obtain ⟨-, rfl⟩ := by simpa using h
    exact (List.suffix_cons _ _).trans (List.suffix_cons _ _)
  | case7 => cases h
  | case8 c d s _ _ ih =>
    obtain ⟨r, hr, hv⟩ := Option.map_eq_some_iff.1 h
    obtain ⟨-, rfl⟩ := by simpa using hv
    exact (ih hr).trans (List.suffix_cons _ _)

/-- The letters after a backslash that stand for another character, between quotation marks. -/
def escapes (mark : Char) : List (Char × Char) :=
  if mark = '"' then
    [('\\', '\\'), ('\'', '\''), ('"', '"'), ('a', '\x07'), ('b', '\x08'), ('f', '\x0c'),
      ('n', '\n'), ('r', '\r'), ('t', '\t'), ('v', '\x0b')]
  else [('\\', '\\'), ('\'', '\'')]

/-- A quoted text with its escapes replaced. -/
def unescape (letters : List (Char × Char)) : List Char → List Char
  | [] => []
  | [c] => [c]
  | c :: d :: s =>
    match if c = '\\' then letters.lookup d else none with
    | some e => e :: unescape letters s
    | none => c :: unescape letters (d :: s)

/-- Only a backslash is changed in a quoted value. -/
theorem unescape_of_notMem (letters : List (Char × Char)) {s : List Char} (h : '\\' ∉ s) :
    unescape letters s = s := by
  fun_induction unescape letters s with
  | case1 => rfl
  | case2 => rfl
  | case3 c d s e he =>
    have : c ≠ '\\' := fun hc => h (by simp [hc])
    simp [this] at he
  | case4 c d s he ih => rw [ih fun hm => h (List.mem_cons_of_mem _ hm)]

/-! ## References -/

/-- A reference: a name, and the text that stands for it if the name is not known. -/
structure Reference where
  name : List Char
  other : List Char

/-- The reference that follows a dollar sign, and the text after it: a name in braces, and maybe
a colon, a dash and the text that may stand for it. -/
def referenceAt : List Char → Option (Reference × List Char)
  | '\x7b' :: s =>
    let isName (c : Char) : Bool := c ≠ '\x7d' && c ≠ ':'
    match s.dropWhile isName with
    | '\x7d' :: rest => some (⟨s.takeWhile isName, []⟩, rest)
    | ':' :: '-' :: other =>
      match other.dropWhile (· ≠ '\x7d') with
      | [] => none
      | _ :: rest => some (⟨s.takeWhile isName, other.takeWhile (· ≠ '\x7d')⟩, rest)
    | _ => none
  | _ => none

theorem suffix_referenceAt {s rest : List Char} {r : Reference}
    (h : referenceAt s = some (r, rest)) : rest <:+ s := by
  unfold referenceAt at h
  split at h
  next s =>
    refine List.IsSuffix.trans ?_ (List.suffix_cons _ s)
    have hs := List.dropWhile_suffix (l := s) fun c => c ≠ '\x7d' && c ≠ ':'
    dsimp only at h
    split at h
    next t ht =>
      obtain ⟨-, rfl⟩ := by simpa using h
      rw [ht] at hs
      exact (List.suffix_cons _ _).trans hs
    next other ht =>
      have ho := List.dropWhile_suffix (l := other) (· ≠ '\x7d')
      split at h
      next => cases h
      next d t hd =>
        obtain ⟨-, rfl⟩ := by simpa using h
        rw [hd] at ho
        rw [ht] at hs
        exact (List.suffix_cons _ _).trans
          (ho.trans (((List.suffix_cons _ _).trans (List.suffix_cons _ _)).trans hs))
    next => cases h
  next => cases h

/-- What stands for a reference: the value of the name, which is empty if the name is known without
one, and else the other text. -/
def Reference.value (known : Assignments) (r : Reference) : List Char :=
  match known.lookup (String.ofList r.name) with
  | some value => (value.getD "").toList
  | none => r.other

/-- A text with its references replaced. -/
def expand (known : Assignments) : List Char → List Char
  | [] => []
  | c :: s =>
    match _h : if c = '$' then referenceAt s else none with
    | some (r, rest) => r.value known ++ expand known rest
    | none => c :: expand known s
termination_by s => s.length
decreasing_by
  · split at _h
    next =>
      have := (suffix_referenceAt _h).length_le
      simp only [List.length_cons]
      omega
    next => cases _h
  · simp

/-- Only a dollar sign begins a reference. -/
theorem expand_of_notMem (known : Assignments) {s : List Char} (h : '$' ∉ s) :
    expand known s = s := by
  fun_induction expand known s with
  | case1 => rfl
  | case2 c s r rest hr =>
    have : c ≠ '$' := fun hc => h (by simp [hc])
    simp [this] at hr
  | case3 c s _ ih => rw [ih fun hm => h (List.mem_cons_of_mem _ hm)]

/-! ## Reading -/

/-- A blank within a line. -/
def isGap (c : Char) : Bool := Text.isBlank c && c ≠ '\n'

/-- The text after the line that it begins in. -/
def nextLine (s : List Char) : List Char := (s.dropWhile (· ≠ '\n')).tail

/-- Whether nothing but a comment stands before the end of the line. -/
def endsLine (s : List Char) : Bool :=
  match s.dropWhile isGap with
  | [] => true
  | c :: _ => c = '#' || c = '\n'

/-- The text without a leading `export` and the blanks after it. -/
def withoutExport (s : List Char) : List Char :=
  match s with
  | 'e' :: 'x' :: 'p' :: 'o' :: 'r' :: 't' :: c :: rest =>
    if isGap c then rest.dropWhile isGap else s
  | _ => s

/-- The text up to a comment: a hash with a blank in front of it. -/
def withoutComment : List Char → List Char
  | [] => []
  | c :: s =>
    if Text.isBlank c && (Text.stripStart s).head? = some '#' then [] else c :: withoutComment s

/-- The name at the front of a text, which may be quoted, and the text after it. -/
def nameAt (s : List Char) : Option (List Char × List Char) :=
  match s with
  | '\'' :: rest =>
    match rest.dropWhile (· ≠ '\'') with
    | _ :: after => some (rest.takeWhile (· ≠ '\''), after)
    | [] => none
  | s =>
    let isName (c : Char) : Bool := c ≠ '=' && c ≠ '#' && !Text.isBlank c
    some (s.takeWhile isName, s.dropWhile isName)

/-- The value at the front of a text that follows an equals sign, and the text after it. -/
def valueAt (s : List Char) : Option (List Char × List Char) :=
  let quoted (mark : Char) (rest : List Char) : Option (List Char × List Char) :=
    (quotedText mark rest).map fun r => (unescape (escapes mark) r.1, r.2)
  match s.dropWhile isGap with
  | '\'' :: rest => quoted '\'' rest
  | '"' :: rest => quoted '"' rest
  | _ =>
    some (Text.strip (withoutComment (s.takeWhile (· ≠ '\n'))), s.dropWhile (· ≠ '\n'))

/-- The assignment at the front of a text, if there is one, and the text from the place on up to
which it was read. -/
def assignmentAt (s : List Char) : Option (String × Option String) × List Char :=
  match nameAt (withoutExport s) with
  | none => (none, s)
  | some ([], _) => (none, s)
  | some (name, after) =>
    match after.dropWhile isGap with
    | '=' :: rest =>
      match valueAt rest with
      | none => (none, rest)
      | some (value, after) =>
        (if endsLine after then some (String.ofList name, some (String.ofList value)) else none,
          after)
    | rest => (if endsLine rest then some (String.ofList name, none) else none, rest)

theorem suffix_withoutExport (s : List Char) : withoutExport s <:+ s := by
  unfold withoutExport
  split
  next c rest =>
    split
    next =>
      exact (List.dropWhile_suffix _).trans ⟨['e', 'x', 'p', 'o', 'r', 't', c], rfl⟩
    next => exact List.suffix_refl _
  next => exact List.suffix_refl _

theorem suffix_nameAt {s name rest : List Char} (h : nameAt s = some (name, rest)) :
    rest <:+ s := by
  unfold nameAt at h
  split at h
  next t =>
    refine List.IsSuffix.trans ?_ (List.suffix_cons _ t)
    split at h
    next c after ha =>
      obtain ⟨-, rfl⟩ := by simpa using h
      exact (List.suffix_cons c _).trans (ha ▸ List.dropWhile_suffix _)
    next => cases h
  next =>
    obtain ⟨-, rfl⟩ := by simpa using h
    exact List.dropWhile_suffix _

theorem suffix_valueAt {s value rest : List Char} (h : valueAt s = some (value, rest)) :
    rest <:+ s := by
  have quoted {mark c : Char} {t : List Char} (hs : s.dropWhile isGap = c :: t)
      (hq : (quotedText mark t).map (fun r => (unescape (escapes mark) r.1, r.2)) =
        some (value, rest)) : rest <:+ s := by
    obtain ⟨r, hr, hv⟩ := Option.map_eq_some_iff.1 hq
    obtain ⟨-, rfl⟩ := by simpa using hv
    exact (suffix_quotedText hr).trans ((List.suffix_cons c t).trans (hs ▸ List.dropWhile_suffix _))
  unfold valueAt at h
  dsimp only at h
  split at h
  next hs => exact quoted hs h
  next hs => exact quoted hs h
  next =>
    obtain ⟨-, rfl⟩ := by simpa using h
    exact List.dropWhile_suffix _

/-- What an assignment leaves is the end of the text. -/
theorem suffix_assignmentAt (s : List Char) : (assignmentAt s).2 <:+ s := by
  unfold assignmentAt
  split
  next => exact List.suffix_refl s
  next => exact List.suffix_refl s
  next name after _ hn =>
    have ha := (suffix_nameAt hn).trans (suffix_withoutExport s)
    have hd := (List.dropWhile_suffix isGap).trans ha
    split
    next rest hr =>
      have hs := (List.suffix_cons '=' rest).trans (hr ▸ hd)
      split
      next => exact hs
      next hv => exact (suffix_valueAt hv).trans hs
    next => exact hd

/-- Going on to the next line leaves less of the text, so that reading ends. -/
theorem length_nextLine_lt {s : List Char} (h : s ≠ []) : (nextLine s).length < s.length := by
  have := (List.dropWhile_suffix (l := s) (· ≠ '\n')).length_le
  have := List.length_pos_iff.2 h
  simp only [nextLine, List.length_tail]
  omega

/-- The assignments of a text, in order. -/
def scan (s : List Char) : Assignments :=
  match _h : Text.stripStart s with
  | [] => []
  | c :: t =>
    (assignmentAt (c :: t)).1.toList ++ scan (nextLine (assignmentAt (c :: t)).2)
termination_by s.length
decreasing_by
  have hs := (List.dropWhile_suffix (l := s) Text.isBlank).length_le
  rw [show s.dropWhile Text.isBlank = c :: t from _h] at hs
  have ha := (suffix_assignmentAt (c :: t)).length_le
  by_cases hn : (assignmentAt (c :: t)).2 = []
  · rw [hn, nextLine]
    simp only [List.length_cons, List.dropWhile_nil, List.tail_nil, List.length_nil] at hs ⊢
    omega
  · exact Nat.lt_of_lt_of_le (length_nextLine_lt hn) (Nat.le_trans ha hs)

/-- The names of a text with their values. A value may refer to the names of the environment and to
those before it in the text, which come first. -/
def ofText (environment : Assignments) (s : List Char) : Assignments :=
  (scan s).foldl (fun known a =>
    set a.1 (a.2.map fun v =>
      String.ofList (expand (known ++ environment) v.toList)) known) []

example : ofText [] "export A = 'it\\'s' # yes".toList = [("A", some "it's")] := by decide +kernel
example : ofText [] "A=b#c #d\nB= # e".toList = [("A", some "b#c"), ("B", some "")] := by
  decide +kernel
example : ofText [] "# A=b\nA b\nA".toList = [("A", none)] := by decide +kernel
example : ofText [] "A='b\\'\nC=' #d\ne".toList = [("A", some "b'\nC="), ("e", none)] := by
  decide +kernel
example : ofText [] "A='b\\\\'\nC='d'".toList = [("A", some "b\\"), ("C", some "d")] := by
  decide +kernel
example : ofText [("X", some "y")] "A=$\x7bX\x7d$\x7bZ:-z\x7d\nB=$\x7bA\x7d".toList =
    [("A", some "yz"), ("B", some "yz")] := by decide +kernel

end Assignments

end TicketMarkup
