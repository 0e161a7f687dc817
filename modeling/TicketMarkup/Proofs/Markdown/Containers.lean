import TicketMarkup.Display.Markdown
import TicketMarkup.Proofs.Text.Lines

/-!
# Lines within quotes and items

In plain text, a quote and an item of a list are marked line by line: every line begins with what
says that it belongs there, and the first line of an item with its bullet. `Container.unmark?`
takes the marks off. `Stands` says of lines that others stand in them, within some containers: the
lines of the outermost container are a run of the lines, and without its marks the others stand in
them within the remaining containers.

Main statements: `unmarkLines?_lines_quoteLines` and `unmarkLines?_lines_itemText`, what is put into
a container is what its lines have behind their marks; and `Stands.exists_run`, lines that stand
within containers are a run from whose lines the marks can be taken off one container at a time.
-/

namespace TicketMarkup.Markdown

open Text

/-- A part of a text whose lines are marked. -/
inductive Container where
  | quote
  /-- An item of a list, with its number if the list is numbered. -/
  | item (number : Option Int)
  deriving DecidableEq

/-- What the first line of an item begins with. -/
def bulletText : Option Int → List Char
  | none => "- ".toList
  | some n => Numeral.write n ++ ". ".toList

namespace Container

/-- A line of a container without its mark, none if it has no such mark. A quote marks an empty
line by an angle bracket without a space. The first line of an item begins with the bullet, and the
others with as many spaces, unless they are empty. -/
def unmark? (isFirst : Bool) : Container → List Char → Option (List Char)
  | quote, line => if line = ['>'] then some [] else ['>', ' '].isPrefixOf? line
  | item number, line =>
    if isFirst then (bulletText number).isPrefixOf? line
    else if line = [] then some []
    else (List.replicate (bulletText number).length ' ').isPrefixOf? line

/-- Lines of a container without their marks. -/
def unmarkLines? (c : Container) (isFirst : Bool) : List (List Char) → Option (List (List Char))
  | [] => some []
  | line :: rest => do
    let line ← c.unmark? isFirst line
    let rest ← c.unmarkLines? false rest
    return line :: rest

end Container

/-- Whether lines stand in a text, given by its lines, as a run of lines within containers, the
outermost first. -/
def Stands (body : List (List Char)) : List Container → List (List Char) → Prop
  | [], ls => body <:+: ls
  | c :: path, ls => ∃ block inner, block <:+: ls ∧ c.unmarkLines? true block = some inner ∧
      Stands body path inner

/-- Whether lines are others with marks of containers before each of them, the outermost first. -/
def IsMarked (body : List (List Char)) : List Container → List (List Char) → Prop
  | [], run => run = body
  | c :: path, run => ∃ isFirst inner, c.unmarkLines? isFirst run = some inner ∧
      IsMarked body path inner

/-! ## Taking marks off -/

/-- A mark is taken off a line that it was put before. -/
theorem isPrefixOf?_append (mark line : List Char) :
    mark.isPrefixOf? (mark ++ line) = some line := by
  induction mark with
  | nil => rfl
  | cons c mark ih => exact (if_pos (beq_self_eq_true c)).trans ih

namespace Container

variable {c : Container} {isFirst : Bool}

theorem unmarkLines?_cons {line : List Char} {rest inner : List (List Char)} :
    c.unmarkLines? isFirst (line :: rest) = some inner ↔
      ∃ l, c.unmark? isFirst line = some l ∧
        ∃ r, c.unmarkLines? false rest = some r ∧ l :: r = inner := by
  simp [unmarkLines?, Option.bind_eq_some_iff]

/-- Lines after the first are marked one by one. -/
theorem unmarkLines?_cons_map {mark : List Char → List Char} {line first : List Char}
    (hfirst : c.unmark? isFirst line = some first)
    (h : ∀ l, c.unmark? false (mark l) = some l) (rest : List (List Char)) :
    c.unmarkLines? isFirst (line :: rest.map mark) = some (first :: rest) := by
  induction rest generalizing isFirst line first with
  | nil => exact unmarkLines?_cons.2 ⟨first, hfirst, [], rfl, rfl⟩
  | cons l rest ih => exact unmarkLines?_cons.2 ⟨first, hfirst, l :: rest, ih (h l), rfl⟩

/-- Where lines without their marks split, the lines do. -/
theorem exists_append_of_unmarkLines? {block before after : List (List Char)}
    (h : c.unmarkLines? isFirst block = some (before ++ after)) :
    ∃ b a, block = b ++ a ∧ c.unmarkLines? isFirst b = some before ∧
      ∃ isFirst', c.unmarkLines? isFirst' a = some after := by
  induction before generalizing isFirst block with
  | nil => exact ⟨[], block, rfl, rfl, isFirst, h⟩
  | cons l before ih =>
    cases block with
    | nil => cases h
    | cons line block =>
      obtain ⟨l', hl, rest, hrest, heq⟩ := unmarkLines?_cons.1 h
      obtain ⟨rfl, rfl⟩ := List.cons.inj heq
      obtain ⟨b, a, rfl, hb, ha⟩ := ih hrest
      exact ⟨line :: b, a, rfl, unmarkLines?_cons.2 ⟨l', hl, before, hb, rfl⟩, ha⟩

/-- A run of lines without their marks is what a run of the lines has without them. -/
theorem exists_run_of_unmarkLines? {block inner run : List (List Char)}
    (h : c.unmarkLines? isFirst block = some inner) (hrun : run <:+: inner) :
    ∃ marked, marked <:+: block ∧ ∃ isFirst', c.unmarkLines? isFirst' marked = some run := by
  obtain ⟨before, after, rfl⟩ := hrun
  obtain ⟨front, back, rfl, hfront, -⟩ := exists_append_of_unmarkLines? h
  obtain ⟨skipped, marked, rfl, -, hmarked⟩ := exists_append_of_unmarkLines? hfront
  exact ⟨marked, List.infix_append skipped marked back, hmarked⟩

end Container

/-- Lines that stand somewhere stand there in more lines as well. -/
theorem Stands.mono {body : List (List Char)} {path : List Container} {ls ls' : List (List Char)}
    (h : Stands body path ls) (hrun : ls <:+: ls') : Stands body path ls' := by
  cases path with
  | nil => exact List.IsInfix.trans h hrun
  | cons c path =>
    obtain ⟨block, inner, hblock, hinner, hbody⟩ := h
    exact ⟨block, inner, hblock.trans hrun, hinner, hbody⟩

/-- What stands within containers is a run of lines with the marks of the containers. -/
theorem Stands.exists_run {body : List (List Char)} {path : List Container}
    {ls : List (List Char)} (h : Stands body path ls) :
    ∃ run, run <:+: ls ∧ IsMarked body path run := by
  induction path generalizing ls with
  | nil => exact ⟨body, h, rfl⟩
  | cons c path ih =>
    obtain ⟨block, inner, hblock, hinner, hbody⟩ := h
    obtain ⟨run, hrun, hmarked⟩ := ih hbody
    obtain ⟨marked, hmarkedBlock, isFirst, hunmark⟩ :=
      Container.exists_run_of_unmarkLines? hinner hrun
    exact ⟨marked, hmarkedBlock.trans hblock, isFirst, run, hunmark, hmarked⟩

/-! ## Quotes -/

theorem unmark?_quoteLine (isFirst : Bool) (line : List Char) :
    Container.quote.unmark? isFirst (quoteLine line) = some line := by
  cases line <;> rfl

/-- The lines of a quote are the lines in it, each with a mark. -/
theorem lines_quoteLines (body : List Char) :
    lines (quoteLines body) = (lines body).map quoteLine := by
  refine lines_join ?_ (by simp [lines_ne_nil])
  intro marked hmarked
  obtain ⟨line, hline, rfl⟩ := List.mem_map.1 hmarked
  have hfeed := notMem_of_mem_lines hline
  unfold quoteLine
  split <;> simp [hfeed]

/-- The lines of a quote without their marks are the lines in it. -/
theorem unmarkLines?_lines_quoteLines (body : List Char) :
    Container.quote.unmarkLines? true (lines (quoteLines body)) = some (lines body) := by
  obtain ⟨first, rest, hbody⟩ := List.exists_cons_of_ne_nil (lines_ne_nil body)
  rw [lines_quoteLines, hbody, List.map_cons]
  exact Container.unmarkLines?_cons_map (unmark?_quoteLine true first) (unmark?_quoteLine false)
    rest

theorem quoteLines_ne_nil (body : List Char) : quoteLines body ≠ [] := by
  intro h
  have hlines := lines_quoteLines body
  obtain ⟨first, rest, hbody⟩ := List.exists_cons_of_ne_nil (lines_ne_nil body)
  have hfirst : quoteLine first ≠ [] := by cases first <;> simp [quoteLine]
  rw [h, hbody] at hlines
  exact hfirst (List.cons.inj hlines).1.symm

/-! ## Items -/

/-- A bullet that can be written is the one that belongs to the number. -/
theorem eq_bulletText_of_bullet {number : Option Int} {mark : List Char}
    (h : bullet number = .ok mark) : mark = bulletText number := by
  cases number with
  | none => exact (Except.ok.inj h).symm
  | some n =>
    rw [bullet] at h
    cases hn : Numeral.write? n with
    | error fault => simp [hn, Except.map] at h
    | ok s =>
      obtain ⟨-, rfl⟩ := Numeral.write?_eq_ok_iff.1 hn
      rw [hn] at h
      exact (Except.ok.inj h).symm

theorem notMem_write (n : Int) : '\n' ∉ Numeral.write n := by
  have hdigits : ∀ m, '\n' ∉ Numeral.digits m := fun m h => by
    simpa using Numeral.isDigit_of_mem_digits h
  cases n with
  | ofNat n => exact hdigits n
  | negSucc n => simp [Numeral.write, hdigits]

/-- A bullet stays on its line. -/
theorem notMem_bulletText (number : Option Int) : '\n' ∉ bulletText number := by
  cases number with
  | none => decide
  | some n => simp [bulletText, notMem_write]

theorem bulletText_ne_nil (number : Option Int) : bulletText number ≠ [] := by
  cases number <;> simp [bulletText]

theorem unmark?_indentLine (number : Option Int) (line : List Char) :
    (Container.item number).unmark? false (indentLine (bulletText number).length line) =
      some line := by
  have hwidth : (bulletText number).length ≠ 0 := by simp [bulletText_ne_nil]
  unfold indentLine
  split
  next h => simp [Container.unmark?, h]
  next h => simp [Container.unmark?, h, isPrefixOf?_append]

/-- The first line of an item is behind the bullet, and the others are indented. -/
theorem lines_itemText (number : Option Int) {body first : List Char} {rest : List (List Char)}
    (h : lines body = first :: rest) :
    lines (itemText (bulletText number) body) =
      (bulletText number ++ first) :: rest.map (indentLine (bulletText number).length) := by
  have hfeed : ∀ line ∈ first :: rest, '\n' ∉ line := fun line hline =>
    notMem_of_mem_lines (h ▸ hline)
  obtain ⟨hfirst, hrest⟩ := List.forall_mem_cons.1 hfeed
  rw [itemText, h]
  refine lines_join (List.forall_mem_cons.2 ⟨?_, fun marked hmarked => ?_⟩) (by simp)
  · simp [notMem_bulletText, hfirst]
  · obtain ⟨line, hline, rfl⟩ := List.mem_map.1 hmarked
    unfold indentLine
    split <;> simp [hrest line hline]

/-- The lines of an item without bullet and indents are the lines in it. -/
theorem unmarkLines?_lines_itemText (number : Option Int) (body : List Char) :
    (Container.item number).unmarkLines? true (lines (itemText (bulletText number) body)) =
      some (lines body) := by
  obtain ⟨first, rest, h⟩ := List.exists_cons_of_ne_nil (lines_ne_nil body)
  have hfirst : (Container.item number).unmark? true (bulletText number ++ first) = some first :=
    isPrefixOf?_append _ _
  rw [lines_itemText number h, h]
  exact Container.unmarkLines?_cons_map hfirst (unmark?_indentLine number) rest

theorem itemText_ne_nil (number : Option Int) (body : List Char) :
    itemText (bulletText number) body ≠ [] := by
  obtain ⟨first, rest, h⟩ := List.exists_cons_of_ne_nil (lines_ne_nil body)
  intro hnil
  have hlines := lines_itemText number h
  rw [hnil] at hlines
  obtain ⟨hfirst, -⟩ := List.cons.inj hlines
  exact bulletText_ne_nil number (List.append_eq_nil_iff.1 hfirst.symm).1

end TicketMarkup.Markdown
