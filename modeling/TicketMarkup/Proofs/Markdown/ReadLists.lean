import TicketMarkup.Proofs.Markdown.Containers
import TicketMarkup.Proofs.Markdown.Numbering

/-!
# Reading lists back

The text of a list in plain text says what its items are. A line that is not empty and does not
begin with a space begins an item (`beginsItem`): the first line of an item begins with its bullet,
and the others are empty or begin with spaces. So the lines can be cut into items (`cutItems`), the
bullet of each has its number (`readBullet?`), and without the marks its lines are those of its
body. `readList?` reads a text in this way, and from the text of a list it gets the numbers of the
items, in order, and their bodies (`list_read_back`).
-/

namespace TicketMarkup.Markdown

open Text

/-! ## Reading -/

/-- Whether a line begins an item of a list: it is not empty and does not begin with a space. -/
def beginsItem : List Char → Bool
  | [] => false
  | c :: _ => c ≠ ' '

/-- Lines cut before each that begins an item: the lines before all items, and for each item its
first line and the others. -/
def cutItems : List (List Char) → List (List Char) × List (List Char × List (List Char))
  | [] => ([], [])
  | line :: rest =>
    let (front, items) := cutItems rest
    if beginsItem line then ([], (line, front) :: items) else (line :: front, items)

/-- The number in the bullet that a line begins with; a dash is a bullet without a number. -/
def readBullet? (line : List Char) : Option (Option Int) :=
  if ['-', ' '].isPrefixOf line then some none
  else (Numeral.read (String.ofList (line.takeWhile (· ≠ '.')))).toOption.map some

/-- The number and the body of an item with these lines. -/
def readItem? (item : List Char × List (List Char)) : Option (Option Int × String) := do
  let number ← readBullet? item.1
  let body ← (Container.item number).unmarkLines? true (item.1 :: item.2)
  return (number, String.ofList (join ['\n'] body))

/-- The numbers and the bodies of the items of a list with this text. A list without items has no
text. -/
def readList? (text : List Char) : Option (List (Option Int × String)) :=
  if text = [] then some []
  else
    match cutItems (lines text) with
    | ([], items) => items.mapM readItem?
    | (_ :: _, _) => none

/-! ## Lists -/

/-- What an item of a list shows: the children of an element, and else the node itself. -/
def itemContent : Display → List Display
  | .element _ _ children => children
  | d => [d]

/-- A list element, and the number of its first item if it is numbered. -/
inductive IsList : String → List (String × String) → Option Int → Prop
  | bullets (attrs : List (String × String)) : IsList "ul" attrs none
  | numbers {attrs : List (String × String)} {first : Int} (h : startNumber attrs = .ok first) :
      IsList "ol" attrs (some first)

/-- Values in order with their numbers, counted on from the first if there is one. -/
def numberFrom {α : Type} (number : Option Int) (values : List α) : List (Option Int × α) :=
  values.mapIdx fun i value => (number.map (· + (i : Int)), value)

variable {number : Option Int}

/-- Each value has a number one higher than the one before. -/
theorem numberFrom_cons {α : Type} (value : α) (values : List α) :
    numberFrom number (value :: values) =
      (number, value) :: numberFrom (number.map (· + 1)) values := by
  have hnext : ∀ i : Nat, number.map (· + ((i + 1 : Nat) : Int)) =
      (number.map (· + 1)).map (· + (i : Int)) := by
    intro i
    cases number <;> simp
    omega
  have hfirst : number.map (· + ((0 : Nat) : Int)) = number := by cases number <;> simp
  simp only [numberFrom, List.mapIdx_cons, hnext, hfirst]

theorem numberFrom_map {α β : Type} (f : α → β) (values : List α) :
    numberFrom number (values.map f) =
      (numberFrom number values).map fun item => (item.1, f item.2) := by
  induction values generalizing number with
  | nil => rfl
  | cons value values ih => simp only [List.map_cons, numberFrom_cons, ih]

/-- An item is rendered to its body. -/
theorem render_itemContent (d : Display) :
    render (itemContent d) = (itemBody d).map String.ofList := by
  cases d with
  | element tag attrs children =>
    rw [itemContent, itemBody, render]
    cases blocks children <;> rfl
  | text s => exact congrArg (Except.ok ∘ String.ofList) (joinBlocks_singleton _)
  | codeBlock code language => exact congrArg (Except.ok ∘ String.ofList) (joinBlocks_singleton _)
  | userLink user => exact congrArg (Except.ok ∘ String.ofList) (joinBlocks_singleton _)

/-- A list is written item by item, each on lines of its own. -/
theorem IsList.exists_listItems {tag : String} {attrs : List (String × String)}
    {items : List Display} {s : List Char} (hlist : IsList tag attrs number)
    (h : inline (.element tag attrs items) = .ok s) :
    ∃ written, listItems number items = .ok written ∧ join ['\n'] written = s := by
  cases hlist with
  | bullets attrs =>
    obtain ⟨-, -, hitems⟩ := inline_ul_eq_ok_iff.1 h
    exact hitems
  | numbers hfirst =>
    obtain ⟨first, hfirst', hitems⟩ := inline_ol_eq_ok_iff.1 h
    rw [hfirst] at hfirst'
    obtain rfl := Except.ok.inj hfirst'
    exact hitems

/-- The text of a list is its items, each under its bullet, whose number can be written. -/
theorem exists_bodies_of_listItems {items : List Display} {written : List (List Char)}
    (h : listItems number items = .ok written) :
    ∃ bodies, (items.mapM fun d => render (itemContent d)) = .ok (bodies.map String.ofList) ∧
      (∀ item ∈ numberFrom number bodies, ∀ n ∈ item.1, n.natAbs < Numeral.bound) ∧
      written = (numberFrom number bodies).map fun item => itemText (bulletText item.1) item.2 := by
  induction items generalizing number written with
  | nil =>
    obtain rfl : [] = written := Except.ok.inj h
    exact ⟨[], rfl, by simp [numberFrom], rfl⟩
  | cons d rest ih =>
    obtain ⟨mark, hmark, body, hbody, more, hmore, rfl⟩ := listItems_cons_eq_ok_iff.1 h
    have hnumber := exists_bullet_iff.1 ⟨mark, hmark⟩
    obtain rfl := eq_bulletText_of_bullet hmark
    obtain ⟨bodies, hbodies, hnumbers, rfl⟩ := ih hmore
    refine ⟨body :: bodies, ?_, ?_, ?_⟩
    · rw [List.mapM_cons, render_itemContent, hbody, hbodies]
      rfl
    · rw [numberFrom_cons]
      exact List.forall_mem_cons.2 ⟨hnumber, hnumbers⟩
    · rw [numberFrom_cons, List.map_cons]

/-! ## Cutting -/

/-- Lines that begin no item go with the item before them. -/
theorem cutItems_append {front : List (List Char)} (h : ∀ line ∈ front, beginsItem line = false)
    (rest : List (List Char)) :
    cutItems (front ++ rest) = (front ++ (cutItems rest).1, (cutItems rest).2) := by
  induction front with
  | nil => rfl
  | cons line front ih =>
    obtain ⟨hline, hfront⟩ := List.forall_mem_cons.1 h
    simp [cutItems, hline, ih hfront]

/-- Lines are cut into items where each item, and nothing else, begins with a line that begins
one. -/
theorem cutItems_flatMap {items : List (List Char × List (List Char))}
    (h : ∀ item ∈ items, beginsItem item.1 = true ∧ ∀ line ∈ item.2, beginsItem line = false) :
    cutItems (items.flatMap fun item => item.1 :: item.2) = ([], items) := by
  induction items with
  | nil => rfl
  | cons item items ih =>
    obtain ⟨⟨hfirst, hothers⟩, hrest⟩ := List.forall_mem_cons.1 h
    rw [List.flatMap_cons, List.cons_append, cutItems, cutItems_append hothers, ih hrest]
    simp [hfirst]

/-! ## Bullets -/

theorem ne_of_isDigit {c d : Char} (hc : c.isDigit = true) (hd : d.isDigit = false) : c ≠ d := by
  rintro rfl
  rw [hc] at hd
  cases hd

theorem exists_cons_of_digits (n : Nat) :
    ∃ c rest, Numeral.digits n = c :: rest ∧ c.isDigit = true := by
  have hne : Numeral.digits n ≠ [] := Nat.toDigits_ne_nil
  obtain ⟨c, rest, h⟩ := List.exists_cons_of_ne_nil hne
  exact ⟨c, rest, h, Numeral.isDigit_of_mem_digits (h ▸ List.mem_cons_self)⟩

/-- A number begins with a digit, or with a minus sign and a digit. -/
theorem exists_cons_of_write (n : Int) :
    ∃ c rest, c.isDigit = true ∧
      (Numeral.write n = c :: rest ∨ Numeral.write n = '-' :: c :: rest) := by
  cases n with
  | ofNat n =>
    obtain ⟨c, rest, h, hc⟩ := exists_cons_of_digits n
    exact ⟨c, rest, hc, .inl h⟩
  | negSucc n =>
    obtain ⟨c, rest, h, hc⟩ := exists_cons_of_digits (n + 1)
    exact ⟨c, rest, hc, .inr (congrArg ('-' :: ·) h)⟩

/-- A line with a bullet begins an item. -/
theorem beginsItem_bulletText_append (number : Option Int) (s : List Char) :
    beginsItem (bulletText number ++ s) = true := by
  cases number with
  | none => rfl
  | some n =>
    obtain ⟨c, rest, hc, h | h⟩ := exists_cons_of_write n
    · simp [bulletText, h, beginsItem, ne_of_isDigit hc]
    · simp [bulletText, h, beginsItem]

/-- An indented line begins none. -/
theorem beginsItem_indentLine {width : Nat} (h : width ≠ 0) (line : List Char) :
    beginsItem (indentLine width line) = false := by
  obtain ⟨width, rfl⟩ := Nat.exists_eq_succ_of_ne_zero h
  unfold indentLine
  split <;> rfl

/-- A number is not taken for a dash. -/
theorem not_dash_isPrefixOf_write (n : Int) (s : List Char) :
    ['-', ' '].isPrefixOf (Numeral.write n ++ s) = false := by
  obtain ⟨c, rest, hc, h | h⟩ := exists_cons_of_write n
  · have hdash : '-' ≠ c := (ne_of_isDigit hc rfl).symm
    simp [h, List.isPrefixOf, hdash]
  · have hspace : ' ' ≠ c := (ne_of_isDigit hc rfl).symm
    simp [h, List.isPrefixOf, hspace]

/-- The number of a bullet ends at the point. -/
theorem takeWhile_write_append (n : Int) (s : List Char) :
    (Numeral.write n ++ '.' :: s).takeWhile (· ≠ '.') = Numeral.write n := by
  have hpoint : ∀ c ∈ Numeral.write n, decide (c ≠ '.') = true := by
    intro c hc
    refine decide_eq_true ?_
    cases n with
    | ofNat n => exact ne_of_isDigit (Numeral.isDigit_of_mem_digits hc) rfl
    | negSucc n =>
      rcases List.mem_cons.1 hc with rfl | hc
      · decide
      · exact ne_of_isDigit (Numeral.isDigit_of_mem_digits hc) rfl
  rw [List.takeWhile_append_of_pos hpoint, List.takeWhile_cons_of_neg (by decide), List.append_nil]

/-- The number of an item is read from its first line. -/
theorem readBullet?_bulletText_append (h : ∀ n ∈ number, n.natAbs < Numeral.bound)
    (s : List Char) : readBullet? (bulletText number ++ s) = some number := by
  cases number with
  | none => rfl
  | some n =>
    have hread : Numeral.read (String.ofList (Numeral.write n)) = .ok n :=
      Numeral.read_text_eq_ok_iff.2 ⟨h n rfl, rfl⟩
    have hline : bulletText (some n) ++ s = Numeral.write n ++ '.' :: ' ' :: s := by
      simp [bulletText]
    rw [readBullet?, hline, not_dash_isPrefixOf_write, takeWhile_write_append, hread]
    rfl

/-! ## Items -/

/-- The first line of an item and the others. -/
def itemLines (item : Option Int × List Char) : List Char × List (List Char) :=
  (bulletText item.1 ++ (lines item.2).head (lines_ne_nil item.2),
    (lines item.2).tail.map (indentLine (bulletText item.1).length))

theorem lines_itemText_eq (item : Option Int × List Char) :
    lines (itemText (bulletText item.1) item.2) = (itemLines item).1 :: (itemLines item).2 :=
  lines_itemText item.1 (List.cons_head_tail (lines_ne_nil item.2)).symm

theorem beginsItem_itemLines (item : Option Int × List Char) :
    beginsItem (itemLines item).1 = true ∧
      ∀ line ∈ (itemLines item).2, beginsItem line = false := by
  refine ⟨beginsItem_bulletText_append item.1 _, ?_⟩
  intro marked hmarked
  obtain ⟨line, -, rfl⟩ := List.mem_map.1 hmarked
  exact beginsItem_indentLine (mt List.length_eq_zero_iff.1 (bulletText_ne_nil item.1)) line

/-- An item is read back from its lines. -/
theorem readItem?_itemLines {item : Option Int × List Char}
    (h : ∀ n ∈ item.1, n.natAbs < Numeral.bound) :
    readItem? (itemLines item) = some (item.1, String.ofList item.2) := by
  have hbullet : readBullet? (itemLines item).1 = some item.1 :=
    readBullet?_bulletText_append h _
  have hbody := unmarkLines?_lines_itemText item.1 item.2
  rw [lines_itemText_eq] at hbody
  simp only [readItem?, hbullet, hbody, join_lines, Option.bind_eq_bind, Option.bind_some]
  rfl

/-- Items are read back from their lines. -/
theorem mapM_readItem?_itemLines {items : List (Option Int × List Char)}
    (h : ∀ item ∈ items, ∀ n ∈ item.1, n.natAbs < Numeral.bound) :
    (items.map itemLines).mapM readItem? =
      some (items.map fun item => (item.1, String.ofList item.2)) := by
  induction items with
  | nil => rfl
  | cons item items ih =>
    obtain ⟨hitem, hitems⟩ := List.forall_mem_cons.1 h
    rw [List.map_cons, List.mapM_cons, readItem?_itemLines hitem, ih hitems]
    rfl

/-- Items are read back from the text that they make. -/
theorem readList?_join {items : List (Option Int × List Char)}
    (h : ∀ item ∈ items, ∀ n ∈ item.1, n.natAbs < Numeral.bound) :
    readList? (join ['\n'] (items.map fun item => itemText (bulletText item.1) item.2)) =
      some (items.map fun item => (item.1, String.ofList item.2)) := by
  by_cases hnil : items = []
  · subst hnil
    rfl
  have htext : join ['\n'] (items.map fun item => itemText (bulletText item.1) item.2) ≠ [] := by
    obtain ⟨item, rest, rfl⟩ := List.exists_cons_of_ne_nil hnil
    cases rest <;> simp [itemText_ne_nil]
  have hlines : lines (join ['\n'] (items.map fun item => itemText (bulletText item.1) item.2)) =
      (items.map itemLines).flatMap fun item => item.1 :: item.2 := by
    rw [lines_join_eq_flatMap (by simpa using hnil)]
    simp only [List.flatMap_map, lines_itemText_eq]
  have hcut : cutItems ((items.map itemLines).flatMap fun item => item.1 :: item.2) =
      ([], items.map itemLines) := by
    refine cutItems_flatMap fun item hitem => ?_
    obtain ⟨item, -, rfl⟩ := List.mem_map.1 hitem
    exact beginsItem_itemLines item
  rw [readList?, if_neg htext, hlines, hcut]
  exact mapM_readItem?_itemLines h

/-- What is read from the text of a list are its items: their numbers, one after the other from the
number of the list, and as their bodies the texts of what they show. -/
theorem list_read_back {tag : String} {attrs : List (String × String)} {items : List Display}
    {s : List Char} (hlist : IsList tag attrs number)
    (h : inline (.element tag attrs items) = .ok s) :
    ∃ bodies, (items.mapM fun d => render (itemContent d)) = .ok bodies ∧
      readList? s = some (numberFrom number bodies) := by
  obtain ⟨written, hwritten, rfl⟩ := hlist.exists_listItems h
  obtain ⟨bodies, hbodies, hnumbers, rfl⟩ := exists_bodies_of_listItems hwritten
  refine ⟨bodies.map String.ofList, hbodies, ?_⟩
  rw [readList?_join hnumbers, numberFrom_map]

/-- Three items: one with a list in it, one that shows nothing, and one that is no element. -/
def itemsFromNine : List Display :=
  [.plain "li" [.plain "p" [.text "One"],
      .plain "ul" [.plain "li" [.text "a"], .plain "li" [.text "b"]]],
    .plain "li" [], .text " two "]

/-- The number of digits changes from the first item to the second. The empty line and the list in
the first one belong to its body. -/
theorem list_read_back_from_nine :
    IsList "ol" [("start", "9")] (some 9) ∧
      inline (.element "ol" [("start", "9")] itemsFromNine) =
        .ok "9. One\n\n   - a\n   - b\n10. \n11. two".toList ∧
      readList? "9. One\n\n   - a\n   - b\n10. \n11. two".toList =
        some [(some 9, "One\n\n- a\n- b"), (some 10, ""), (some 11, "two")] := by
  have hlist : IsList "ol" [("start", "9")] (some 9) := .numbers rfl
  have htext : inline (.element "ol" [("start", "9")] itemsFromNine) =
      .ok "9. One\n\n   - a\n   - b\n10. \n11. two".toList := rfl
  obtain ⟨bodies, hbodies, hread⟩ := list_read_back hlist htext
  obtain rfl : ["One\n\n- a\n- b", "", "two"] = bodies := Except.ok.inj hbodies
  exact ⟨hlist, htext, hread⟩

end TicketMarkup.Markdown
