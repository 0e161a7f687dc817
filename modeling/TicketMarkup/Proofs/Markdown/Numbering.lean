import TicketMarkup.Proofs.Format.Shape
import TicketMarkup.Proofs.Markdown.Visible
import TicketMarkup.Proofs.Number.Bound

/-!
# When plain text can be written

Formatted text can be written as plain text exactly if its lists can be numbered: the number in the
`start` attribute of a list has to be read, and the numbers of the items, counted on from it, must
not have too many digits (`IsNumerable`). Nothing else in a text, and no nesting, keeps it from
being written (`exists_render_format_iff`).
-/

namespace TicketMarkup.Markdown

open Display

/-! ## Sequences -/

/-- Whether a node can be written within a text. -/
def Writes (d : Display) : Prop := ∃ s, inline d = .ok s

section Sequences

variable {ds : List Display}

theorem exists_inlines_iff : (∃ s, inlines ds = .ok s) ↔ ∀ d ∈ ds, Writes d := by
  induction ds with
  | nil => simp [inlines]
  | cons d rest ih =>
    simp only [inlines, exists_bind_iff, pure_eq_ok_iff, exists_eq', and_true, exists_and_right,
      ih, List.forall_mem_cons, Writes]

theorem exists_blocks_iff : (∃ parts, blocks ds = .ok parts) ↔ ∀ d ∈ ds, Writes d := by
  induction ds with
  | nil => simp [blocks]
  | cons d rest ih =>
    simp only [blocks, exists_bind_iff, pure_eq_ok_iff, exists_eq', and_true, exists_and_right,
      ih, List.forall_mem_cons, Writes]

/-- A paragraph is written exactly if each of its nodes is. -/
theorem exists_paragraphParts_iff {pending : List Char} :
    (∃ parts, paragraphParts pending ds = .ok parts) ↔ ∀ d ∈ ds, Writes d := by
  induction ds generalizing pending with
  | nil => simp [paragraphParts]
  | cons d rest ih =>
    -- The rest can be written or not whatever the run of content before it is.
    cases hblock : isBlock d <;>
      simp only [paragraphParts, hblock, if_true, Bool.false_eq_true, if_false, exists_bind_iff,
        pure_eq_ok_iff, exists_eq', and_true, exists_and_right, ih, List.forall_mem_cons, Writes]

/-- A bullet is written unless it has a number that is too long. -/
theorem exists_bullet_iff {number : Option Int} :
    (∃ mark, bullet number = .ok mark) ↔ ∀ n ∈ number, n.natAbs < Numeral.bound := by
  cases number with
  | none => simp [bullet]
  | some n =>
    simp only [Option.mem_some_iff, forall_eq', ← Numeral.exists_write?_iff, bullet]
    cases Numeral.write? n <;> simp [Except.map]

/-- The numbers of a list are the first and those counted on from the next. -/
theorem forall_numbers_succ_iff {number : Option Int} {count : Nat} :
    (∀ first ∈ number, ∀ i < count + 1, (first + (i : Int)).natAbs < Numeral.bound) ↔
      (∀ n ∈ number, n.natAbs < Numeral.bound) ∧
        ∀ first ∈ number.map (· + 1), ∀ i < count, (first + (i : Int)).natAbs < Numeral.bound := by
  cases number with
  | none => simp
  | some n =>
    simp only [Option.map_some, Option.mem_some_iff, forall_eq']
    constructor
    · intro h
      refine ⟨by simpa using h 0 (by omega), fun i hi => ?_⟩
      have := h (i + 1) (by omega)
      omega
    · rintro ⟨hfirst, hrest⟩ i hi
      cases i with
      | zero => simpa using hfirst
      | succ i =>
        have := hrest i (by omega)
        omega

/-- Items can be written if their numbers, counted on from the first, can and what stands in them
can. -/
theorem exists_listItems_iff {number : Option Int} :
    (∃ items, listItems number ds = .ok items) ↔
      (∀ first ∈ number, ∀ i < ds.length, (first + (i : Int)).natAbs < Numeral.bound) ∧
        ∀ d ∈ ds, ∃ body, itemBody d = .ok body := by
  induction ds generalizing number with
  | nil => simp [listItems]
  | cons d rest ih =>
    rw [List.length_cons, forall_numbers_succ_iff, List.forall_mem_cons, ← exists_bullet_iff]
    simp only [listItems, exists_bind_iff, pure_eq_ok_iff, exists_eq', and_true, exists_and_right,
      ih]
    constructor
    · rintro ⟨hmark, hbody, hrest, hbodies⟩
      exact ⟨⟨hmark, hrest⟩, hbody, hbodies⟩
    · rintro ⟨⟨hmark, hrest⟩, hbody, hbodies⟩
      exact ⟨hmark, hbody, hrest, hbodies⟩

end Sequences

/-! ## Trees -/

/-- Whether the items of a list can be numbered: the number in its start attribute is read, and the
numbers counted on from it, one for each item of a numbered list, can be written. -/
def IsNumerable : Display → Prop
  | .element tag attrs items => ∃ first, startNumber attrs = .ok first ∧
      (tag = "ol" → ∀ i < items.length, (first + (i : Int)).natAbs < Numeral.bound)
  | _ => True

theorem ofTag_eq_bullets_iff {tag : String} : TagRole.ofTag tag = .bullets ↔ tag = "ul" := by
  unfold TagRole.ofTag
  split <;> simp_all

theorem ofTag_eq_numbers_iff {tag : String} : TagRole.ofTag tag = .numbers ↔ tag = "ol" := by
  unfold TagRole.ofTag
  split <;> simp_all

/-- What stands in an item can be written if the item can. -/
theorem exists_itemBody_iff {d : Display} (h : d.tag? = some "li") :
    (∃ body, itemBody d = .ok body) ↔ Writes d := by
  cases d with
  | element tag attrs children =>
    obtain rfl : tag = "li" := Option.some.inj h
    have hrole : TagRole.ofTag "li" = .plain := rfl
    simp only [Writes, inline, hrole, itemBody, exists_inlines_iff, exists_bind_iff,
      pure_eq_ok_iff, exists_eq', and_true, exists_blocks_iff]
  | _ => cases h

/-- A formatted element is written exactly if all in it is and its own numbers are not too long. -/
theorem writes_element_iff {tag : String} {attrs : List (String × String)}
    {children : List Display} (own : FormattedElement tag attrs children) :
    Writes (.element tag attrs children) ↔
      (∀ c ∈ children, Writes c) ∧
        (tag ∈ ["ul", "ol"] → IsNumerable (.element tag attrs children)) := by
  have hvoid : Html.isVoid tag = true → children = [] := fun h =>
    own.void (by simpa [Html.isVoid, or_comm, or_left_comm] using h)
  have hitems : tag ∈ ["ul", "ol"] →
      ((∀ c ∈ children, ∃ body, itemBody c = .ok body) ↔ ∀ c ∈ children, Writes c) :=
    fun h => forall₂_congr fun c hc => exists_itemBody_iff ((own.items c hc).2 h)
  have hlist : tag ∈ ["ul", "ol"] ↔
      TagRole.ofTag tag = .bullets ∨ TagRole.ofTag tag = .numbers := by
    rw [ofTag_eq_bullets_iff, ofTag_eq_numbers_iff]
    simp
  cases hrole : TagRole.ofTag tag <;> simp only [hrole, reduceCtorEq, or_false, or_true,
    iff_false, iff_true, or_self] at hlist
  case image =>
    have := hvoid (isVoid_of_ofTag (.inl hrole))
    simp [Writes, inline, hrole, hlist, this]
  case lineBreak =>
    have := hvoid (isVoid_of_ofTag (.inr (.inl hrole)))
    simp [Writes, inline, hrole, hlist, this]
  case rule =>
    have := hvoid (isVoid_of_ofTag (.inr (.inr hrole)))
    simp [Writes, inline, hrole, hlist, this]
  case bullets =>
    have htag : tag ≠ "ol" := by
      rw [ofTag_eq_bullets_iff.1 hrole]
      decide
    have hchildren := hitems hlist
    simp only [Writes, inline, hrole, exists_bind_iff, pure_eq_ok_iff, exists_eq', and_true,
      exists_and_right, exists_listItems_iff, hchildren, IsNumerable, htag, false_imp_iff]
    simp [hlist, and_comm]
  case numbers =>
    have htag : tag = "ol" := ofTag_eq_numbers_iff.1 hrole
    have hchildren := hitems hlist
    have hwrites : Writes (.element tag attrs children) ↔ ∃ first, startNumber attrs = .ok first ∧
        (∀ i < children.length, (first + (i : Int)).natAbs < Numeral.bound) ∧
          ∀ c ∈ children, Writes c := by
      simp only [Writes, inline, hrole, exists_bind_iff, pure_eq_ok_iff, exists_eq', and_true,
        exists_listItems_iff, hchildren, Option.mem_some_iff, forall_eq']
    rw [hwrites]
    constructor
    · rintro ⟨first, hfirst, hnumbers, hc⟩
      exact ⟨hc, fun _ => ⟨first, hfirst, fun _ => hnumbers⟩⟩
    · rintro ⟨hc, hnumerable⟩
      obtain ⟨first, hfirst, hnumbers⟩ := hnumerable hlist
      exact ⟨first, hfirst, hnumbers htag, hc⟩
  all_goals
    have hwrites : Writes (.element tag attrs children) ↔ ∀ c ∈ children, Writes c := by
      simp only [Writes, inline, hrole, exists_bind_iff, pure_eq_ok_iff, exists_eq', and_true,
        exists_inlines_iff, exists_blocks_iff, exists_paragraphParts_iff]
    simp [hwrites, hlist]

theorem forall_writes_iff {ds : List Display}
    (h : ∀ d ∈ ds, (Writes d ↔ ∀ list ∈ d.lists, IsNumerable list)) :
    (∀ d ∈ ds, Writes d) ↔ ∀ list ∈ listsIn ds, IsNumerable list := by
  simp only [listsIn_eq_flatMap, List.mem_flatMap, forall_exists_index, and_imp]
  rw [forall₂_congr h]
  exact ⟨fun hall list d hd hlist => hall d hd list hlist,
    fun hall d hd list hlist => hall list d hd hlist⟩

/-- A formatted node can be written exactly if the lists in it can be numbered. -/
theorem writes_iff {d : Display} (h : d.Formatted) :
    Writes d ↔ ∀ list ∈ d.lists, IsNumerable list := by
  induction h with
  | text s => simp [Writes, inline, lists]
  | codeBlock code language => simp [Writes, inline, lists]
  | userLink user => simp [Writes, inline, lists]
  | @element tag attrs children own _ ih =>
    rw [writes_element_iff own, forall_writes_iff ih, lists]
    split
    next htag => simp [htag, and_comm]
    next htag => simp [htag]

/-- Formatted text can be written exactly if its lists can be numbered. -/
theorem exists_render_iff {ds : List Display} (h : ∀ d ∈ ds, d.Formatted) :
    (∃ s, render ds = .ok s) ↔ ∀ list ∈ listsIn ds, IsNumerable list := by
  rw [← forall_writes_iff fun d hd => writes_iff (h d hd), ← exists_blocks_iff, render]
  cases blocks ds <;> simp [Except.map]

/-! ## Formatted markup -/

/-- The numbers of a formatted list are not too long exactly if the first and the last are not. -/
theorem isNumerable_formattedList_iff {ctx : Context} {first : Option Int}
    {items : List (List Node)} :
    IsNumerable (formattedList ctx (first, items)) ↔
      ∀ n ∈ first, n.natAbs < Numeral.bound ∧ n + (items.length : Int) ≤ Numeral.bound := by
  cases first with
  | none =>
    refine iff_of_true ?_ fun n hn => absurd hn (Option.not_mem_none n)
    exact ⟨1, rfl, fun htag => absurd htag (by decide)⟩
  | some n =>
    simp only [formattedList, Option.map_some, listElement, IsNumerable, startNumber, attribute?,
      if_true, Numeral.read_text_eq_ok_iff, List.length_map, forall_const, Option.mem_some_iff,
      forall_eq']
    constructor
    · rintro ⟨first, ⟨hfirst, rfl⟩, hnumbers⟩
      refine ⟨hfirst, ?_⟩
      by_cases hempty : items.length = 0
      · omega
      · have := hnumbers (items.length - 1) (by omega)
        omega
    · rintro ⟨hfirst, hlast⟩
      exact ⟨n, ⟨hfirst, rfl⟩, fun i hi => by omega⟩

/-- Formatted markup can be written as plain text exactly if, in every numbered list at any
nesting, the first number can be written and so can those counted on from it. -/
theorem exists_render_format_iff {ctx : Context} {nodes : List Node} :
    (∃ s, render (format ctx nodes) = .ok s) ↔
      ∀ first items, (some first, items) ∈ nodeLists nodes →
        first.natAbs < Numeral.bound ∧ first + (items.length : Int) ≤ Numeral.bound := by
  rw [exists_render_iff fun d hd => (formatted_of_mem_format hd).2, listsIn_format,
    List.forall_mem_map]
  constructor
  · intro h first items hlist
    exact isNumerable_formattedList_iff.1 (h _ hlist) first rfl
  · rintro h ⟨first, items⟩ hlist
    refine isNumerable_formattedList_iff.2 fun n hn => ?_
    cases hn
    exact h n items hlist

end TicketMarkup.Markdown
