import Mathlib.Tactic.SplitIfs
import TicketMarkup.Display.Html

/-!
# Entities

`escape` replaces one special character after the other in the whole text. Here it is shown to be a
map on characters (`escape_eq_flatMap`), so nothing that one replacement writes is touched by a
later one, and `decode`, which reads entities from left to right in one pass, is its inverse
(`decode_escape`). What is escaped holds no angle bracket, and in an attribute no double quote, so
a reader of tags does not stop inside of it.
-/

namespace TicketMarkup.Html

/-! ## Character by character -/

/-- A character as it stands in a text, or in the value of an attribute. -/
def entity (inAttribute : Bool) (c : Char) : List Char :=
  if c = '&' then "&amp;".toList
  else if c = '<' then "&lt;".toList
  else if c = '>' then "&gt;".toList
  else if inAttribute && c = '"' then "&quot;".toList
  else [c]

theorem replace_singleton_of_ne {c d : Char} (h : d ≠ c) (new : List Char) :
    replace c new [d] = [d] := by
  simp [replace, h]

/-- A single character is escaped to its entity. -/
theorem escape_singleton (inAttribute : Bool) (c : Char) :
    escape inAttribute [c] = entity inAttribute c := by
  unfold entity
  split_ifs with hamp hlt hgt hquote
  · subst hamp
    cases inAttribute <;> rfl
  · subst hlt
    cases inAttribute <;> rfl
  · subst hgt
    cases inAttribute <;> rfl
  · obtain ⟨rfl, rfl⟩ : inAttribute = true ∧ c = '"' := by simpa using hquote
    rfl
  · have hc : inAttribute = true → c ≠ '"' := by
      simpa only [Bool.and_eq_true, decide_eq_true_eq, not_and] using hquote
    simp only [escape, replace_singleton_of_ne hamp, replace_singleton_of_ne hlt,
      replace_singleton_of_ne hgt]
    split_ifs with hattr
    · exact replace_singleton_of_ne (hc hattr) _
    · rfl

/-- The replacements in the whole text act on each character by itself. -/
theorem escape_eq_flatMap (inAttribute : Bool) (s : List Char) :
    escape inAttribute s = s.flatMap (entity inAttribute) := by
  induction s with
  | nil => exact escape_nil inAttribute
  | cons c s ih => rw [escape_cons, escape_singleton, ih, List.flatMap_cons]

/-- A character that ends a text, or the value of an attribute, is written as an entity. -/
theorem notMem_escape {inAttribute : Bool} {d : Char}
    (hd : d = '<' ∨ d = '>' ∨ inAttribute = true ∧ d = '"') (s : List Char) :
    d ∉ escape inAttribute s := by
  rw [escape_eq_flatMap, List.mem_flatMap]
  rintro ⟨c, -, hc⟩
  have hmark : ∀ e ∈ ["&amp;", "&lt;", "&gt;", "&quot;"], d ∉ e.toList := by
    rcases hd with rfl | rfl | ⟨-, rfl⟩ <;> decide
  unfold entity at hc
  split_ifs at hc with hamp hlt hgt hquote
  · exact hmark _ (by decide) hc
  · exact hmark _ (by decide) hc
  · exact hmark _ (by decide) hc
  · exact hmark _ (by decide) hc
  · obtain rfl := List.mem_singleton.1 hc
    rcases hd with rfl | rfl | ⟨hattr, rfl⟩
    · exact hlt rfl
    · exact hgt rfl
    · exact hquote (by simp [hattr])

/-- No tag begins in an escaped text. -/
theorem lt_notMem_escape (inAttribute : Bool) (s : List Char) : '<' ∉ escape inAttribute s :=
  notMem_escape (.inl rfl) s

/-- No quotation mark ends an escaped attribute. -/
theorem quote_notMem_escape (s : List Char) : '"' ∉ escape true s :=
  notMem_escape (.inr (.inr ⟨rfl, rfl⟩)) s

/-! ## Decoding -/

/-- A text with its entities replaced by the characters that they stand for, in one pass. Any other
ampersand stays. -/
def decode : List Char → List Char
  | '&' :: 'a' :: 'm' :: 'p' :: ';' :: rest => '&' :: decode rest
  | '&' :: 'l' :: 't' :: ';' :: rest => '<' :: decode rest
  | '&' :: 'g' :: 't' :: ';' :: rest => '>' :: decode rest
  | '&' :: 'q' :: 'u' :: 'o' :: 't' :: ';' :: rest => '"' :: decode rest
  | c :: rest => c :: decode rest
  | [] => []

theorem decode_cons_of_ne {c : Char} (h : c ≠ '&') (s : List Char) :
    decode (c :: s) = c :: decode s := by
  rw [decode] <;> simp [h]

/-- The entity of a character is decoded to it, whatever follows. -/
theorem decode_entity_append (inAttribute : Bool) (c : Char) (s : List Char) :
    decode (entity inAttribute c ++ s) = c :: decode s := by
  unfold entity
  split_ifs with hamp hlt hgt hquote
  · rw [hamp]
    rfl
  · rw [hlt]
    rfl
  · rw [hgt]
    rfl
  · obtain ⟨-, rfl⟩ : inAttribute = true ∧ c = '"' := by simpa using hquote
    rfl
  · exact decode_cons_of_ne hamp s

/-- Decoding undoes escaping. -/
theorem decode_escape (inAttribute : Bool) (s : List Char) :
    decode (escape inAttribute s) = s := by
  induction s with
  | nil =>
    rw [escape_nil]
    rfl
  | cons c s ih => rw [escape_cons, escape_singleton, decode_entity_append, ih]

example : decode (escape false "&amp;lt; <b>".toList) = "&amp;lt; <b>".toList := by decide

/-- Only the empty text is escaped to nothing. -/
theorem escape_eq_nil_iff {inAttribute : Bool} {s : List Char} :
    escape inAttribute s = [] ↔ s = [] := by
  constructor
  · intro h
    rw [← decode_escape inAttribute s, h]
    rfl
  · rintro rfl
    exact escape_nil inAttribute

end TicketMarkup.Html
