import Mathlib.Data.List.Infix
import TicketMarkup.Proofs.Html.Entity

/-!
# Escaped texts

A text is escaped if it has no angle brackets, no double quotes where these end a value, and no
ampersands but those that begin entities (`IsEscaped`). These are the texts that escaping makes, no
more and no fewer (`exists_escape_iff`), so `escape` and `decode` are inverse to each other between
all texts and the escaped ones. A text that looks escaped already is no exception: its ampersands
are escaped like any other, and decoding it once gives it back as it was.
-/

namespace TicketMarkup.Html

variable {inAttribute : Bool}

/-- The entities that stand in texts, or in the values of attributes. -/
def entities (inAttribute : Bool) : List (List Char) :=
  ["&amp;".toList, "&lt;".toList, "&gt;".toList] ++ if inAttribute then ["&quot;".toList] else []

/-- Whether nothing in a text ends it, and every ampersand begins an entity. -/
structure IsEscaped (inAttribute : Bool) (t : List Char) : Prop where
  lt_notMem : '<' ∉ t
  gt_notMem : '>' ∉ t
  quote_notMem : inAttribute = true → '"' ∉ t
  /-- From any ampersand on, the text begins with an entity. -/
  ampersand : ∀ rest, '&' :: rest <:+ t → ∃ e ∈ entities inAttribute, e <+: '&' :: rest

/-! ## Characters and entities -/

/-- A character is escaped to one of the entities, or else it stays and is no ampersand. -/
theorem entity_mem_or_eq (inAttribute : Bool) (c : Char) :
    entity inAttribute c ∈ entities inAttribute ∨ c ≠ '&' ∧ entity inAttribute c = [c] := by
  have hmem : ∀ e ∈ ["&amp;", "&lt;", "&gt;"], e.toList ∈ entities inAttribute := by
    cases inAttribute <;> decide
  unfold entity
  split_ifs with hamp hlt hgt hquote
  · exact .inl (hmem _ (by decide))
  · exact .inl (hmem _ (by decide))
  · exact .inl (hmem _ (by decide))
  · rw [(Bool.and_eq_true_iff.1 hquote).1]
    exact .inl (by decide)
  · exact .inr ⟨hamp, rfl⟩

theorem exists_of_mem_entities {e : List Char} (h : e ∈ entities inAttribute) :
    ∃ c, entity inAttribute c = e := by
  have hall : ∀ q, ∀ e ∈ entities q, e ∈ ['&', '<', '>', '"'].map (entity q) := by decide
  obtain ⟨c, -, hc⟩ := List.mem_map.1 (hall inAttribute e h)
  exact ⟨c, hc⟩

/-- An entity begins with its only ampersand. -/
theorem exists_tail_of_mem_entities {e : List Char} (h : e ∈ entities inAttribute) :
    ∃ tail, e = '&' :: tail ∧ '&' ∉ tail := by
  have hall : ∀ q, ∀ e ∈ entities q, e = '&' :: e.tail ∧ '&' ∉ e.tail := by decide
  exact ⟨e.tail, hall inAttribute e h⟩

/-- No character is escaped to nothing. -/
theorem entity_ne_nil (inAttribute : Bool) (c : Char) : entity inAttribute c ≠ [] := by
  rcases entity_mem_or_eq inAttribute c with hmem | ⟨-, heq⟩
  · obtain ⟨tail, heq, -⟩ := exists_tail_of_mem_entities hmem
    simp [heq]
  · simp [heq]

/-! ## What escaping makes -/

/-- What begins with a character begins after a text without that character. -/
theorem suffix_of_suffix_append {c : Char} {a t rest : List Char} (hc : c ∉ a)
    (h : c :: rest <:+ a ++ t) : c :: rest <:+ t := by
  induction a with
  | nil => exact h
  | cons d a ih =>
    obtain ⟨hd, ha⟩ := not_or.1 (mt List.mem_cons.2 hc)
    rcases List.suffix_cons_iff.1 h with heq | h
    · exact absurd (List.cons.inj heq).1 hd
    · exact ih ha h

/-- An ampersand in what a character is written as begins an entity there. -/
theorem ampersand_of_suffix_append {c : Char} {t rest : List Char}
    (h : '&' :: rest <:+ entity inAttribute c ++ t) :
    '&' :: rest <:+ t ∨ ∃ e ∈ entities inAttribute, e <+: '&' :: rest := by
  rcases entity_mem_or_eq inAttribute c with hmem | ⟨hamp, heq⟩
  · obtain ⟨tail, heq, htail⟩ := exists_tail_of_mem_entities hmem
    rw [heq, List.cons_append] at h
    rcases List.suffix_cons_iff.1 h with hwhole | h
    · exact .inr ⟨_, hmem, t, by rw [heq, hwhole, List.cons_append]⟩
    · exact .inl (suffix_of_suffix_append htail h)
  · rw [heq] at h
    exact .inl (suffix_of_suffix_append (by simpa using hamp.symm) h)

/-- What is escaped is an escaped text. -/
theorem isEscaped_escape (inAttribute : Bool) (s : List Char) :
    IsEscaped inAttribute (escape inAttribute s) := by
  refine ⟨notMem_escape (.inl rfl) s, notMem_escape (.inr (.inl rfl)) s,
    fun hattr => notMem_escape (.inr (.inr ⟨hattr, rfl⟩)) s, fun rest h => ?_⟩
  induction s with
  | nil =>
    rw [escape_nil] at h
    cases List.suffix_nil.1 h
  | cons c s ih =>
    rw [escape_cons, escape_singleton] at h
    rcases ampersand_of_suffix_append h with h | hentity
    · exact ih h
    · exact hentity

/-! ## What an escaped text is made from -/

namespace IsEscaped

variable {c : Char} {t t' : List Char}

/-- The end of an escaped text is an escaped text, wherever it begins. -/
theorem of_suffix (h : IsEscaped inAttribute t) (ht : t' <:+ t) : IsEscaped inAttribute t' where
  lt_notMem := fun hmem => h.lt_notMem (ht.subset hmem)
  gt_notMem := fun hmem => h.gt_notMem (ht.subset hmem)
  quote_notMem := fun hattr hmem => h.quote_notMem hattr (ht.subset hmem)
  ampersand := fun rest hrest => h.ampersand rest (hrest.trans ht)

theorem entity_eq (h : IsEscaped inAttribute (c :: t)) (hamp : c ≠ '&') :
    entity inAttribute c = [c] := by
  have hlt : c ≠ '<' := fun hc => h.lt_notMem (hc ▸ List.mem_cons_self)
  have hgt : c ≠ '>' := fun hc => h.gt_notMem (hc ▸ List.mem_cons_self)
  have hquote : ¬(inAttribute && decide (c = '"')) = true := by
    rw [Bool.and_eq_true, decide_eq_true_eq]
    rintro ⟨hattr, rfl⟩
    exact h.quote_notMem hattr List.mem_cons_self
  rw [entity, if_neg hamp, if_neg hlt, if_neg hgt, if_neg hquote]

/-- An escaped text begins with what some character is written as. -/
theorem exists_entity_append (h : IsEscaped inAttribute t) (hne : t ≠ []) :
    ∃ c rest, t = entity inAttribute c ++ rest := by
  obtain ⟨c, t, rfl⟩ := List.exists_cons_of_ne_nil hne
  by_cases hamp : c = '&'
  · subst hamp
    obtain ⟨e, he, rest, hrest⟩ := h.ampersand t (List.suffix_refl _)
    obtain ⟨c, rfl⟩ := exists_of_mem_entities he
    exact ⟨c, rest, hrest.symm⟩
  · exact ⟨c, t, by rw [h.entity_eq hamp, List.singleton_append]⟩

/-- Escaping undoes decoding where a text is escaped. -/
theorem escape_decode {t : List Char} (h : IsEscaped inAttribute t) :
    escape inAttribute (decode t) = t := by
  -- the recursion takes off what one character is written as, which `decode` reads in one step
  by_cases hnil : t = []
  · rw [hnil]
    exact escape_nil inAttribute
  · obtain ⟨c, rest, heq⟩ := h.exists_entity_append hnil
    have hrest : rest <:+ t := ⟨entity inAttribute c, heq.symm⟩
    rw [heq, decode_entity_append, escape_cons, escape_singleton,
      escape_decode (h.of_suffix hrest)]
termination_by t.length
decreasing_by
  have hlength := List.length_pos_of_ne_nil (entity_ne_nil inAttribute c)
  rw [heq, List.length_append]
  omega

end IsEscaped

/-- The escaped texts are exactly what escaping gives. -/
theorem exists_escape_iff {t : List Char} :
    (∃ s, escape inAttribute s = t) ↔ IsEscaped inAttribute t := by
  constructor
  · rintro ⟨s, rfl⟩
    exact isEscaped_escape inAttribute s
  · exact fun h => ⟨decode t, h.escape_decode⟩

/-- Texts are told apart by what they are escaped to. -/
theorem escape_injective (inAttribute : Bool) : Function.Injective (escape inAttribute) :=
  Function.LeftInverse.injective (decode_escape inAttribute)

/-- The replacements in the whole text are one substitution, character by character. It makes
exactly the escaped texts, and decoding in one pass undoes it. -/
theorem escape_faithful (inAttribute : Bool) :
    (∀ s, escape inAttribute s = s.flatMap (entity inAttribute)) ∧
    (∀ t, (∃ s, escape inAttribute s = t) ↔ IsEscaped inAttribute t) ∧
    (∀ s t, escape inAttribute (s ++ t) = escape inAttribute s ++ escape inAttribute t) ∧
    (∀ s, decode (escape inAttribute s) = s) ∧
    Function.Injective (escape inAttribute) :=
  ⟨escape_eq_flatMap inAttribute, fun _ => exists_escape_iff, escape_append inAttribute,
    decode_escape inAttribute, escape_injective inAttribute⟩

end TicketMarkup.Html
