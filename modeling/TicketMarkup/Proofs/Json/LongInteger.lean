import TicketMarkup.Json.Decode

/-!
# Integers that are too long to be read

A text that is not decoded is no JSON text, or has an integer of more than `Numeral.digitLimit`
digits (`exists_figures_of_decode`). Strings are never at fault in this way, and neither are numbers
with a fraction or an exponent.
-/

namespace TicketMarkup.Json

theorem addPart_ne_numeral {part : StringPart} {width : Nat} {fault : NumeralFault}
    {x : Except DecodeFault (List StringPart × Nat)} (h : x ≠ .error (.numeral fault)) :
    addPart part width x ≠ .error (.numeral fault) := by
  rcases x with e | ⟨parts, n⟩
  · exact h
  · simp [addPart]

/-- No string is at fault by a number. -/
theorem stringParts_ne_numeral (start position : Nat) (s : List Char) (fault : NumeralFault) :
    stringParts start position s ≠ .error (.numeral fault) := by
  fun_induction stringParts start position s
  case case4 ih => exact addPart_ne_numeral ih
  case case7 ih => exact addPart_ne_numeral ih
  case case10 ih => exact addPart_ne_numeral ih
  all_goals simp

/-- A number that is not read is an integer with too many digits. -/
theorem numberValue_eq_numeral {negative : Bool} {whole part power : List Char}
    {fault : NumeralFault} (hdigits : ∀ c ∈ whole, c.isDigit = true) (hne : whole ≠ [])
    (h : numberValue negative whole part power = .error (.numeral fault)) :
    Numeral.digitLimit < whole.length ∧ fault = .tooLong whole.length := by
  unfold numberValue at h
  rw [Numeral.read_figures hdigits hne] at h
  by_cases hlength : whole.length ≤ Numeral.digitLimit
  · rw [if_pos hlength] at h
    split at h <;> cases h
  · rw [if_neg hlength] at h
    split at h
    · cases h
      exact ⟨Nat.not_le.1 hlength, rfl⟩
    · cases h

/-- The integer part of a number stands at its beginning. -/
theorem integerPart_isPrefix (s : List Char) : integerPart s <+: s := by
  unfold integerPart
  split
  next rest => exact ⟨rest, rfl⟩
  next => exact List.takeWhile_prefix _

theorem isDigit_of_mem_integerPart {s : List Char} {c : Char} (h : c ∈ integerPart s) :
    c.isDigit = true := by
  unfold integerPart at h
  split at h
  next =>
    rw [List.mem_singleton.1 h]
    rfl
  next => exact List.all_eq_true.1 List.all_takeWhile c h

/-- Whether a text has a run of so many digits, which are more than are read. -/
def HasLongInteger (s : List Char) (length : Nat) : Prop :=
  ∃ figures, figures <:+: s ∧ (∀ c ∈ figures, c.isDigit = true) ∧ figures.length = length ∧
    Numeral.digitLimit < length

/-- A number is at fault by an integer part that is too long. -/
theorem exists_figures_of_numberAt {s : List Char} {width : Nat} {fault : NumeralFault}
    (h : numberAt s = some (.error (.numeral fault), width)) :
    ∃ length, HasLongInteger s length ∧ fault = .tooLong length := by
  simp only [numberAt, Option.ite_none_left_eq_some, Option.some.injEq, Prod.mk.injEq,
    List.isEmpty_iff] at h
  obtain ⟨hne, hvalue, -⟩ := h
  obtain ⟨hlong, rfl⟩ := numberValue_eq_numeral (fun c => isDigit_of_mem_integerPart) hne hvalue
  refine ⟨_, ⟨_, ?_, fun c => isDigit_of_mem_integerPart, rfl, hlong⟩, rfl⟩
  exact (integerPart_isPrefix _).isInfix.trans (List.drop_suffix _ s).isInfix

/-- The fault that a word carries, if any. -/
def Token.fault? : Token → Option DecodeFault
  | text (.error fault) => some fault
  | scalar (.error fault) => some fault
  | _ => none

/-- A word is at fault by a number only if an integer that is too long begins there. -/
theorem exists_figures_of_wordAt {position : Nat} {c : Char} {rest : List Char}
    {fault : NumeralFault} (h : (wordAt position c rest).1.fault? = some (.numeral fault)) :
    ∃ length, HasLongInteger (c :: rest) length ∧ fault = .tooLong length := by
  unfold wordAt at h
  split at h
  · split at h
    · cases h
    next fault' hparts =>
      obtain rfl := Option.some.inj h
      exact absurd hparts (stringParts_ne_numeral _ _ _ _)
  split at h
  · cases h
  split at h
  next v width hnumber =>
    cases v with
    | ok v => cases h
    | error fault' =>
      obtain rfl := Option.some.inj h
      exact exists_figures_of_numberAt hnumber
  · cases h

/-- A token is at fault by a number only if the text has an integer that is too long. -/
theorem exists_figures_of_tokensFrom {skip position : Nat} {s : List Char} {t : Nat × Token}
    {fault : NumeralFault} (ht : t ∈ tokensFrom skip position s)
    (h : t.2.fault? = some (.numeral fault)) :
    ∃ length, HasLongInteger s length ∧ fault = .tooLong length := by
  induction s generalizing skip position with
  | nil => cases ht
  | cons c rest ih =>
    have hrest : (∃ skip position, t ∈ tokensFrom skip position rest) →
        ∃ length, HasLongInteger (c :: rest) length ∧ fault = .tooLong length := by
      rintro ⟨skip, position, hmem⟩
      obtain ⟨length, ⟨figures, hrun, hfigures⟩, hfault⟩ := ih hmem
      exact ⟨length, ⟨figures, hrun.trans (List.suffix_cons c rest).isInfix, hfigures⟩, hfault⟩
    unfold tokensFrom at ht
    split at ht
    · exact hrest ⟨_, _, ht⟩
    split at ht
    · exact hrest ⟨_, _, ht⟩
    rcases List.mem_cons.1 ht with rfl | ht
    · exact exists_figures_of_wordAt h
    · exact hrest ⟨_, _, ht⟩

/-! ## The reader -/

/-- The reader reports the fault of a word as it is. -/
theorem fault?_of_beginValue {frames : List Frame} {t : Token} {fault : DecodeFault}
    (h : ReaderState.beginValue frames t = some (.error fault)) : t.fault? = some fault := by
  unfold ReaderState.beginValue at h
  split at h
  · cases h
  · cases h
  · cases h
  next s => cases s <;> cases h; rfl
  next v => cases v <;> cases h; rfl

/-- A reader that stops at a word where it may stand stops at the fault of the word. -/
theorem fault?_of_next? {state : ReaderState} {t : Token} {fault : DecodeFault}
    (h : state.next? t = some (.error fault)) : t.fault? = some fault := by
  unfold ReaderState.next? at h
  split at h
  case h_1 => exact fault?_of_beginValue h
  case h_3 => exact fault?_of_beginValue h
  case h_5 frames s => cases s <;> cases h; rfl
  case h_7 frames done s => cases s <;> cases h; rfl
  all_goals cases h

/-- A fault by a number is that of one of the words. -/
theorem exists_fault?_of_run {length : Nat} {state : ReaderState} {words : List (Nat × Token)}
    {fault : NumeralFault} (h : ReaderState.run length state words = .error (.numeral fault)) :
    ∃ t ∈ words, t.2.fault? = some (.numeral fault) := by
  induction words generalizing state with
  | nil =>
    unfold ReaderState.run at h
    split at h
    · cases h
    · cases h
    · contradiction
  | cons word rest ih =>
    obtain ⟨position, t⟩ := word
    simp only [ReaderState.run, ReaderState.next] at h
    split at h
    next state' hnext =>
      obtain ⟨t, ht, hfault⟩ := ih h
      exact ⟨t, List.mem_cons_of_mem _ ht, hfault⟩
    next hnext =>
      obtain rfl := Except.error.inj h
      split at hnext
      next hstep => exact ⟨_, List.mem_cons_self, fault?_of_next? (hnext ▸ hstep)⟩
      next => cases hnext

/-- Where a text is not decoded because of a number, a run of digits in it is too long. -/
theorem exists_figures_of_decode {s : List Char} {fault : NumeralFault}
    (h : decode s = .error (.numeral fault)) :
    ∃ length, HasLongInteger s length ∧ fault = .tooLong length := by
  unfold decode at h
  split at h
  · cases h
  · obtain ⟨t, ht, hfault⟩ := exists_fault?_of_run h
    exact exists_figures_of_tokensFrom ht hfault

end TicketMarkup.Json
