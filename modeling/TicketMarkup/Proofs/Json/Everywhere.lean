import TicketMarkup.Json.Decode
import TicketMarkup.Json.Display
import TicketMarkup.Json.Integer
import TicketMarkup.Proofs.Number.Bound

/-!
# What holds everywhere in decoded data

A value holds the items of an array or the values of the fields of an object (`Json.parts`). A
condition that holds of the numbers and names in a JSON text, of every string, and of every array
and object, holds everywhere in the value that the text is decoded to
(`Json.everywhere_of_decode`): the reader keeps it of all the values that it has read so far.

So every integer that a decoded value stands for is less than `Numeral.bound`
(`Json.hasShortInteger_of_decode`).
-/

namespace TicketMarkup.Json

/-! ## Values in values -/

/-- The values that stand in a value, one level down. -/
def parts : Json → List Json
  | arr items => items
  | obj fields => fields.map Prod.snd
  | _ => []

/-- Whether a condition holds of a value and of every value in it. -/
inductive Everywhere (P : Json → Prop) : Json → Prop where
  | mk {v : Json} (own : P v) (parts : ∀ w ∈ v.parts, Everywhere P w) : Everywhere P v

variable {P : Json → Prop}

/-- What holds everywhere in a value holds of the value. -/
theorem Everywhere.own {v : Json} (h : v.Everywhere P) : P v := by
  cases h with
  | mk own parts => exact own

/-- What holds everywhere in a value holds everywhere in its parts. -/
theorem Everywhere.of_mem_parts {v w : Json} (h : v.Everywhere P) (hw : w ∈ v.parts) :
    w.Everywhere P := by
  cases h with
  | mk own parts => exact parts w hw

theorem sizeOf_lt_of_mem_parts {v w : Json} (h : w ∈ v.parts) : sizeOf w < sizeOf v := by
  cases v with
  | arr items =>
    have := List.sizeOf_lt_of_mem (show w ∈ items from h)
    simp only [arr.sizeOf_spec]
    omega
  | obj fields =>
    obtain ⟨⟨k, v⟩, hf, rfl⟩ := List.mem_map.1 h
    have := List.sizeOf_lt_of_mem hf
    simp only [obj.sizeOf_spec, Prod.mk.sizeOf_spec] at this ⊢
    omega
  | _ => cases h

/-- What holds of every value holds everywhere. -/
theorem everywhere_of_forall (h : ∀ v, P v) (v : Json) : v.Everywhere P :=
  .mk (h v) fun w _ => everywhere_of_forall h w
termination_by sizeOf v
decreasing_by exact sizeOf_lt_of_mem_parts ‹_›

/-- A field that is found is among the fields. -/
theorem mem_of_get? {key : String} {fields : Fields} {v : Json}
    (h : Fields.get? key fields = some v) : (key, v) ∈ fields := by
  induction fields with
  | nil => cases h
  | cons f rest ih =>
    obtain ⟨k, w⟩ := f
    rw [Fields.get?] at h
    split at h
    next hk =>
      cases h
      exact hk ▸ List.mem_cons_self
    next => exact List.mem_cons_of_mem _ (ih h)

theorem mem_parts_of_get? {key : String} {fields : Fields} {v : Json}
    (h : Fields.get? key fields = some v) : v ∈ (obj fields).parts :=
  List.mem_map.2 ⟨_, mem_of_get? h, rfl⟩

/-- A field after another was written is that one or was there before. -/
theorem mem_insert {key : String} {v : Json} {fields : Fields} {f : String × Json}
    (h : f ∈ Fields.insert key v fields) : f.2 = v ∨ f ∈ fields := by
  induction fields with
  | nil =>
    rw [Fields.insert, List.mem_singleton] at h
    exact .inl (h ▸ rfl)
  | cons g rest ih =>
    obtain ⟨k, w⟩ := g
    rw [Fields.insert] at h
    split at h
    · rcases List.mem_cons.1 h with rfl | h
      · exact .inl rfl
      · exact .inr (List.mem_cons_of_mem _ h)
    · rcases List.mem_cons.1 h with rfl | h
      · exact .inr List.mem_cons_self
      · exact (ih h).imp_right (List.mem_cons_of_mem _)

/-! ## The reader -/

/-- Whether a condition holds everywhere in the values of an open container. -/
def Frame.Holds (P : Json → Prop) : Frame → Prop
  | .items done => ∀ v ∈ done, v.Everywhere P
  | .fields done _ => ∀ f ∈ done, f.2.Everywhere P

/-- Whether a condition holds everywhere in the values that a reader has read so far. -/
def ReaderState.Holds (P : Json → Prop) : ReaderState → Prop
  | value frames => ∀ f ∈ frames, f.Holds P
  | firstItem frames => ∀ f ∈ frames, f.Holds P
  | firstKey frames => ∀ f ∈ frames, f.Holds P
  | key frames done => (∀ f ∈ frames, f.Holds P) ∧ ∀ f ∈ done, f.2.Everywhere P
  | colon frames done _ => (∀ f ∈ frames, f.Holds P) ∧ ∀ f ∈ done, f.2.Everywhere P
  | after frames v => (∀ f ∈ frames, f.Holds P) ∧ v.Everywhere P

/-- Whether a condition holds of the value that a word writes, if it writes one. -/
def Token.Holds (P : Json → Prop) : Token → Prop
  | scalar (.ok v) => v.Everywhere P
  | _ => True

/-- Setting a field keeps what holds everywhere, if it holds everywhere in the new value. -/
theorem everywhere_insert {key : String} {v : Json} {fields : Fields} (hv : v.Everywhere P)
    (h : ∀ f ∈ fields, f.2.Everywhere P) : ∀ f ∈ Fields.insert key v fields, f.2.Everywhere P := by
  intro f hf
  rcases mem_insert hf with heq | hmem
  · exact heq ▸ hv
  · exact h f hmem

section Reader

variable (hP : ∀ v : Json, v.type ∈ [.str, .arr, .obj] → P v)

include hP

theorem everywhere_str (s : String) : (str s).Everywhere P :=
  .mk (hP _ (by simp [type])) (List.forall_mem_nil _)

theorem everywhere_arr {items : List Json} (h : ∀ v ∈ items, v.Everywhere P) :
    (arr items).Everywhere P :=
  .mk (hP _ (by simp [type])) h

theorem everywhere_obj {fields : Fields} (h : ∀ f ∈ fields, f.2.Everywhere P) :
    (obj fields).Everywhere P := by
  refine .mk (hP _ (by simp [type])) fun v hv => ?_
  obtain ⟨f, hf, rfl⟩ := List.mem_map.1 hv
  exact h f hf

/-- The reader keeps what holds of the words when a value begins. -/
theorem holds_of_beginValue {frames : List Frame} (hframes : ∀ f ∈ frames, f.Holds P) {t : Token}
    (ht : t.Holds P) {state : ReaderState}
    (h : ReaderState.beginValue frames t = some (.ok state)) : state.Holds P := by
  unfold ReaderState.beginValue at h
  split at h
  · cases h
    exact hframes
  · cases h
    exact hframes
  · cases h
  next s =>
    cases s with
    | error fault => cases h
    | ok s =>
      cases h
      exact ⟨hframes, everywhere_str hP s⟩
  next v =>
    cases v with
    | error fault => cases h
    | ok v =>
      cases h
      exact ⟨hframes, ht⟩

/-- A word keeps the condition on the values read so far. -/
theorem holds_of_next? {state state' : ReaderState} (hstate : state.Holds P) {t : Token}
    (ht : t.Holds P) (h : state.next? t = some (.ok state')) : state'.Holds P := by
  unfold ReaderState.next? at h
  split at h
  case h_1 frames => exact holds_of_beginValue hP hstate ht h
  case h_2 frames =>
    cases h
    exact ⟨hstate, everywhere_arr hP (List.forall_mem_nil _)⟩
  case h_3 frames t _ =>
    refine holds_of_beginValue hP (List.forall_mem_cons.2 ⟨?_, hstate⟩) ht h
    exact List.forall_mem_nil _
  case h_4 frames =>
    cases h
    exact ⟨hstate, everywhere_obj hP (List.forall_mem_nil _)⟩
  case h_5 frames s =>
    cases s with
    | error fault => cases h
    | ok s =>
      cases h
      exact ⟨hstate, List.forall_mem_nil _⟩
  case h_7 frames done s =>
    cases s with
    | error fault => cases h
    | ok s =>
      cases h
      exact hstate
  case h_9 frames done k =>
    cases h
    exact List.forall_mem_cons.2 ⟨hstate.2, hstate.1⟩
  case h_11 done frames v =>
    cases h
    obtain ⟨⟨hdone, hframes⟩, hv⟩ := hstate.imp_left List.forall_mem_cons.1
    refine List.forall_mem_cons.2 ⟨?_, hframes⟩
    exact List.forall_mem_cons.2 ⟨hv, hdone⟩
  case h_12 done frames v =>
    cases h
    obtain ⟨⟨hdone, hframes⟩, hv⟩ := hstate.imp_left List.forall_mem_cons.1
    refine ⟨hframes, everywhere_arr hP fun w hw => ?_⟩
    exact List.forall_mem_cons.2 ⟨hv, hdone⟩ w (List.mem_reverse.1 hw)
  case h_13 done k frames v =>
    cases h
    obtain ⟨⟨hdone, hframes⟩, hv⟩ := hstate.imp_left List.forall_mem_cons.1
    exact ⟨hframes, everywhere_insert hv hdone⟩
  case h_14 done k frames v =>
    cases h
    obtain ⟨⟨hdone, hframes⟩, hv⟩ := hstate.imp_left List.forall_mem_cons.1
    exact ⟨hframes, everywhere_obj hP (everywhere_insert hv hdone)⟩
  all_goals cases h

/-- What the reader gives is made of words, and has what holds of these. -/
theorem everywhere_of_run {length : Nat} {state : ReaderState} {words : List (Nat × Token)}
    {v : Json} (hstate : state.Holds P) (hwords : ∀ t ∈ words, t.2.Holds P)
    (h : ReaderState.run length state words = .ok v) : v.Everywhere P := by
  induction words generalizing state with
  | nil =>
    unfold ReaderState.run at h
    split at h
    · cases h
      exact hstate.2
    · cases h
    · contradiction
  | cons word rest ih =>
    obtain ⟨hword, hrest⟩ := List.forall_mem_cons.1 hwords
    obtain ⟨position, t⟩ := word
    simp only [ReaderState.run, ReaderState.next] at h
    split at h
    next state' hnext =>
      split at hnext
      next outcome hstep => exact ih (holds_of_next? hP hstate hword (hnext ▸ hstep)) hrest h
      next => cases hnext
    next => cases h

end Reader

/-! ## Words -/

section Words

variable (hnames : ∀ name ∈ names, P name.2)
  (hnumbers : ∀ negative whole part power v, numberValue negative whole part power = .ok v → P v)

theorem parts_numberValue {negative : Bool} {whole part power : List Char} {v : Json}
    (h : numberValue negative whole part power = .ok v) : v.parts = [] := by
  unfold numberValue at h
  split at h
  · split at h <;> cases h
    rfl
  · cases h
    rfl

theorem parts_of_mem_names : ∀ name ∈ names, name.2.parts = [] := by
  simp [names, parts]

include hnames hnumbers

/-- What holds of names, strings and numbers holds of each word. -/
theorem holds_wordAt (position : Nat) (c : Char) (rest : List Char) :
    (wordAt position c rest).1.Holds P := by
  unfold wordAt
  split
  · split <;> trivial
  split
  next name v hfind =>
    have hmem := List.mem_of_find?_eq_some hfind
    refine .mk (hnames _ hmem) ?_
    rw [parts_of_mem_names _ hmem]
    exact List.forall_mem_nil _
  split
  next v width hnumber =>
    cases v with
    | error fault => trivial
    | ok v =>
      simp only [numberAt, Option.ite_none_left_eq_some, Option.some.injEq,
        Prod.mk.injEq] at hnumber
      obtain ⟨-, hvalue, -⟩ := hnumber
      refine .mk (hnumbers _ _ _ _ v hvalue) ?_
      rw [parts_numberValue hvalue]
      exact List.forall_mem_nil _
  next => trivial

theorem holds_tokensFrom {skip position : Nat} {s : List Char} :
    ∀ t ∈ tokensFrom skip position s, t.2.Holds P := by
  induction s generalizing skip position with
  | nil => exact List.forall_mem_nil _
  | cons c rest ih =>
    unfold tokensFrom
    split
    · exact ih
    split
    · exact ih
    · exact List.forall_mem_cons.2 ⟨holds_wordAt hnames hnumbers position c rest, ih⟩

end Words

/-- What holds of the numbers and the names in a text, and of all texts, arrays and objects, holds
everywhere in the value that the text is decoded to. -/
theorem everywhere_of_decode (hP : ∀ v : Json, v.type ∈ [.str, .arr, .obj] → P v)
    (hnames : ∀ name ∈ names, P name.2)
    (hnumbers : ∀ negative whole part power v, numberValue negative whole part power = .ok v → P v)
    {s : List Char} {v : Json} (h : decode s = .ok v) : v.Everywhere P := by
  unfold decode at h
  split at h
  · cases h
  · have hstart : (ReaderState.value []).Holds P := List.forall_mem_nil _
    exact everywhere_of_run hP hstart (holds_tokensFrom hnames hnumbers) h

/-! ## Integers -/

/-- Whether the integer that a value stands for, if there is one, can be written. -/
def HasShortInteger (v : Json) : Prop := ∀ n, v.toInteger = .ok n → n.natAbs < Numeral.bound

/-- A number that is read has no integer with too many digits. -/
theorem hasShortInteger_numberValue {negative : Bool} {whole part power : List Char} {v : Json}
    (h : numberValue negative whole part power = .ok v) : v.HasShortInteger := by
  unfold numberValue at h
  intro n hn
  split at h
  · split at h <;> cases h
    next m hread =>
      cases hn
      exact Numeral.natAbs_lt_of_read hread
  · cases h
    exact Binary64.natAbs_lt_bound_of_truncate? (Binary64.wellFormed_ofDecimal _ _ _)
      (toInteger_float_eq_ok_iff.1 hn)

theorem hasShortInteger_of_mem_names : ∀ name ∈ names, name.2.HasShortInteger := by
  have hone : Nat.pow 2 1 ≤ Numeral.bound := Numeral.two_pow_le_bound (by decide)
  have hnull : null.HasShortInteger := fun n hn => by cases hn
  have htrue : (bool true).HasShortInteger := fun n hn => by
    cases hn
    exact hone
  have hfalse : (bool false).HasShortInteger := fun n hn => by
    cases hn
    exact Nat.lt_of_lt_of_le (by decide) hone
  have hfloat : ∀ x : Binary64, x.truncate? = none → (float x).HasShortInteger := by
    intro x hx n hn
    rw [toInteger_float_eq_ok_iff, hx] at hn
    cases hn
  simp only [names, List.forall_mem_cons]
  exact ⟨hnull, htrue, hfalse, hfloat _ rfl, hfloat _ rfl, hfloat _ rfl, List.forall_mem_nil _⟩

/-- Every integer that a value in a decoded text stands for can be written. -/
theorem hasShortInteger_of_decode {s : List Char} {v : Json} (h : decode s = .ok v) :
    v.Everywhere HasShortInteger := by
  refine everywhere_of_decode (fun w hw n hn => ?_) hasShortInteger_of_mem_names
    (fun _ _ _ _ _ => hasShortInteger_numberValue) h
  cases w with
  | str s => exact Numeral.natAbs_lt_of_read (toInteger_str_eq_ok_iff.1 hn)
  | arr | obj => cases hn
  | _ => simp [type] at hw

/-- An integer below the bound can be written. -/
theorem isWritable_int {n : Int} (h : n.natAbs < Numeral.bound) : (int n).isWritable = true := by
  obtain ⟨s, hs⟩ := Numeral.exists_write?_iff.2 h
  rw [isWritable, hs]
  rfl

/-- A value can be written if every integer that stands in it can. -/
theorem isWritable_of_everywhere {v : Json} (h : v.Everywhere HasShortInteger) :
    v.isWritable = true := by
  induction h with
  | @mk v own _ ih =>
    cases v with
    | int n => exact isWritable_int (own n rfl)
    | arr items =>
      rw [isWritable, areWritable_eq_all]
      exact List.all_eq_true.2 ih
    | obj fields =>
      rw [isWritable, fieldsWritable_eq_all]
      exact List.all_eq_true.2 fun f hf => ih f.2 (List.mem_map_of_mem hf)
    | _ => rfl

end TicketMarkup.Json
