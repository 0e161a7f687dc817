import TicketMarkup.Format.Written
import TicketMarkup.Proofs.Markdown.Numbering
import TicketMarkup.Proofs.Source.Grammar
import TicketMarkup.Proofs.Source.Origins

/-!
# Accepted markup as plain text

The first number of every list in markup that was loaded from a decoded text is less than
`Numeral.bound`, so that it is read back from the `start` attribute. The numbers of the items are
counted on from it, and the only markup that cannot be written as plain text is that in which one of
them reaches the bound (`exists_render_of_load`). A list of two items from the number of as many
nines as digits are read is such markup.

The identifiers in such markup can be written as well, so that whether there is a display tree at
all is decided by what a context adds, which need not have been decoded from a text.
-/

namespace TicketMarkup

/-! ## Lists in loaded markup -/

/-- The lists of a sequence are those of its nodes. -/
theorem mem_nodeLists {list : Option Int × List (List Node)} {nodes : List Node} :
    list ∈ nodeLists nodes ↔ ∃ n ∈ nodes, list ∈ n.lists := by
  induction nodes with
  | nil => simp [nodeLists]
  | cons n rest ih => simp [nodeLists, ih]

theorem mem_itemLists {list : Option Int × List (List Node)} {items : List (List Node)} :
    list ∈ itemLists items ↔ ∃ item ∈ items, list ∈ nodeLists item := by
  induction items with
  | nil => simp [itemLists]
  | cons item rest ih => simp [itemLists, ih]

/-- A list in a node is the node itself or stands in one of its sequences. -/
theorem mem_lists {first : Option Int} {items : List (List Node)} {n : Node}
    (h : (first, items) ∈ n.lists) :
    n = .list first items ∨ ∃ s ∈ n.sequences, (first, items) ∈ nodeLists s := by
  cases n with
  | list first' items' =>
    rw [Node.lists, List.mem_cons] at h
    rcases h with heq | h
    · cases heq
      exact .inl rfl
    · exact .inr (mem_itemLists.1 h)
  | quote children | styled style children => exact .inr ⟨children, List.mem_singleton_self _, h⟩
  | link url label text =>
    cases label with
    | none => simp [Node.lists, labelLists] at h
    | some nodes => exact .inr ⟨nodes, List.mem_singleton_self _, h⟩
  | _ => simp [Node.lists] at h

/-- The first number of a loaded list, at any nesting, is one or was given by a value in the
data. -/
theorem first_of_mem_nodeLists {P : Json → Prop} (hP : Json.Inherited P) {limit : Int}
    {depth : Nat} {nodes : List Node} (h : IsLoaded P limit depth nodes) {first : Int}
    {items : List (List Node)} (hlist : (some first, items) ∈ nodeLists nodes) :
    first = 1 ∨ ∃ v, P v ∧ v.StandsFor first := by
  induction depth using depth_induction limit generalizing nodes with
  | beyond depth hdepth => exact absurd (IsLoaded.nodes hP h).1 (Int.not_le.2 hdepth)
  | within depth hdepth ih =>
    obtain ⟨n, hn, hlist⟩ := mem_nodeLists.1 hlist
    obtain ⟨place, v, hv, hload⟩ := (IsLoaded.nodes hP h).2 n hn
    rcases mem_lists hlist with rfl | ⟨s, hs, hlist⟩
    · exact first_of_loadNode hP hv hload
    · exact ih ((sequences_of_loadNode hP hv hload).2 s hs) hlist

/-- The first number of every list that is loaded from a decoded text can be written. -/
theorem natAbs_first_lt_bound {text : List Char} {data : Json}
    (hdecode : Json.decode text = .ok data) {limit : Int} {nodes : List Node}
    (hload : (load limit data).outcome = .ok nodes) {first : Int} {items : List (List Node)}
    (hlist : (some first, items) ∈ nodeLists nodes) : first.natAbs < Numeral.bound := by
  have hdata := Json.hasShortInteger_of_decode hdecode
  have hP : Json.Inherited (Json.Everywhere Json.HasShortInteger) :=
    Json.inherited_everywhere fun n hn => by cases hn
  rcases first_of_mem_nodeLists hP ⟨[], data, hdata, hload⟩ hlist with rfl | ⟨v, hv, -, hn⟩
  · exact Nat.lt_of_lt_of_le (by decide) (Numeral.two_pow_le_bound (k := 1) (by decide))
  · exact hv.own first hn

/-! ## What formatting writes -/

/-- What formatting a node writes is its own or is written by a sequence in the node. -/
theorem mem_written {ctx : Context} {v : Json} {n : Node} (h : v ∈ n.written ctx) :
    v ∈ n.ownWritten ctx ∨ ∃ s ∈ n.sequences, v ∈ nodesWritten ctx s := by
  cases n with
  | list first items =>
    rw [Node.written, List.mem_append] at h
    exact h.imp_right mem_itemsWritten.1
  | quote children | styled style children => exact .inr ⟨children, List.mem_singleton_self _, h⟩
  | link url label text =>
    cases label with
    | none => simp [Node.written, labelWritten] at h
    | some nodes => exact .inr ⟨nodes, List.mem_singleton_self _, h⟩
  | _ => exact .inl h

/-- What formatting a node writes of its own is a list's first number, an identifier of the node, a
value of the context, or the ticket zero. -/
theorem mem_ownWritten {ctx : Context} {v : Json} {n : Node} (h : v ∈ n.ownWritten ctx) :
    (∃ first items, n = .list (some first) items ∧ v = .int first) ∨ v ∈ n.identifiers ∨
      v = ctx.ticket ∨ v = ctx.base ∨ v = .int 0 := by
  cases n with
  | list first items =>
    cases first with
    | none => cases h
    | some first => exact .inl ⟨first, items, rfl, List.mem_singleton.1 h⟩
  | attachment | comment | reference =>
    simp only [Node.ownWritten, Node.identifiers, attachmentTicket, List.mem_cons] at h ⊢
    grind
  | _ => cases h

/-- What formatting loaded markup writes can be written, at any nesting, unless the context brings
it in. -/
theorem isWritable_of_mem_nodesWritten {limit : Int} {depth : Nat} {nodes : List Node}
    (h : IsLoaded (Json.Everywhere Json.HasShortInteger) limit depth nodes) {ctx : Context}
    {v : Json} (hv : v ∈ nodesWritten ctx nodes) :
    v = ctx.ticket ∨ v = ctx.base ∨ v.isWritable = true := by
  have hP : Json.Inherited (Json.Everywhere Json.HasShortInteger) :=
    Json.inherited_everywhere fun n hn => by cases hn
  have hone : Nat.pow 2 1 ≤ Numeral.bound := Numeral.two_pow_le_bound (by decide)
  induction depth using depth_induction limit generalizing nodes with
  | beyond depth hdepth => exact absurd (IsLoaded.nodes hP h).1 (Int.not_le.2 hdepth)
  | within depth hdepth ih =>
    obtain ⟨n, hn, hv⟩ := mem_nodesWritten.1 hv
    obtain ⟨place, w, hw, hload⟩ := (IsLoaded.nodes hP h).2 n hn
    rcases mem_written hv with hv | ⟨s, hs, hv⟩
    · rcases mem_ownWritten hv with ⟨first, items, rfl, rfl⟩ | hid | hticket | hbase | rfl
      · refine .inr (.inr (Json.isWritable_int ?_))
        rcases first_of_loadNode hP hw hload with rfl | ⟨u, hu, -, hfirst⟩
        · exact hone
        · exact hu.own first hfirst
      · rcases identifiers_of_loadNode hP hw hload v hid with rfl | hv
        · exact .inr (.inr rfl)
        · exact .inr (.inr (Json.isWritable_of_everywhere hv))
      · exact .inl hticket
      · exact .inr (.inl hbase)
      · exact .inr (.inr (Json.isWritable_int (Nat.lt_of_lt_of_le (by decide) hone)))
    · exact ih ((sequences_of_loadNode hP hw hload).2 s hs) hv

/-! ## Writing it -/

/-- The number that formatting writes in the `start` attribute of a list is read back from it, at
any nesting. The text can be written exactly if no list counts on from it to a number that has too
many digits, and there is a display tree to write exactly if the values of the context that
formatting writes have no such numbers in them. -/
theorem exists_render_of_load {text : List Char} {data : Json}
    (hdecode : Json.decode text = .ok data) {limit : Int} {nodes : List Node}
    (hload : (load limit data).outcome = .ok nodes) (ctx : Context) :
    (∀ attrs children, .element "ol" attrs children ∈ Display.listsIn (format ctx nodes) →
      ∃ first items, (some first, items) ∈ nodeLists nodes ∧
        attrs = [("start", Numeral.text first)] ∧ Markdown.startNumber attrs = .ok first ∧
        children.length = items.length) ∧
    ((∃ s, Markdown.render (format ctx nodes) = .ok s) ↔
      ∀ first items, (some first, items) ∈ nodeLists nodes →
        first + (items.length : Int) ≤ Numeral.bound) ∧
    ((∃ tree s, format? ctx nodes = .ok tree ∧ Markdown.render tree = .ok s) ↔
      (∀ first items, (some first, items) ∈ nodeLists nodes →
        first + (items.length : Int) ≤ Numeral.bound) ∧
      ∀ v ∈ nodesWritten ctx nodes, v = ctx.ticket ∨ v = ctx.base → v.isWritable = true) := by
  have hfirst : ∀ first items, (some first, items) ∈ nodeLists nodes →
      first.natAbs < Numeral.bound := fun _ _ => natAbs_first_lt_bound hdecode hload
  have hrender : (∃ s, Markdown.render (format ctx nodes) = .ok s) ↔
      ∀ first items, (some first, items) ∈ nodeLists nodes →
        first + (items.length : Int) ≤ Numeral.bound := by
    rw [Markdown.exists_render_format_iff]
    exact ⟨fun h first items hlist => (h first items hlist).2,
      fun h first items hlist => ⟨hfirst first items hlist, h first items hlist⟩⟩
  refine ⟨fun attrs children hlist => ?_, hrender, ?_⟩
  · rw [listsIn_format] at hlist
    obtain ⟨⟨first, items⟩, hmem, heq⟩ := List.mem_map.1 hlist
    cases first with
    | none => simp [formattedList, listElement] at heq
    | some first =>
      cases heq
      refine ⟨first, items, hmem, rfl, ?_, List.length_map _⟩
      exact Numeral.read_text_eq_ok_iff.2 ⟨hfirst first items hmem, rfl⟩
  · have hloaded : IsLoaded (Json.Everywhere Json.HasShortInteger) limit 0 nodes :=
      ⟨[], data, Json.hasShortInteger_of_decode hdecode, hload⟩
    constructor
    · rintro ⟨tree, s, htree, hs⟩
      obtain ⟨hwritable, rfl⟩ := format?_eq_ok_iff.1 htree
      exact ⟨hrender.1 ⟨s, hs⟩, fun v hv _ => hwritable v hv⟩
    · rintro ⟨hlists, hcontext⟩
      obtain ⟨s, hs⟩ := hrender.2 hlists
      refine ⟨_, s, format?_eq_ok_iff.2 ⟨fun v hv => ?_, rfl⟩, hs⟩
      rcases isWritable_of_mem_nodesWritten hloaded hv with hticket | hbase | hwritable
      · exact hcontext v hv (.inl hticket)
      · exact hcontext v hv (.inr hbase)
      · exact hwritable

/-- A list in a quote, from the number that a text gives, with nothing in its second item. -/
theorem exists_render_of_load_list_in_quote :
    ∃ data nodes, Json.decode
        ("[\x7b\"type\":\"citation\",\"children\":[\x7b\"type\":\"ordered-list\"," ++
          "\"number\":\"-1\",\"children\":[[\"a\"],[]]\x7d]\x7d]").toList = .ok data ∧
      (load defaultDepthLimit data).outcome = .ok nodes ∧
      Markdown.render (format .empty nodes) = .ok "> -1. a\n> 0. " ∧
      (∀ attrs children, .element "ol" attrs children ∈ Display.listsIn (format .empty nodes) →
        ∃ first items, (some first, items) ∈ nodeLists nodes ∧
          attrs = [("start", Numeral.text first)] ∧ Markdown.startNumber attrs = .ok first ∧
          children.length = items.length) ∧
      ((∃ s, Markdown.render (format .empty nodes) = .ok s) ↔
        ∀ first items, (some first, items) ∈ nodeLists nodes →
          first + (items.length : Int) ≤ Numeral.bound) ∧
      ((∃ tree s, format? .empty nodes = .ok tree ∧ Markdown.render tree = .ok s) ↔
        (∀ first items, (some first, items) ∈ nodeLists nodes →
          first + (items.length : Int) ≤ Numeral.bound) ∧
        ∀ v ∈ nodesWritten .empty nodes, v = Context.empty.ticket ∨ v = Context.empty.base →
          v.isWritable = true) := by
  have hdecode : Json.decode
      ("[\x7b\"type\":\"citation\",\"children\":[\x7b\"type\":\"ordered-list\"," ++
        "\"number\":\"-1\",\"children\":[[\"a\"],[]]\x7d]\x7d]").toList =
      .ok (.arr [.obj [("type", .str "citation"), ("children", .arr [.obj [
        ("type", .str "ordered-list"), ("number", .str "-1"),
        ("children", .arr [.arr [.str "a"], .arr []])]])]]) := by rfl
  have hload : (load defaultDepthLimit (.arr [.obj [("type", .str "citation"),
      ("children", .arr [.obj [("type", .str "ordered-list"), ("number", .str "-1"),
        ("children", .arr [.arr [.str "a"], .arr []])]])]])).outcome =
      .ok [.quote [.list (some (-1)) [[.str "a"], []]]] := by rfl
  exact ⟨_, _, hdecode, hload, by rfl, exists_render_of_load hdecode hload .empty⟩

/-! ## A list that cannot be written -/

/-- A text with a list of two items from a number of nines. -/
def listFromNines (count : Nat) : List Char :=
  "[\x7b\"type\":\"ordered-list\",\"number\":".toList ++ List.replicate count '9' ++
    ',' :: "\"children\":[[\"a\"],[\"b\"]]\x7d]".toList

/-- The number that so many nines write. -/
def nines (count : Nat) : Nat := Nat.ofDigitChars 10 (List.replicate count '9') 0

/-- One more than a number of nines is a power of ten. -/
theorem nines_succ (count : Nat) : nines count + 1 = Nat.pow 10 count := by
  have hfrom : ∀ n, Nat.ofDigitChars 10 (List.replicate count '9') n + 1 =
      (n + 1) * Nat.pow 10 count := by
    induction count with
    | zero => simp
    | succ count ih =>
      intro n
      have hnine : '9'.toNat - '0'.toNat = 9 := rfl
      have hpow : Nat.pow 10 (count + 1) = 10 * Nat.pow 10 count := Nat.pow_succ'
      rw [List.replicate_succ, Nat.ofDigitChars_cons, ih, hnine, hpow, ← Nat.mul_assoc]
      congr 1
      omega
  simpa [nines] using hfrom 0

theorem tokensFrom_skip (word rest : List Char) (position : Nat) :
    Json.tokensFrom word.length position (word ++ rest) =
      Json.tokensFrom 0 (position + word.length) rest := by
  induction word generalizing position with
  | nil => rfl
  | cons c word ih =>
    rw [List.cons_append, List.length_cons, Json.tokensFrom, ih]
    congr 1
    omega

/-- Nines up to a comma are read as one number. -/
theorem numberAt_nines (count : Nat) (rest : List Char) :
    Json.numberAt (List.replicate (count + 1) '9' ++ ',' :: rest) =
      some (Json.numberValue false (List.replicate (count + 1) '9') [] [], count + 1) := by
  have hdigits : Json.leadingDigits (List.replicate (count + 1) '9' ++ ',' :: rest) =
      List.replicate (count + 1) '9' := by
    have hnine : ∀ c ∈ List.replicate (count + 1) '9', c.isDigit = true := fun c hc => by
      rw [List.eq_of_mem_replicate hc]
      rfl
    rw [Json.leadingDigits, List.takeWhile_append_of_pos hnine]
    exact List.append_nil _
  have hwhole : Json.integerPart (List.replicate (count + 1) '9' ++ ',' :: rest) =
      List.replicate (count + 1) '9' := hdigits
  have hrest : (List.replicate (count + 1) '9' ++ ',' :: rest).drop (count + 1) = ',' :: rest :=
    List.drop_left' (by simp)
  have hsign : ∀ tail, List.replicate (count + 1) '9' ++ ',' :: rest ≠ '-' :: tail := by
    simp [List.replicate_succ]
  rw [Json.numberAt]
  · simp [hwhole, hrest, Json.fraction, Json.exponentPart]
  · exact hsign

theorem tokensFrom_nines (count position : Nat) (rest : List Char) :
    Json.tokensFrom 0 position (List.replicate (count + 1) '9' ++ ',' :: rest) =
      (position, .scalar (Json.numberValue false (List.replicate (count + 1) '9') [] [])) ::
        Json.tokensFrom 0 (position + 1 + count) (',' :: rest) := by
  have hword : Json.wordAt position '9' (List.replicate count '9' ++ ',' :: rest) =
      (.scalar (Json.numberValue false (List.replicate (count + 1) '9') [] []), count + 1) := by
    have hname : Json.names.find? (fun name =>
        name.1.isPrefixOf ('9' :: (List.replicate count '9' ++ ',' :: rest))) = none := rfl
    have hnumber := numberAt_nines count rest
    rw [List.replicate_succ, List.cons_append] at hnumber
    rw [Json.wordAt, if_neg (by decide), hname, hnumber]
    rfl
  have hskip := tokensFrom_skip (List.replicate count '9') (',' :: rest) (position + 1)
  rw [List.length_replicate] at hskip
  show Json.tokensFrom 0 position ('9' :: (List.replicate count '9' ++ ',' :: rest)) = _
  rw [Json.tokensFrom, if_neg (by decide), hword, ← hskip]
  rfl

/-- The text of the list is decoded, as long as its number has no more digits than are read. -/
theorem decode_listFromNines {count : Nat} (h : count + 1 ≤ Numeral.digitLimit) :
    Json.decode (listFromNines (count + 1)) =
      .ok (.arr [.obj [("type", .str "ordered-list"), ("number", .int (nines (count + 1))),
        ("children", .arr [.arr [.str "a"], .arr [.str "b"]])]]) := by
  have hnumber : Json.numberValue false (List.replicate (count + 1) '9') [] [] =
      .ok (.int (nines (count + 1))) := by
    have hnine : ∀ c ∈ List.replicate (count + 1) '9', c.isDigit = true := fun c hc => by
      rw [List.eq_of_mem_replicate hc]
      rfl
    have hread := Numeral.read_figures hnine (by simp) false
    rw [List.length_replicate, if_pos h] at hread
    rw [Json.numberValue, hread]
    rfl
  have htokens : Json.tokens (listFromNines (count + 1)) =
      (0, .mark '[') :: (1, .mark '\x7b') :: (2, .text (.ok "type")) :: (8, .mark ':') ::
      (9, .text (.ok "ordered-list")) :: (23, .mark ',') :: (24, .text (.ok "number")) ::
      (32, .mark ':') :: Json.tokensFrom 0 33 (List.replicate (count + 1) '9' ++
        ',' :: "\"children\":[[\"a\"],[\"b\"]]\x7d]".toList) := rfl
  have hhead : (listFromNines (count + 1)).head? ≠ some '\ufeff' := by
    show some '[' ≠ some '\ufeff'
    decide
  rw [Json.decode, if_neg hhead, htokens, tokensFrom_nines, hnumber]
  rfl

/-- A list of two items from the number of as many nines as digits are read. -/
theorem not_exists_render_nines :
    ∃ data nodes, Json.decode (listFromNines Numeral.digitLimit) = .ok data ∧
      (load defaultDepthLimit data).outcome = .ok nodes ∧
      ¬∃ s, Markdown.render (format .empty nodes) = .ok s := by
  refine ⟨_, [.list (some (nines Numeral.digitLimit)) [[.str "a"], [.str "b"]]],
    decode_listFromNines (Nat.le_refl _), rfl, ?_⟩
  rw [Markdown.exists_render_format_iff]
  intro h
  have hlast := (h _ _ (List.mem_cons_self)).2
  have hnines : nines Numeral.digitLimit + 1 = Numeral.bound := by
    delta Numeral.bound
    exact nines_succ Numeral.digitLimit
  rw [List.length_cons, List.length_cons, List.length_nil] at hlast
  omega

end TicketMarkup
