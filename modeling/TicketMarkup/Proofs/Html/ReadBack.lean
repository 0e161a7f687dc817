import TicketMarkup.Proofs.Html.Canonical
import TicketMarkup.Proofs.Html.Reader

/-!
# HTML is read back

What `render` writes, `read` reads: the display tree in its merged form (`read_render`). The tree
has to be one that HTML can hold (`Readable`): its tags and the names of its attributes are names,
elements without content have no children, and no element looks like a code block or a link to a
user. Its texts, values of attributes, languages and users are arbitrary.

A piece of HTML reads as a node (`ReadsAs`) if a reader that meets it, inside of any open elements
and after any run of text, goes on after the piece with the node added. A sequence of pieces ends
where a tag or the end of the text follows (`ContentReadsAs`), as a text may run on until there.
-/

namespace TicketMarkup.Html

/-! ## Tags -/

theorem isNameChar_of_mem {name : String} (h : isName name = true) :
    ∀ c ∈ name.toList, isNameChar c = true := by
  simp only [isName, Bool.and_eq_true, List.all_eq_true] at h
  exact h.2

/-- A name begins with a character of names. -/
theorem exists_cons_of_isName {name : String} (h : isName name = true) :
    ∃ c s, name.toList = c :: s ∧ isNameChar c = true := by
  cases hs : name.toList with
  | nil => simp [isName, hs] at h
  | cons c s => exact ⟨c, s, rfl, isNameChar_of_mem h c (by simp [hs])⟩

/-- A name ends where a character follows that cannot stand in it. -/
theorem readName_append {name : String} (h : isName name = true) {c : Char}
    (hc : isNameChar c = false) (s : List Char) :
    readName (name.toList ++ c :: s) = some (name, c :: s) := by
  have htake : (name.toList ++ c :: s).takeWhile isNameChar = name.toList := by
    rw [List.takeWhile_append_of_pos (isNameChar_of_mem h)]
    simp [hc]
  have hdrop : (name.toList ++ c :: s).dropWhile isNameChar = c :: s := by
    rw [List.dropWhile_append_of_pos (isNameChar_of_mem h)]
    simp [hc]
  obtain ⟨d, t, hname, -⟩ := exists_cons_of_isName h
  unfold readName
  rw [htake, hdrop]
  split
  next hnil => simp [hname] at hnil
  next => simp

/-- An attribute is read back, whatever follows. -/
theorem readAttribute_attr {name : String} (h : isName name = true) (value : String)
    (s : List Char) :
    readAttribute (attr name.toList value.toList ++ s) = some ((name, value), s) := by
  have hall : ∀ c ∈ escape true value.toList, decide (c ≠ '"') = true := fun c hc =>
    decide_eq_true fun h => quote_notMem_escape _ (h ▸ hc)
  have hshape : attr name.toList value.toList ++ s =
      ' ' :: (name.toList ++ '=' :: '"' :: (escape true value.toList ++ '"' :: s)) := by
    simp [attr]
  rw [hshape, readAttribute, readName_append h (by decide)]
  simp only
  rw [List.dropWhile_append_of_pos hall, List.takeWhile_append_of_pos hall]
  simp [decode_escape]

/-- Attributes end where none follows. -/
theorem readAttributes_attributes {s : List Char} (hs : readAttribute s = none) :
    ∀ {attrs : List (String × String)}, (∀ a ∈ attrs, isName a.1 = true) →
      readAttributes (attributes attrs ++ s) = (attrs, s)
  | [], _ => readAttributes_of_none hs
  | (name, value) :: rest, h => by
    obtain ⟨hname, hrest⟩ := List.forall_mem_cons.1 h
    rw [attributes, List.append_assoc, readAttributes_of_some (readAttribute_attr hname value _),
      readAttributes_attributes hs hrest]

/-- What follows the name of a tag does not continue it. -/
theorem exists_cons_of_attributes (attrs : List (String × String)) {c : Char}
    (hc : isNameChar c = false) (s : List Char) :
    ∃ d t, attributes attrs ++ c :: s = d :: t ∧ isNameChar d = false := by
  cases attrs with
  | nil => exact ⟨c, s, rfl, hc⟩
  | cons a rest => exact ⟨' ', _, rfl, by decide⟩

/-- A name after an angle bracket begins a tag that is no closing tag. -/
theorem readTag_name_append {name : String} (h : isName name = true) (s : List Char) :
    readTag ('<' :: name.toList ++ s) = readOpening (name.toList ++ s) := by
  obtain ⟨c, t, hname, hc⟩ := exists_cons_of_isName h
  have hslash : c ≠ '/' := by
    rintro rfl
    exact absurd hc (by decide)
  rw [hname]
  simp [readTag, hslash]

/-- An opening tag is read back, whatever follows. -/
theorem readTag_openTag {tag : String} (h : isName tag = true) {attrs : List (String × String)}
    (hattrs : ∀ a ∈ attrs, isName a.1 = true) (s : List Char) :
    readTag (openTag tag attrs ++ s) = some (.opening tag attrs, s) := by
  obtain ⟨d, t, heq, hd⟩ :=
    exists_cons_of_attributes attrs (show isNameChar '>' = false by decide) s
  have hshape : openTag tag attrs ++ s = '<' :: tag.toList ++ (attributes attrs ++ '>' :: s) := by
    simp [openTag]
  rw [hshape, readTag_name_append h, heq, readOpening, readName_append h hd, ← heq]
  simp only [readAttributes_attributes (show readAttribute ('>' :: s) = none from rfl) hattrs]

theorem readTag_voidTag {tag : String} (h : isName tag = true) {attrs : List (String × String)}
    (hattrs : ∀ a ∈ attrs, isName a.1 = true) (s : List Char) :
    readTag (voidTag tag attrs ++ s) = some (.void tag attrs, s) := by
  obtain ⟨d, t, heq, hd⟩ :=
    exists_cons_of_attributes attrs (show isNameChar ' ' = false by decide) ('/' :: '>' :: s)
  have hshape : voidTag tag attrs ++ s =
      '<' :: tag.toList ++ (attributes attrs ++ ' ' :: '/' :: '>' :: s) := by
    simp [voidTag]
  rw [hshape, readTag_name_append h, heq, readOpening, readName_append h hd, ← heq]
  simp only [readAttributes_attributes
    (show readAttribute (' ' :: '/' :: '>' :: s) = none from rfl) hattrs]

theorem readTag_closeTag {tag : String} (h : isName tag = true) (s : List Char) :
    readTag (closeTag tag ++ s) = some (.closing tag, s) := by
  have hshape : closeTag tag ++ s = '<' :: '/' :: (tag.toList ++ '>' :: s) := by
    simp [closeTag]
  rw [hshape, readTag, readClosing, readName_append h (by decide)]
  rfl

/-! ## Texts -/

/-- Without an angle bracket there is no tag. -/
theorem lexFrom_append {s : List Char} (h : '<' ∉ s) (raw rest : List Char) :
    lexFrom raw (s ++ rest) = lexFrom (raw ++ s) rest := by
  induction s generalizing raw with
  | nil => simp
  | cons c s ih =>
    rw [List.mem_cons, not_or] at h
    rw [List.cons_append, lexFrom_cons_of_ne (Ne.symm h.1), ih h.2, List.append_assoc,
      List.singleton_append]

/-- An escaped text goes to the run of text before it. -/
theorem lexFrom_escape (run s rest : List Char) :
    lexFrom (escape false run) (escape false s ++ rest) =
      lexFrom (escape false (run ++ s)) rest := by
  rw [lexFrom_append (lt_notMem_escape false s), escape_append]

/-- What was escaped adds the text itself. -/
theorem build_textToken (frames : List Frame) (before : List Display) (run : List Char)
    (tokens : List Token) :
    build frames before (textToken (escape false run) ++ tokens) =
      build frames (before ++ closeText run) tokens := by
  unfold textToken closeText
  split_ifs with hraw hrun hrun
  · simp
  · exact absurd (escape_eq_nil_iff.1 hraw) hrun
  · exact absurd (escape_eq_nil_iff.2 hrun) hraw
  · simp [build, decode_escape]

/-! ## Pieces -/

/-- A text ends before `rest`: it has come to a tag, or to its end. -/
def EndsText (rest : List Char) : Prop := ∀ raw, lexFrom raw rest = textToken raw ++ lex rest

theorem endsText_nil : EndsText [] := fun raw => by
  rw [lex, lexFrom_nil, lexFrom_nil]
  simp [textToken]

/-- A tag ends a run of text. -/
theorem endsText_of_readTag {s rest : List Char} {t : Token} (h : readTag s = some (t, rest)) :
    EndsText s := fun raw => by
  rw [lex, lexFrom_of_tag h, lexFrom_of_tag h]
  simp [textToken]

/-- A reader that meets a piece, after a run of text, goes on after it with one more node. -/
def ReadsAs (html : List Char) (d : Display) : Prop :=
  ∀ frames before run rest,
    build frames before (lexFrom (escape false run) (html ++ rest)) =
      build frames (before ++ closeText run ++ [d]) (lex rest)

/-- A reader that meets a piece after the text `run`, and then a tag or the end, goes on after it
with the nodes `content`. -/
def ContentReadsAs (html run : List Char) (content : List Display) : Prop :=
  ∀ frames before rest, EndsText rest →
    build frames before (lexFrom (escape false run) (html ++ rest)) =
      build frames (before ++ content) (lex rest)

theorem contentReadsAs_nil (run : List Char) : ContentReadsAs [] run (closeText run) := by
  intro frames before rest hrest
  rw [List.nil_append, hrest, build_textToken]

/-- A text in front of content goes to the run of text before it. -/
theorem contentReadsAs_text {html run s : List Char} {content : List Display}
    (h : ContentReadsAs html (run ++ s) content) :
    ContentReadsAs (escape false s ++ html) run content := by
  intro frames before rest hrest
  rw [List.append_assoc, lexFrom_escape]
  exact h frames before rest hrest

/-- A node in front of content ends the run of text before it. -/
theorem contentReadsAs_cons {piece html : List Char} {d : Display} {content : List Display}
    (hd : ReadsAs piece d) (h : ContentReadsAs html [] content) (run : List Char) :
    ContentReadsAs (piece ++ html) run (closeText run ++ d :: content) := by
  intro frames before rest hrest
  have hhtml := h frames (before ++ closeText run ++ [d]) rest hrest
  rw [escape_nil] at hhtml
  rw [List.append_assoc, hd, lex, hhtml]
  simp

/-- An element reads as itself if its content does. -/
theorem readsAs_element {tag : String} (htag : isName tag = true)
    {attrs : List (String × String)} (hattrs : ∀ a ∈ attrs, isName a.1 = true)
    {html : List Char} {content : List Display} (h : ContentReadsAs html [] content) :
    ReadsAs (openTag tag attrs ++ html ++ closeTag tag) (.element tag attrs content) := by
  intro frames before run rest
  have hclose := readTag_closeTag htag rest
  have hhtml := h (⟨tag, attrs, before ++ closeText run⟩ :: frames) [] (closeTag tag ++ rest)
    (endsText_of_readTag hclose)
  rw [escape_nil, lex, lexFrom_of_tag hclose] at hhtml
  rw [List.append_assoc, List.append_assoc, lexFrom_of_tag (readTag_openTag htag hattrs _),
    build_textToken, build, lex, hhtml]
  simp [textToken, build]

theorem readsAs_void {tag : String} (htag : isName tag = true) {attrs : List (String × String)}
    (hattrs : ∀ a ∈ attrs, isName a.1 = true) :
    ReadsAs (voidTag tag attrs) (.element tag attrs []) := by
  intro frames before run rest
  rw [lexFrom_of_tag (readTag_voidTag htag hattrs rest), build_textToken, build]

/-! ## Nodes -/

/-- The attributes of the element that holds code. -/
def languageAttrs (language : Option String) : List (String × String) :=
  match shownLanguage language with
  | none => []
  | some l => [("class", "language-" ++ l)]

mutual

/-- A node whose code blocks and links to users are the elements that they are written as. -/
def expand (profiles : String) : Display → Display
  | .text s => .text s
  | .element tag attrs children => .element tag attrs (expandAll profiles children)
  | .codeBlock code language =>
    .element "pre" [] [.element "code" (languageAttrs language) [.text code]]
  | .userLink user =>
    .element "a" [("class", "user-link"), ("href", profiles ++ user)] [.text ("@" ++ user)]

/-- Nodes whose code blocks and links to users are the elements that they are written as. -/
def expandAll (profiles : String) : List Display → List Display
  | [] => []
  | d :: rest => expand profiles d :: expandAll profiles rest

end

/-- Whether an element can be told from a code block and a link to a user, and its tag can be
read. -/
structure ReadableTag (tag : String) (attrs : List (String × String)) : Prop where
  name : isName tag = true
  attrNames : ∀ a ∈ attrs, isName a.1 = true
  ne_pre : tag ≠ "pre"
  noClass : tag = "a" → ∀ a ∈ attrs, a.1 ≠ "class"

mutual

/-- Whether HTML can hold a node. -/
def Readable : Display → Prop
  | .element tag attrs children =>
    ReadableTag tag attrs ∧ (isVoid tag = true → children = []) ∧ AllReadable children
  | _ => True

/-- Whether HTML can hold the nodes. -/
def AllReadable : List Display → Prop
  | [] => True
  | d :: rest => Readable d ∧ AllReadable rest

end

theorem allReadable_iff {tree : List Display} : AllReadable tree ↔ ∀ d ∈ tree, Readable d := by
  induction tree with
  | nil => simp [AllReadable]
  | cons d rest ih => simp [AllReadable, ih]

theorem isText_expand (profiles : String) (d : Display) :
    isText (expand profiles d) = isText d := by
  cases d <;> rfl

theorem codeBlock_eq (code : String) (language : Option String) :
    codeBlock code language =
      openTag "pre" [] ++
        (openTag "code" (languageAttrs language) ++ escape false code.toList ++ closeTag "code") ++
        closeTag "pre" := by
  unfold codeBlock languageAttrs shownLanguage
  cases language with
  | none => simp [openTag, closeTag, attributes]
  | some l => by_cases h : l = "" <;> simp [openTag, closeTag, attributes, h]

theorem userLink_eq (profiles user : String) :
    userLink profiles user =
      openTag "a" [("class", "user-link"), ("href", profiles ++ user)] ++
        escape false ("@" ++ user).toList ++ closeTag "a" := by
  have hat : escape false ('@' :: user.toList) = '@' :: escape false user.toList := by
    rw [escape_cons]
    rfl
  unfold userLink
  simp [openTag, closeTag, attributes, hat]

/-- A text by itself is content of an element. -/
theorem contentReadsAs_escape (s : List Char) :
    ContentReadsAs (escape false s) [] (closeText s) := by
  rw [← List.append_nil (escape false s)]
  exact contentReadsAs_text (contentReadsAs_nil s)

theorem forall_mem_languageAttrs (language : Option String) :
    ∀ a ∈ languageAttrs language, isName a.1 = true := by
  unfold languageAttrs
  cases shownLanguage language with
  | none => simp
  | some l => simp [show isName "class" = true by decide]

/-- A code block reads as the elements that it is written with. -/
theorem readsAs_codeBlock (profiles code : String) (language : Option String) :
    ReadsAs (codeBlock code language) (canonical (expand profiles (.codeBlock code language))) := by
  have hcode := readsAs_element (show isName "code" = true by decide)
    (forall_mem_languageAttrs language) (contentReadsAs_escape code.toList)
  have hcontent := contentReadsAs_cons hcode (contentReadsAs_nil []) []
  have hpre := @readsAs_element "pre" (by decide) [] (by simp) _ _ hcontent
  rw [List.append_nil] at hpre
  rw [codeBlock_eq]
  simpa [expand, canonical, mergedFrom, closeText] using hpre

/-- A user link reads as the element that it is written with. -/
theorem readsAs_userLink (profiles user : String) :
    ReadsAs (userLink profiles user) (canonical (expand profiles (.userLink user))) := by
  rw [userLink_eq]
  have hattrs : ∀ a ∈ [("class", "user-link"), ("href", profiles ++ user)], isName a.1 = true := by
    simpa using show isName "class" = true ∧ isName "href" = true by decide
  have h := readsAs_element (show isName "a" = true by decide) hattrs
    (contentReadsAs_escape ("@" ++ user).toList)
  simpa [expand, canonical, mergedFrom] using h

mutual

/-- A node that HTML can hold is read in its merged form. -/
theorem readsAs_node (profiles : String) :
    ∀ {d : Display}, Readable d → isText d = false →
      ReadsAs (node profiles d) (canonical (expand profiles d))
  | .text s, _, h => by cases h
  | .element tag attrs children, h, _ => by
    obtain ⟨htag, hvoid, hchildren⟩ := h
    rw [node, expand, canonical]
    split_ifs with hv
    · rw [hvoid hv]
      exact readsAs_void htag.name htag.attrNames
    · exact readsAs_element htag.name htag.attrNames
        (contentReadsAs_nodes profiles hchildren [])
  | .codeBlock code language, _, _ => by
    rw [node]
    exact readsAs_codeBlock profiles code language
  | .userLink user, _, _ => by
    rw [node]
    exact readsAs_userLink profiles user

/-- A readable tree reads as itself, with its shorthands written out and its texts merged. -/
theorem contentReadsAs_nodes (profiles : String) :
    ∀ {tree : List Display}, AllReadable tree → ∀ run,
      ContentReadsAs (nodes profiles tree) run (mergedFrom run (expandAll profiles tree))
  | [], _, run => contentReadsAs_nil run
  | d :: rest, h, run => by
    rw [nodes, expandAll]
    cases hd : isText d with
    | true =>
      cases d with
      | text s => exact contentReadsAs_text (contentReadsAs_nodes profiles h.2 _)
      | _ => cases hd
    | false =>
      rw [mergedFrom_cons_of_not_text ((isText_expand profiles d).trans hd)]
      exact contentReadsAs_cons (readsAs_node profiles h.1 hd)
        (contentReadsAs_nodes profiles h.2 []) run

end

/-! ## Code blocks and users among the elements -/

theorem recogniseAll_append (profiles : String) (a b : List Display) :
    recogniseAll profiles (a ++ b) = recogniseAll profiles a ++ recogniseAll profiles b := by
  induction a with
  | nil => rfl
  | cons d rest ih => rw [List.cons_append, recogniseAll, ih, recogniseAll, List.cons_append]

theorem recogniseAll_closeText (profiles : String) (run : List Char) :
    recogniseAll profiles (closeText run) = closeText run := by
  unfold closeText
  split_ifs <;> simp [recogniseAll, recognise]

theorem language?_languageAttrs (language : Option String) :
    language? (languageAttrs language) = some (shownLanguage language) := by
  unfold languageAttrs
  cases shownLanguage language with
  | none => rfl
  | some l =>
    have h : ("language-" ++ l).toList.dropPrefix? "language-".toList = some l.toList := by
      rw [String.toList_append, List.dropPrefix?_append_of_beq _ (by simp)]
    simp only [language?, h, Option.map_some, String.ofList_toList]

theorem soleText?_closeText (s : List Char) :
    soleText? (closeText s) = some (String.ofList s) := by
  unfold closeText
  split_ifs with h
  · rw [h]
    rfl
  · rfl

/-- Only a preformatted element is recognised as a code block. -/
theorem codeBlock?_of_ne {tag : String} (h : tag ≠ "pre") (attrs : List (String × String))
    (children : List Display) : codeBlock? tag attrs children = none := by
  unfold codeBlock?
  split
  · exact absurd rfl h
  · rfl

/-- No readable tag is recognised as a user link. -/
theorem userLink?_of_readableTag (profiles : String) {tag : String}
    {attrs : List (String × String)} (h : ReadableTag tag attrs) (children : List Display) :
    userLink? profiles tag attrs children = none := by
  unfold userLink?
  split
  · exact absurd rfl (h.noClass rfl ("class", "user-link") (by simp))
  · rfl

theorem recognise_codeBlock (profiles code : String) (language : Option String) :
    recognise profiles (canonical (expand profiles (.codeBlock code language))) =
      .codeBlock code (shownLanguage language) := by
  have hblock : codeBlock? "pre" []
      [.element "code" (languageAttrs language) (closeText code.toList)] =
        some (.codeBlock code (shownLanguage language)) := by
    simp [codeBlock?, language?_languageAttrs, soleText?_closeText]
  simp [expand, canonical, mergedFrom, closeText_nil, recognise, hblock]

theorem recognise_userLink (profiles user : String) :
    recognise profiles (canonical (expand profiles (.userLink user))) = .userLink user := by
  simp [expand, canonical, mergedFrom, closeText, recognise, codeBlock?, userLink?]

mutual

/-- All that was written out is recognised. -/
theorem recognise_canonical_expand (profiles : String) :
    ∀ {d : Display}, Readable d →
      recognise profiles (canonical (expand profiles d)) = canonical d
  | .text s, _ => by simp only [expand, canonical, recognise]
  | .element tag attrs children, h => by
    obtain ⟨htag, -, hchildren⟩ := h
    simp only [expand, canonical, recognise, codeBlock?_of_ne htag.ne_pre,
      userLink?_of_readableTag profiles htag,
      recogniseAll_mergedFrom_expandAll profiles hchildren []]
  | .codeBlock code language, _ => by
    rw [recognise_codeBlock, canonical]
  | .userLink user, _ => by
    rw [recognise_userLink, canonical]

theorem recogniseAll_mergedFrom_expandAll (profiles : String) :
    ∀ {tree : List Display}, AllReadable tree → ∀ run,
      recogniseAll profiles (mergedFrom run (expandAll profiles tree)) = mergedFrom run tree
  | [], _, run => by simp only [expandAll, mergedFrom, recogniseAll_closeText]
  | d :: rest, h, run => by
    cases hd : isText d with
    | true =>
      cases d with
      | text s =>
        simp only [expandAll, expand, mergedFrom]
        exact recogniseAll_mergedFrom_expandAll profiles h.2 _
      | _ => cases hd
    | false =>
      rw [expandAll, mergedFrom_cons_of_not_text ((isText_expand profiles d).trans hd),
        mergedFrom_cons_of_not_text hd, recogniseAll_append, recogniseAll_closeText, recogniseAll,
        recognise_canonical_expand profiles h.1, merged, merged,
        recogniseAll_mergedFrom_expandAll profiles h.2 []]

end

/-! ## Fragments -/

/-- Nodes on lines of their own are read with line feeds between them. -/
theorem contentReadsAs_join (profiles : String) :
    ∀ {tree : List Display}, AllReadable tree → (∀ d ∈ tree, isText d = false) → ∀ run,
      ContentReadsAs (Text.join ['\n'] (tree.map (node profiles))) run
        (closeText run ++
          (tree.map fun d => canonical (expand profiles d)).intersperse (.text "\n"))
  | [], _, _, run => by simpa using contentReadsAs_nil run
  | [d], h, htext, run => by
    have hd := readsAs_node profiles h.1 (htext d (by simp))
    simpa [closeText_nil] using contentReadsAs_cons hd (contentReadsAs_nil []) run
  | d :: e :: rest, h, htext, run => by
    obtain ⟨hd, hrest⟩ := List.forall_mem_cons.1 htext
    have ih := contentReadsAs_join profiles h.2 hrest ['\n']
    have hfeed : escape false ['\n'] = ['\n'] := rfl
    have hmore := @contentReadsAs_text _ [] ['\n'] _ ih
    simpa [hfeed, closeText] using contentReadsAs_cons (readsAs_node profiles h.1 hd) hmore run

/-- The line feeds between the nodes at the top can be taken out again. -/
theorem filter_intersperse_lineFeed :
    ∀ {tree : List Display}, (∀ d ∈ tree, isText d = false) →
      ((tree.intersperse (.text "\n")).filter fun d => !isLineFeed d) = tree
  | [], _ => rfl
  | d :: rest, h => by
    obtain ⟨hd, hrest⟩ := List.forall_mem_cons.1 h
    have hkeep : isLineFeed d = false := by
      cases d with
      | text s => cases hd
      | _ => rfl
    have ih := filter_intersperse_lineFeed hrest
    cases rest with
    | nil => simp [hkeep]
    | cons e rest =>
      have hfeed : isLineFeed (.text "\n") = true := by simp [isLineFeed]
      simp only [List.intersperse_cons_cons, List.filter_cons, hkeep, hfeed, Bool.not_false,
        Bool.not_true, Bool.false_eq_true, if_true, if_false, ih]

theorem expandAll_eq_map (profiles : String) (tree : List Display) :
    expandAll profiles tree = tree.map (expand profiles) := by
  induction tree with
  | nil => rfl
  | cons d rest ih => rw [expandAll, ih, List.map_cons]

theorem isText_canonical (d : Display) : isText (canonical d) = isText d := by
  cases d <;> simp only [canonical, isText]

/-- A fragment is read back in its merged form. -/
theorem read_render (profiles : String) {tree : List Display} (h : AllReadable tree)
    (htext : ∀ d ∈ tree, isText d = false) :
    read profiles (render profiles tree) = some (merged tree) := by
  have hexpand : ∀ d ∈ expandAll profiles tree, isText d = false := by
    simpa [expandAll_eq_map, isText_expand] using htext
  have hmerged : ∀ d ∈ merged (expandAll profiles tree), isText d = false := by
    simpa [merged_eq_map hexpand, isText_canonical] using hexpand
  have hmap : (tree.map fun d => canonical (expand profiles d)) =
      merged (expandAll profiles tree) := by
    rw [merged_eq_map hexpand, expandAll_eq_map, List.map_map]
    rfl
  have hread := contentReadsAs_join profiles h htext [] [] [] [] endsText_nil
  rw [hmap, closeText_nil, escape_nil, List.append_nil, ← lex] at hread
  simp only [read, render, String.toList_ofList, hread]
  simp only [lex, lexFrom_nil, textToken, build, List.nil_append, if_true, List.isEmpty_nil,
    Option.map_some, filter_intersperse_lineFeed hmerged]
  exact congrArg some (recogniseAll_mergedFrom_expandAll profiles h [])

end TicketMarkup.Html
