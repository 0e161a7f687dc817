import TicketMarkup.TreeFile

/-!
# What the folders decide

Where a path leads depends on the folders of a file tree only, and a file that is put where no
folder was leaves the folders as they are. So between two trees with the same folders a path leads
to the same address, or is too long, or leads nowhere in both of them (`SameFolders.resolve`); and
what lies where it leads is read alike if the address itself has the same entry
(`SameFolders.readTree_eq_ok_iff`).
-/

namespace TicketMarkup.FileTree

/-- Whether paths start at the same folder in two trees and the same addresses are folders. -/
structure SameFolders (tree tree' : FileTree) : Prop where
  working_eq : tree'.working = tree.working
  folder_iff : ∀ a, tree'.get? a = some .folder ↔ tree.get? a = some .folder

/-- Whether a path leads nowhere, because there is no folder where one is needed. -/
def IsDeadEnd (outcome : Except AccessFault Address) : Prop :=
  outcome = .error .missing ∨ outcome = .error .notFolder

namespace SameFolders

variable {tree tree' tree'' : FileTree}

theorem refl (tree : FileTree) : SameFolders tree tree := ⟨rfl, fun _ => Iff.rfl⟩

theorem trans (h : SameFolders tree tree') (h' : SameFolders tree' tree'') :
    SameFolders tree tree'' :=
  ⟨h'.working_eq.trans h.working_eq, fun a => (h'.folder_iff a).trans (h.folder_iff a)⟩

/-- Writing a file where no folder is leaves the folders as they are. -/
theorem insert {a : Address} (hn : ∀ s ∈ a, IsEntryName s) (ha : tree.get? a ≠ some .folder)
    (octets : List UInt8) : SameFolders tree (tree.insert a (.file octets)) := by
  refine ⟨working_insert tree a _, fun b => ?_⟩
  rw [get?_insert hn (ne_nil_of_not_folder ha)]
  split
  next hab =>
    subst hab
    simp [ha]
  next => exact Iff.rfl

/-- Names lead to the same address, or nowhere in both file trees. -/
theorem descend (h : SameFolders tree tree') (here : Address) (names : List String) :
    tree'.descend here names = tree.descend here names ∨
      IsDeadEnd (tree.descend here names) ∧ IsDeadEnd (tree'.descend here names) := by
  induction names generalizing here with
  | nil => exact .inl rfl
  | cons name rest ih =>
    by_cases hfolder : tree.get? here = some .folder
    · have hfolder' := (h.folder_iff here).2 hfolder
      simp only [FileTree.descend, hfolder, hfolder']
      split
      · exact .inl rfl
      · exact ih (step here name)
    · have hdead : ∀ t : FileTree, t.get? here ≠ some .folder →
          IsDeadEnd (t.descend here (name :: rest)) := by
        intro t ht
        unfold FileTree.descend
        split
        next hf => exact absurd hf ht
        next => exact .inr rfl
        next => exact .inl rfl
      exact .inr ⟨hdead tree hfolder, hdead tree' (mt (h.folder_iff here).1 hfolder)⟩

/-- A path leads to the same address, is refused for the same reason, or leads nowhere in both. -/
theorem resolve (h : SameFolders tree tree') (p : FilePath) :
    tree'.resolve p = tree.resolve p ∨
      IsDeadEnd (tree.resolve p) ∧ IsDeadEnd (tree'.resolve p) := by
  have hstart : tree'.startAddress p.start = tree.startAddress p.start := by
    unfold startAddress
    rw [h.working_eq]
  unfold FileTree.resolve
  split
  · exact .inl rfl
  split
  · exact .inl rfl
  · rw [hstart]
    exact h.descend _ _

/-- A path leads to the same address in two file trees with the same folders. -/
theorem resolve_eq_ok_iff (h : SameFolders tree tree') {p : FilePath} {a : Address} :
    tree'.resolve p = .ok a ↔ tree.resolve p = .ok a := by
  rcases h.resolve p with heq | ⟨hdead, hdead'⟩
  · rw [heq]
  · rcases hdead with hdead | hdead <;> rcases hdead' with hdead' | hdead' <;> simp [hdead, hdead']

/-- What a path leads to is unknown in both, and for the same reason, or in neither. -/
theorem lookup_eq_error_iff (h : SameFolders tree tree') {p : FilePath} {fault : AccessFault} :
    tree'.lookup p = .error fault ↔ tree.lookup p = .error fault := by
  unfold FileTree.lookup
  rcases h.resolve p with heq | ⟨hdead, hdead'⟩
  · rw [heq]
    cases tree.resolve p with
    | ok a => simp
    | error fault => cases fault <;> simp
  · rcases hdead with hdead | hdead <;> rcases hdead' with hdead' | hdead' <;>
      simp only [hdead, hdead']

/-- A path leads to a folder in both file trees or in none. -/
theorem lookup_folder_iff (h : SameFolders tree tree') {p : FilePath} :
    tree'.lookup p = .ok (some .folder) ↔ tree.lookup p = .ok (some .folder) := by
  unfold FileTree.lookup
  rcases h.resolve p with heq | ⟨hdead, hdead'⟩
  · rw [heq]
    cases tree.resolve p with
    | ok a => simp [h.folder_iff a]
    | error fault => cases fault <;> simp
  · rcases hdead with hdead | hdead <;> rcases hdead' with hdead' | hdead' <;>
      simp only [hdead, hdead']

/-- What cannot be written cannot be written in both, and for the same reason, unless the path leads
nowhere. -/
theorem write_eq_error_iff (h : SameFolders tree tree') {p : FilePath}
    (hlive : ¬IsDeadEnd (tree.resolve p)) {octets : List UInt8} {fault : AccessFault} :
    tree'.write p octets = .error fault ↔ tree.write p octets = .error fault := by
  have hresolve : tree'.resolve p = tree.resolve p :=
    (h.resolve p).resolve_right fun hdead => hlive hdead.1
  unfold FileTree.write
  rw [hresolve]
  cases tree.resolve p with
  | error fault => exact Iff.rfl
  | ok a =>
    by_cases hfolder : tree.get? a = some .folder
    · simp only [hfolder, (h.folder_iff a).2 hfolder, if_true]
    · simp [hfolder, mt (h.folder_iff a).1 hfolder]

section Kept

variable (h : SameFolders tree tree') {p : FilePath}
  (hp : ∀ a, tree.resolve p = .ok a → tree'.get? a = tree.get? a)

include h hp

theorem lookup_eq : tree'.lookup p = tree.lookup p := by
  unfold FileTree.lookup
  rcases h.resolve p with heq | ⟨hdead, hdead'⟩
  · rw [heq]
    cases hresolve : tree.resolve p with
    | ok a => simp only [hp a hresolve]
    | error fault => cases fault <;> rfl
  · rcases hdead with hdead | hdead <;> rcases hdead' with hdead' | hdead' <;>
      simp only [hdead, hdead']

theorem read_eq_ok_iff {octets : List UInt8} :
    tree'.read p = .ok octets ↔ tree.read p = .ok octets := by
  unfold FileTree.read
  rcases h.resolve p with heq | ⟨hdead, hdead'⟩
  · rw [heq]
    cases hresolve : tree.resolve p with
    | ok a => simp only [hp a hresolve]
    | error fault => exact Iff.rfl
  · rcases hdead with hdead | hdead <;> rcases hdead' with hdead' | hdead' <;>
      simp only [hdead, hdead', reduceCtorEq]

theorem readTree_eq_ok_iff {data : Json} :
    tree'.readTree p = .ok data ↔ tree.readTree p = .ok data := by
  simp only [TicketMarkup.readTree_eq_ok_iff, h.read_eq_ok_iff hp]

end Kept

end SameFolders

/-! ## What a path leads to -/

/-- What is a file can be looked up. -/
theorem lookup_of_isFile {files : FileTree} {p : FilePath} (h : files.isFile p = true) :
    ∃ octets, files.lookup p = .ok (some (.file octets)) := by
  unfold isFile find? at h
  unfold lookup
  cases hresolve : files.resolve p with
  | error fault => simp [hresolve] at h
  | ok a =>
    simp only [hresolve] at h
    split at h
    next octets hget => exact ⟨octets, by simp only [hget]⟩
    next => cases h

/-- Reading gives the octets of a file and refuses a folder. -/
theorem read_of_lookup {files : FileTree} {p : FilePath} {e : Entry}
    (h : files.lookup p = .ok (some e)) :
    files.read p =
      match e with
      | .file octets => .ok octets
      | .folder => .error .isFolder := by
  unfold lookup at h
  unfold read
  split at h
  next a ha =>
    simp only [ha, Except.ok.inj h]
    cases e <;> rfl
  next => cases h
  next => cases h

/-- What is read is what lies at the path. -/
theorem read_eq_ok_iff_lookup {files : FileTree} {p : FilePath} {octets : List UInt8} :
    files.read p = .ok octets ↔ files.lookup p = .ok (some (.file octets)) :=
  ⟨lookup_of_read, fun h => read_of_lookup h⟩

/-- Reading depends on nothing but what lies at the path. -/
theorem read_eq_of_lookup {files files' : FileTree} {p : FilePath} {e : Entry}
    (h : files'.lookup p = files.lookup p) (he : files.lookup p = .ok (some e)) :
    files'.read p = files.read p := by
  cases e <;> exact (read_of_lookup (h.trans he)).trans (read_of_lookup he).symm

/-- What a tree file holds is decided by what its path leads to. -/
theorem readTree_eq_of_lookup {files files' : FileTree} {p : FilePath}
    (h : files'.lookup p = files.lookup p) : files'.readTree p = files.readTree p := by
  unfold readTree
  rw [h]
  cases hlookup : files.lookup p with
  | error fault => rfl
  | ok e =>
    cases e with
    | none => rfl
    | some e => rw [read_eq_of_lookup h hlookup]

/-- Where there is an entry the path leads to an address. -/
theorem exists_resolve_of_lookup {files : FileTree} {p : FilePath} {e : Entry}
    (h : files.lookup p = .ok (some e)) : ∃ a, files.resolve p = .ok a := by
  unfold lookup at h
  split at h
  next a ha => exact ⟨a, ha⟩
  next => cases h
  next => cases h

/-! ## Walking down -/

/-- Names may be followed in two parts. -/
theorem descend_append {tree : FileTree} {here there : Address} {names : List String}
    (h : tree.descend here names = .ok there) (more : List String) :
    tree.descend here (names ++ more) = tree.descend there more := by
  induction names generalizing here with
  | nil =>
    cases h
    rfl
  | cons name rest ih =>
    rw [FileTree.descend] at h
    rw [List.cons_append, FileTree.descend]
    split at h
    next hfolder =>
      split at h
      · cases h
      next hlength => simpa only [hfolder, if_neg hlength] using ih h
    next => cases h
    next => cases h

/-- Where names lead, the names before the last one lead to a folder. -/
theorem exists_of_descend_concat {tree : FileTree} {here there : Address} {names : List String}
    {name : String} (h : tree.descend here (names ++ [name]) = .ok there) :
    ∃ folder, tree.descend here names = .ok folder ∧ tree.get? folder = some .folder ∧
      there = step folder name := by
  induction names generalizing here with
  | nil =>
    rw [List.nil_append, descend] at h
    split at h
    next hfolder =>
      split at h
      · cases h
      · exact ⟨here, rfl, hfolder, (Except.ok.inj h).symm⟩
    next => cases h
    next => cases h
  | cons first rest ih =>
    rw [List.cons_append, descend] at h
    rw [descend]
    split at h
    next hfolder =>
      split at h
      · cases h
      next hlength =>
        simp only [if_neg hlength]
        exact ih h
    next => cases h
    next => cases h

/-- Names of entries lead straight down. -/
theorem eq_append_of_descend {tree : FileTree} {here there : Address} {names : List String}
    (hnames : ∀ s ∈ names, IsEntryName s) (h : tree.descend here names = .ok there) :
    there = here ++ names := by
  induction names generalizing here with
  | nil =>
    cases h
    exact (List.append_nil _).symm
  | cons name rest ih =>
    obtain ⟨⟨⟨hempty, hdot, -⟩, hup⟩, hrest⟩ := List.forall_mem_cons.1 hnames
    have hstep : step here name = here ++ [name] := by simp [step, hempty, hdot, hup]
    rw [FileTree.descend] at h
    split at h
    next =>
      split at h
      · cases h
      · rw [ih hrest h, hstep, List.append_assoc]
        rfl
    next => cases h
    next => cases h

/-- A path that goes on from a folder by names of entries leads to the address below it. -/
theorem eq_append_of_resolve {tree : FileTree} {folder p : FilePath} {a b : Address}
    {names : List String} (hfolder : tree.resolve folder = .ok a) (hstart : p.start = folder.start)
    (hparts : p.parts = folder.parts ++ names) (hnames : ∀ s ∈ names, IsEntryName s)
    (h : tree.resolve p = .ok b) : b = a ++ names := by
  have hdown := descend_of_resolve h
  rw [hstart, hparts, descend_append (descend_of_resolve hfolder)] at hdown
  exact eq_append_of_descend hnames hdown

/-- A path next to one that leads somewhere does not lead nowhere. -/
theorem not_isDeadEnd_of_sibling {files : FileTree} {p q : FilePath} {a : Address} {name : String}
    (hp : files.resolve p = .ok a) (hne : p.parts ≠ []) (hstart : q.start = p.start)
    (hparts : q.parts = p.parts.dropLast ++ [name]) : ¬IsDeadEnd (files.resolve q) := by
  obtain ⟨above, last, habove⟩ : ∃ above last, p.parts = above ++ [last] :=
    ⟨_, _, (List.dropLast_concat_getLast hne).symm⟩
  have hdown := descend_of_resolve hp
  rw [habove] at hdown
  obtain ⟨folder, hfolder, hlies, -⟩ := exists_of_descend_concat hdown
  rw [habove, List.dropLast_concat] at hparts
  have hlast : files.descend (files.startAddress q.start) q.parts =
      files.descend folder [name] := by
    rw [hparts, hstart, descend_append hfolder]
  unfold resolve
  split
  · simp [IsDeadEnd]
  split
  · simp [IsDeadEnd]
  · rw [hlast, descend, hlies]
    dsimp only
    split <;> simp [IsDeadEnd, descend]

end TicketMarkup.FileTree
