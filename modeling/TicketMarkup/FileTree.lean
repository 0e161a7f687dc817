import TicketMarkup.FilePath
import TicketMarkup.Text.Quoted

/-!
# File trees

The files and folders that a run works on, as a value. An entry lies at an address, the names from
the root down, and a path leads to an address by way of folders only. Reading leaves the tree as it
is; writing changes the entry at one address and no other.

A file tree has no links and no rights of access, and a write that is begun is completed; what a
system refuses besides (`AccessFault.refused`) is said by the machine that a program runs on.

Main statements: `get?_insert`, what lies where after an entry was put; `read_write`, what was
written is read; and `get?_write_of_ne`, nothing else is changed.
-/

namespace TicketMarkup

/-- Where an entry lies: the names from the root down. -/
abbrev Address := List String

/-- What lies at an address. -/
inductive Entry where
  | file (octets : List UInt8)
  | folder
  deriving DecidableEq

/-- A name that an entry can have. The folder above is no entry of its own. -/
def IsEntryName (s : String) : Prop := IsPathName s ∧ s ≠ ".."

instance (s : String) : Decidable (IsEntryName s) := inferInstanceAs (Decidable (_ ∧ _))

/-- The entries under the root, each at one address, and the folder that paths start at. -/
structure FileTree where
  working : Address
  entries : List (Address × Entry)
  isEntryName_working : ∀ s ∈ working, IsEntryName s
  isEntryName : ∀ a ∈ entries.map Prod.fst, ∀ s ∈ a, IsEntryName s
  nodup : (entries.map Prod.fst).Nodup

/-- Why a file cannot be read or written. -/
inductive AccessFault where
  /-- Nothing lies where the path leads. -/
  | missing
  /-- The path leads through a file. -/
  | notFolder
  /-- A folder lies where the path leads. -/
  | isFolder
  /-- The path, or a name on it, is longer than any that leads somewhere. -/
  | nameTooLong
  /-- The path holds a null character, which no name has. -/
  | nullCharacter
  /-- The system refuses, for a reason that has a number and a wording. -/
  | refused (number : Nat) (reason : String)
  deriving DecidableEq, Repr

/-- The wording of a fault, met on the way along a path. -/
def AccessFault.message (p : FilePath) : AccessFault → String
  | missing => "[Errno 2] No such file or directory: " ++ Text.quoted p.text
  | notFolder => "[Errno 20] Not a directory: " ++ Text.quoted p.text
  | isFolder => "[Errno 21] Is a directory: " ++ Text.quoted p.text
  | nameTooLong => "[Errno 36] File name too long: " ++ Text.quoted p.text
  | nullCharacter => "embedded null byte"
  | refused number reason =>
    "[Errno " ++ toString number ++ "] " ++ reason ++ ": " ++ Text.quoted p.text

namespace FileTree

/-! ## Entries -/

/-- The entry that is listed under an address. -/
def listed (a : Address) : List (Address × Entry) → Option Entry
  | [] => none
  | (b, e) :: rest => if b = a then some e else listed a rest

/-- A list with an entry put under an address, in place of the one that was there. -/
def put (a : Address) (e : Entry) : List (Address × Entry) → List (Address × Entry)
  | [] => [(a, e)]
  | (b, f) :: rest => if b = a then (a, e) :: rest else (b, f) :: put a e rest

/-- An entry that is put is found at its address, and the others stay where they were. -/
theorem listed_put (a b : Address) (e : Entry) (entries : List (Address × Entry)) :
    listed b (put a e entries) = if a = b then some e else listed b entries := by
  induction entries with
  | nil => simp [put, listed]
  | cons x rest ih =>
    obtain ⟨c, f⟩ := x
    by_cases hca : c = a
    · subst hca
      by_cases hcb : c = b <;> simp [put, listed, hcb]
    · by_cases hcb : c = b
      · subst hcb
        simp [put, listed, hca, Ne.symm hca]
      · simp [put, listed, hca, hcb, ih]

/-- Putting an entry adds its address and no other. -/
theorem mem_keys_put {a b : Address} {e : Entry} {entries : List (Address × Entry)} :
    b ∈ (put a e entries).map Prod.fst ↔ b = a ∨ b ∈ entries.map Prod.fst := by
  induction entries with
  | nil => simp [put]
  | cons x rest ih =>
    obtain ⟨c, f⟩ := x
    by_cases h : c = a
    · subst h
      simp [put]
    · simp only [put, h, if_false, List.map_cons, List.mem_cons, ih]
      constructor
      · rintro (h | h | h) <;> simp [h]
      · rintro (h | h | h) <;> simp [h]

/-- Putting an entry at an address that is taken replaces what was there. -/
theorem nodup_put {a : Address} {e : Entry} {entries : List (Address × Entry)}
    (h : (entries.map Prod.fst).Nodup) : ((put a e entries).map Prod.fst).Nodup := by
  induction entries with
  | nil => simp [put]
  | cons x rest ih =>
    obtain ⟨c, f⟩ := x
    rw [List.map_cons, List.nodup_cons] at h
    by_cases hc : c = a
    · subst hc
      simpa [put] using h
    · simp only [put, hc, if_false, List.map_cons, List.nodup_cons]
      exact ⟨fun hm => (mem_keys_put.1 hm).elim hc h.1, ih h.2⟩

/-- The tree without entries, with a working folder. -/
def empty (working : Address) (h : ∀ s ∈ working, IsEntryName s := by decide) : FileTree :=
  ⟨working, [], h, by simp, List.nodup_nil⟩

/-- What lies at an address. The root is a folder. -/
def get? (tree : FileTree) (a : Address) : Option Entry :=
  if a = [] then some .folder else listed a tree.entries

/-- The tree with an entry put at an address, which has to be one of names that entries have. -/
def insert (tree : FileTree) (a : Address) (e : Entry) : FileTree :=
  if h : ∀ s ∈ a, IsEntryName s then
    { tree with
      entries := put a e tree.entries
      isEntryName := fun b hb => (mem_keys_put.1 hb).elim (fun hab => hab ▸ h) (tree.isEntryName b)
      nodup := nodup_put tree.nodup }
  else tree

@[simp] theorem working_insert (tree : FileTree) (a : Address) (e : Entry) :
    (tree.insert a e).working = tree.working := by
  unfold insert
  split <;> rfl

/-- What lies where after an entry was put. -/
theorem get?_insert {tree : FileTree} {a : Address} (ha : ∀ s ∈ a, IsEntryName s) (h : a ≠ [])
    (e : Entry) (b : Address) :
    (tree.insert a e).get? b = if a = b then some e else tree.get? b := by
  simp only [get?, insert, dif_pos ha, listed_put]
  by_cases hb : b = []
  · subst hb
    simp [h]
  · simp [hb]

/-- The tree with an entry put at an address and folders made on the way to it. -/
def place (tree : FileTree) (a : Address) (e : Entry) : FileTree :=
  let folders := (List.range a.length).map a.take
  (folders.foldl (fun t b => if (t.get? b).isSome then t else t.insert b .folder) tree).insert a e

/-! ## Paths -/

/-- Where a name leads from an address. -/
def step (here : Address) (name : String) : Address :=
  if name = "" || name = "." then here
  else if name = ".." then here.dropLast
  else here ++ [name]

/-- The most octets that a name has. -/
def nameLimit : Nat := 255

/-- The most octets that a path has. -/
def pathLimit : Nat := 4095

/-- Where names lead from an address. Each step is taken in a folder. -/
def descend (tree : FileTree) (here : Address) : List String → Except AccessFault Address
  | [] => .ok here
  | name :: rest =>
    match tree.get? here with
    | some .folder =>
      if nameLimit < name.utf8ByteSize then .error .nameTooLong
      else tree.descend (step here name) rest
    | some (.file _) => .error .notFolder
    | none => .error .missing

/-- The address that a path starts at. -/
def startAddress (tree : FileTree) : PathStart → Address
  | .working => tree.working
  | _ => []

@[simp] theorem startAddress_insert (tree : FileTree) (a : Address) (e : Entry) (s : PathStart) :
    (tree.insert a e).startAddress s = tree.startAddress s := by
  cases s <;> simp [startAddress]

/-- The address that a path leads to; whether anything lies there is another question. -/
def resolve (tree : FileTree) (p : FilePath) : Except AccessFault Address :=
  if '\x00' ∈ p.text.toList then .error .nullCharacter
  else if pathLimit < p.text.utf8ByteSize then .error .nameTooLong
  else tree.descend (tree.startAddress p.start) p.parts

/-- What a path leads to, if anything. That it is too long is the only reason not to know. -/
def lookup (tree : FileTree) (p : FilePath) : Except AccessFault (Option Entry) :=
  match tree.resolve p with
  | .ok a => .ok (tree.get? a)
  | .error .nameTooLong => .error .nameTooLong
  | .error _ => .ok none

/-- What a path leads to. -/
def find? (tree : FileTree) (p : FilePath) : Option Entry :=
  match tree.resolve p with
  | .ok a => tree.get? a
  | .error _ => none

/-- Whether a path leads to a file. -/
def isFile (tree : FileTree) (p : FilePath) : Bool :=
  match tree.find? p with
  | some (.file _) => true
  | _ => false

/-! ## Reading and writing -/

/-- The octets of the file that a path leads to. -/
def read (tree : FileTree) (p : FilePath) : Except AccessFault (List UInt8) :=
  match tree.resolve p with
  | .error fault => .error fault
  | .ok a =>
    match tree.get? a with
    | some (.file octets) => .ok octets
    | some .folder => .error .isFolder
    | none => .error .missing

/-- The tree after octets were written to the file that a path leads to, which need not exist. -/
def write (tree : FileTree) (p : FilePath) (octets : List UInt8) : Except AccessFault FileTree :=
  match tree.resolve p with
  | .error fault => .error fault
  | .ok a =>
    if tree.get? a = some .folder then .error .isFolder else .ok (tree.insert a (.file octets))

/-- A step stays among names that an entry can have. -/
theorem isEntryName_step {here : Address} {name : String} (h : ∀ s ∈ here, IsEntryName s)
    (hn : '/' ∉ name.toList) : ∀ s ∈ step here name, IsEntryName s := by
  unfold step
  split
  next => exact h
  next h₁ =>
    split
    next => exact fun s hs => h s (here.dropLast_subset hs)
    next h₂ =>
      simp only [Bool.or_eq_true, decide_eq_true_eq, not_or] at h₁
      intro s hs
      rcases List.mem_append.1 hs with hs | hs
      · exact h s hs
      · obtain rfl := List.mem_singleton.1 hs
        exact ⟨⟨h₁.1, h₁.2, hn⟩, h₂⟩

/-- The address that names lead to is made of names that an entry can have. -/
theorem isEntryName_descend {tree : FileTree} {here there : Address} {names : List String}
    (h : ∀ s ∈ here, IsEntryName s) (hn : ∀ name ∈ names, '/' ∉ name.toList)
    (hd : tree.descend here names = .ok there) : ∀ s ∈ there, IsEntryName s := by
  induction names generalizing here with
  | nil =>
    obtain rfl := Except.ok.inj hd
    exact h
  | cons name rest ih =>
    unfold descend at hd
    split at hd
    next =>
      split at hd
      next => cases hd
      next =>
        exact ih (isEntryName_step h (hn name List.mem_cons_self))
          (fun n hm => hn n (List.mem_cons_of_mem _ hm)) hd
    next => cases hd
    next => cases hd

/-- An address that a path leads to is found from the address that it starts at. -/
theorem descend_of_resolve {tree : FileTree} {p : FilePath} {a : Address}
    (h : tree.resolve p = .ok a) : tree.descend (tree.startAddress p.start) p.parts = .ok a := by
  unfold resolve at h
  split at h
  next => cases h
  next =>
    split at h
    next => cases h
    next => exact h

/-- A path leads to an address of names that entries have. -/
theorem isEntryName_resolve {tree : FileTree} {p : FilePath} {a : Address}
    (h : tree.resolve p = .ok a) : ∀ s ∈ a, IsEntryName s := by
  refine isEntryName_descend ?_ (fun name hn => (p.isPathName name hn).2.2) (descend_of_resolve h)
  unfold startAddress
  split
  next => exact tree.isEntryName_working
  next => simp

/-- A write puts a file at the address that the path leads to, where no folder is. -/
theorem resolve_of_write {tree tree' : FileTree} {p : FilePath} {octets : List UInt8}
    (h : tree.write p octets = .ok tree') :
    ∃ a, tree.resolve p = .ok a ∧ tree.get? a ≠ some .folder ∧
      tree' = tree.insert a (.file octets) := by
  unfold write at h
  split at h
  next => cases h
  next a ha =>
    split at h
    next => cases h
    next hf => exact ⟨a, ha, hf, (Except.ok.inj h).symm⟩

/-- The root is a folder. -/
theorem ne_nil_of_not_folder {tree : FileTree} {a : Address} (h : tree.get? a ≠ some .folder) :
    a ≠ [] := by
  rintro rfl
  exact h (by simp [get?])

/-- A walk by way of folders is the same after a file was put where no folder was. -/
theorem descend_insert {tree : FileTree} {a : Address} {octets : List UInt8}
    (hn : ∀ s ∈ a, IsEntryName s) (ha : tree.get? a ≠ some .folder) {here there : Address}
    {names : List String} (h : tree.descend here names = .ok there) :
    (tree.insert a (.file octets)).descend here names = .ok there := by
  induction names generalizing here with
  | nil => exact h
  | cons name rest ih =>
    unfold descend at h ⊢
    split at h
    next hf =>
      rw [get?_insert hn (ne_nil_of_not_folder ha), if_neg (by rintro rfl; exact ha hf), hf]
      dsimp only at h ⊢
      split at h
      next => cases h
      next hl => rw [if_neg hl]; exact ih h
    next => cases h
    next => cases h

/-- A path leads to the same address after a file was put where no folder was. -/
theorem resolve_insert {tree : FileTree} {a b : Address} {octets : List UInt8} {p : FilePath}
    (hn : ∀ s ∈ a, IsEntryName s) (ha : tree.get? a ≠ some .folder)
    (h : tree.resolve p = .ok b) : (tree.insert a (.file octets)).resolve p = .ok b := by
  have hd : (tree.insert a (.file octets)).descend (tree.startAddress p.start) p.parts = .ok b :=
    descend_insert hn ha (descend_of_resolve h)
  unfold resolve at h ⊢
  split at h
  next => cases h
  next h₀ =>
    split at h
    next => cases h
    next h₁ =>
      rw [if_neg h₀, if_neg h₁, startAddress_insert]
      exact hd

/-- What was written is read. -/
theorem read_write {tree tree' : FileTree} {p : FilePath} {octets : List UInt8}
    (h : tree.write p octets = .ok tree') : tree'.read p = .ok octets := by
  obtain ⟨a, ha, hf, rfl⟩ := resolve_of_write h
  have hn := isEntryName_resolve ha
  simp [read, resolve_insert hn hf ha, get?_insert hn (ne_nil_of_not_folder hf)]

/-- Writing changes what lies at one address only. -/
theorem get?_write_of_ne {tree tree' : FileTree} {p : FilePath} {octets : List UInt8}
    {a b : Address} (h : tree.write p octets = .ok tree') (ha : tree.resolve p = .ok a)
    (hb : b ≠ a) : tree'.get? b = tree.get? b := by
  obtain ⟨a', ha', hf, rfl⟩ := resolve_of_write h
  obtain rfl : a = a' := Except.ok.inj (ha.symm.trans ha')
  rw [get?_insert (isEntryName_resolve ha) (ne_nil_of_not_folder hf), if_neg (Ne.symm hb)]

/-! ## Listing -/

/-- The names that lead from one address down to another, if it lies there. -/
def namesFrom? : Address → Address → Option (List String)
  | [], b => some b
  | x :: a, y :: b => if x = y then namesFrom? a b else none
  | _ :: _, [] => none

theorem namesFrom?_eq_some_iff {a b : Address} {names : List String} :
    namesFrom? a b = some names ↔ b = a ++ names := by
  induction a generalizing b with
  | nil => simp [namesFrom?]
  | cons x a ih =>
    cases b with
    | nil => simp [namesFrom?]
    | cons y b =>
      by_cases h : x = y
      · simp [namesFrom?, h, ih]
      · simp [namesFrom?, h, Ne.symm h]

/-- The names that lead from an address down to each entry below it. -/
def namesBelow (tree : FileTree) (a : Address) : List (List String) :=
  (tree.entries.map Prod.fst).filterMap fun b =>
    match namesFrom? a b with
    | some (name :: rest) => some (name :: rest)
    | _ => none

/-- Names that are listed below an address lead to an entry. -/
theorem append_mem_of_mem_namesBelow {tree : FileTree} {a : Address} {names : List String}
    (h : names ∈ tree.namesBelow a) : a ++ names ∈ tree.entries.map Prod.fst := by
  obtain ⟨b, hb, hm⟩ := List.mem_filterMap.1 h
  split at hm
  next name rest hp =>
    obtain rfl := Option.some.inj hm
    exact namesFrom?_eq_some_iff.1 hp ▸ hb
  next => cases hm

/-- Names that are listed may be written in a path. -/
theorem isPathName_of_mem_namesBelow {tree : FileTree} {a : Address} {names : List String}
    (h : names ∈ tree.namesBelow a) : ∀ s ∈ names, IsPathName s := fun s hs =>
  (tree.isEntryName _ (append_mem_of_mem_namesBelow h) s (List.mem_append_right _ hs)).1

/-- The paths of the entries below the folder that a path leads to, or of those in it only. -/
def below (tree : FileTree) (p : FilePath) (recursive : Bool) : List FilePath :=
  match tree.resolve p with
  | .error _ => []
  | .ok a =>
    ((tree.namesBelow a).pmap p.append fun _ => isPathName_of_mem_namesBelow).filter fun q =>
      recursive || q.parts.length = p.parts.length + 1

/-- The paths of the folders below the folder that a path leads to. -/
def foldersBelow (tree : FileTree) (p : FilePath) : List FilePath :=
  match tree.resolve p with
  | .error _ => []
  | .ok a =>
    ((tree.namesBelow a).filter fun names => tree.get? (a ++ names) = some .folder).pmap p.append
      fun _ h => isPathName_of_mem_namesBelow (List.mem_filter.1 h).1

/-- The files of a tree that another tree does not have, or has with other content. -/
def changes (before after : FileTree) : List (Address × List UInt8) :=
  after.entries.filterMap fun e =>
    match e.2 with
    | .file octets => if before.get? e.1 = some (.file octets) then none else some (e.1, octets)
    | .folder => none

end FileTree

end TicketMarkup
