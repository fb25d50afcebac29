import Mathlib.Data.List.AList
import Mathlib.Data.List.Induction
import Ppaass.Lib.Bytes

/-!
# File systems

A file system is a finite map from paths to contents in which every entry lies in a directory
(`FileSystem.inDirectory`), and the operations on it work on that map. Slashes that follow each
other separate like one; nothing else about a path is interpreted (`.` and `..` are names). There
are no links and no permissions.

* `parse_append_name`, `parse_append`: how the paths of strings that are put together lie.
* `Extends`, `Changes`: what the operations leave as it was; `run_createDirAll` and `run_write` are
  their specifications.
* `FileSystem.ReadDir`: what reading a directory may give, in any order and with errors in between.
* `OnlyOn`: a file system that holds one directory, with what is in it.
-/

namespace Fs

open Wire

abbrev IoError := String

/-! ## Paths -/

/-- `'/'`. -/
def SEP : UInt8 := 47

/-- The name of an entry. -/
abbrev Name := {b : Bytes // b ≠ [] ∧ SEP ∉ b ∧ 0 ∉ b}

/-- A path, absolute or not. -/
inductive Path where
  | root (absolute : Bool)
  | child (dir : Path) (name : Name)
  deriving DecidableEq

namespace Path

def parent : Path → Option Path
  | .root _ => none
  | .child dir _ => some dir

def join (dir : Path) (names : List Name) : Path := names.foldl .child dir

/-- `q` is `p` or lies in it. -/
inductive Le (p : Path) : Path → Prop
  | refl : Le p p
  | child {q : Path} (name : Name) : Le p q → Le p (.child q name)

instance : LE Path := ⟨Le⟩

/-- The names between the slashes. -/
def components (s : Bytes) : List Name :=
  (s.splitOn SEP).filterMap fun b => if h : b ≠ [] ∧ SEP ∉ b ∧ 0 ∉ b then some ⟨b, h⟩ else none

def parse (s : Bytes) : Path := (root (s.head? = some SEP)).join (components s)

/-- What the system takes for a path. -/
def ofBytes (s : Bytes) : Except IoError Path :=
  if s = [] then .error "No such file or directory"
  else if 0 ∈ s then .error "file name contained an unexpected NUL byte"
  else .ok (parse s)

def ofString (s : String) : Except IoError Path := ofBytes (utf8 s)

/-! ### Order -/

variable {p q r : Path} {name : Name}

theorem le_refl (p : Path) : p ≤ p := .refl

theorem le_child (name : Name) (h : p ≤ q) : p ≤ q.child name := .child name h

theorem le_child_iff : p ≤ q.child name ↔ p = q.child name ∨ p ≤ q := by
  constructor
  · intro h
    cases h with
    | refl => exact .inl rfl
    | child _ h => exact .inr h
  · rintro (rfl | h)
    · exact le_refl _
    · exact le_child name h

theorem le_trans (h : p ≤ q) (h' : q ≤ r) : p ≤ r := by
  induction h' with
  | refl => exact h
  | child name _ ih => exact le_child name ih

theorem le_join (p : Path) (names : List Name) : p ≤ p.join names := by
  induction names using List.reverseRecOn with
  | nil => exact le_refl p
  | append_singleton names name ih =>
    rw [join, List.foldl_append]
    exact le_child name ih

/-- Two paths on the way to a third. -/
theorem le_or_le_of_le (hp : p ≤ r) (hq : q ≤ r) : p ≤ q ∨ q ≤ p := by
  induction hp with
  | refl => exact .inr hq
  | child name hp ih =>
    obtain rfl | hq := le_child_iff.1 hq
    · exact .inl (le_child name hp)
    · exact ih hq

def depth : Path → Nat
  | .root _ => 0
  | .child dir _ => dir.depth + 1

theorem depth_le (h : p ≤ q) : p.depth ≤ q.depth := by
  induction h with
  | refl => exact Nat.le_refl _
  | child name _ ih => exact Nat.le_succ_of_le ih

/-- What lies in one entry of a directory does not lie on the way to another, and is not on that
way either. -/
theorem not_le_sibling {name' file : Name} (hne : name ≠ name') :
    ¬((p.child name).child file ≤ p.child name' ∨ p.child name' ≤ (p.child name).child file) := by
  rintro (h | h)
  · have hdepth := depth_le h
    simp only [depth] at hdepth
    omega
  · obtain h | h := le_child_iff.1 h
    · have hdepth := congrArg depth h
      simp only [depth] at hdepth
      omega
    · obtain h | h := le_child_iff.1 h
      · exact hne (child.inj h).2.symm
      · have hdepth := depth_le h
        simp only [depth] at hdepth
        omega

/-! ### Strings that are put together -/

@[simp] theorem components_nil : components [] = [] := rfl

theorem components_append (s u : Bytes) :
    components (s ++ SEP :: u) = components s ++ components u := by
  rw [components, List.splitOn_append_cons_self, List.filterMap_append]
  rfl

@[simp] theorem components_name (name : Name) : components name.1 = [name] := by
  rw [components, List.splitOn_eq_singleton name.2.2.1]
  simp [name.2]

theorem components_sep (s : Bytes) : components (s ++ [SEP]) = components s := by
  rw [components_append, components_nil, List.append_nil]

theorem parse_append (s u : Bytes) :
    parse (s ++ SEP :: u) = (parse (s ++ [SEP])).join (components u) := by
  have hhead : (s ++ SEP :: u).head? = (s ++ [SEP]).head? := by cases s <;> rfl
  rw [parse, parse, components_append, components_sep, hhead, join, join, join, List.foldl_append]

/-- A slash at the end means nothing. -/
theorem parse_sep {s : Bytes} (h : s ≠ []) : parse (s ++ [SEP]) = parse s := by
  rw [parse, components_sep, List.head?_append_of_ne_nil s h]
  rfl

theorem ofString_eq {s : String} (hne : utf8 s ≠ []) (hnul : 0 ∉ utf8 s) :
    ofString s = .ok (parse (utf8 s)) := by
  rw [ofString, ofBytes, if_neg hne, if_neg hnul]

theorem of_ofString {s : String} (h : ofString s = .ok p) :
    utf8 s ≠ [] ∧ 0 ∉ utf8 s ∧ p = parse (utf8 s) := by
  unfold ofString ofBytes at h
  split at h
  · cases h
  split at h
  · cases h
  · rename_i hne hnul
    exact ⟨hne, hnul, (Except.ok.inj h).symm⟩

/-- A string is closed when what is put behind it is a new name. -/
def Closed (s : Bytes) : Prop := s = [] ∨ s.getLast? = some SEP

theorem Closed.eq {s : Bytes} (h : Closed s) : s = [] ∨ ∃ front, s = front ++ [SEP] := by
  obtain h | h := h
  · exact .inl h
  · exact .inr (List.getLast?_eq_some_iff.1 h)

theorem parse_append_name {s : Bytes} (hs : Closed s) (name : Name) :
    parse (s ++ name.1) = (parse s).child name := by
  obtain rfl | ⟨front, rfl⟩ := hs.eq
  · have hhead : name.1.head? ≠ some SEP := fun h => name.2.2.1 (List.mem_of_head? h)
    rw [List.nil_append, parse, components_name, decide_eq_false hhead]
    rfl
  · rw [List.append_assoc, List.singleton_append, parse_append, components_name]
    rfl

theorem parse_append_file {s : Bytes} (hs : Closed s) (name file : Name) :
    parse (s ++ name.1 ++ SEP :: file.1) = ((parse s).child name).child file := by
  obtain rfl | ⟨front, rfl⟩ := hs.eq
  · have hhead : (name.1 ++ SEP :: file.1).head? ≠ some SEP := by
      intro h
      obtain ⟨b, bs, hb⟩ := List.exists_cons_of_ne_nil name.2.1
      rw [hb, List.cons_append, List.head?_cons, Option.some_inj] at h
      exact name.2.2.1 (by rw [hb, h]; exact List.mem_cons_self)
    rw [List.nil_append, parse, components_append, components_name, components_name,
      decide_eq_false hhead]
    rfl
  · rw [List.append_assoc, List.append_assoc, List.singleton_append, parse_append,
      components_append, components_name, components_name]
    rfl

/-- What follows the last slash of a string. -/
theorem exists_last {s : Bytes} (h : s ≠ []) (hs : s.getLast? ≠ some SEP) :
    ∃ front last, s = front ++ last ∧ Closed front ∧ last ≠ [] ∧ SEP ∉ last := by
  induction s using List.reverseRecOn with
  | nil => exact absurd rfl h
  | append_singleton s b ih =>
    have hb : b ≠ SEP := by simpa using hs
    by_cases hclosed : Closed s
    · exact ⟨s, [b], rfl, hclosed, List.cons_ne_nil b [], by simpa using hb.symm⟩
    · obtain ⟨hne, hlast⟩ := not_or.1 hclosed
      obtain ⟨front, last, rfl, hfront, -, hsep⟩ := ih hne hlast
      refine ⟨front, last ++ [b], List.append_assoc .., hfront, by simp, ?_⟩
      simpa [hsep] using hb.symm

end Path

/-! ## The map -/

inductive Node where
  | directory
  | file (content : Bytes)
  deriving DecidableEq, Repr

/-- What there is at a path. The roots are always there. -/
def nodeAt (entries : AList fun _ : Path × Name => Node) : Path → Option Node
  | .root _ => some .directory
  | .child dir name => entries.lookup (dir, name)

structure FileSystem where
  entries : AList fun _ : Path × Name => Node
  inDirectory : ∀ dir name, (dir, name) ∈ entries → nodeAt entries dir = some .directory

namespace FileSystem

def empty : FileSystem := ⟨∅, fun _ _ h => absurd h (AList.notMem_empty _)⟩

def node (fs : FileSystem) : Path → Option Node := nodeAt fs.entries

variable {fs fs' fs'' : FileSystem} {p q dir : Path} {name : Name}

theorem isSome_node_child : (fs.node (dir.child name)).isSome ↔ (dir, name) ∈ fs.entries :=
  AList.lookup_isSome

theorem node_dir {n : Node} (h : fs.node (dir.child name) = some n) :
    fs.node dir = some .directory :=
  fs.inDirectory dir name (isSome_node_child.1 (by rw [h]; rfl))

theorem nodeAt_insert {entries : AList fun _ : Path × Name => Node} {n : Node} :
    nodeAt (entries.insert (dir, name) n) q =
      if q = dir.child name then some n else nodeAt entries q := by
  cases q with
  | root a => rfl
  | child d m =>
    by_cases h : (d, m) = (dir, name)
    · cases h
      rw [if_pos rfl]
      exact AList.lookup_insert entries
    · rw [if_neg (by simpa using h)]
      exact AList.lookup_insert_ne h

/-- An entry is made in a directory, or changed when it is not one itself. -/
def put (fs : FileSystem) (dir : Path) (name : Name) (n : Node)
    (hdir : fs.node dir = some .directory) (hname : fs.node (dir.child name) ≠ some .directory) :
    FileSystem where
  entries := fs.entries.insert (dir, name) n
  inDirectory d m h := by
    have hd : nodeAt fs.entries d = some .directory := by
      obtain h | h := (AList.mem_insert _).1 h
      · cases h
        exact hdir
      · exact fs.inDirectory d m h
    rw [nodeAt_insert, if_neg (fun h => hname (by rw [← h]; exact hd)), hd]

@[simp] theorem node_put {n : Node} {hdir : fs.node dir = some .directory}
    {hname : fs.node (dir.child name) ≠ some .directory} :
    (fs.put dir name n hdir hname).node q = if q = dir.child name then some n else fs.node q :=
  nodeAt_insert

/-! ## Operations -/

abbrev M (ε α : Type) := EStateM ε FileSystem α

def mkdir (dir : Path) (name : Name) : M IoError Unit := do
  let fs ← get
  if h : fs.node dir = some .directory ∧ fs.node (dir.child name) = none then
    set (fs.put dir name .directory h.1 (by simp [h.2]))
  else if (fs.node (dir.child name)).isSome then throw "File exists"
  else throw "No such file or directory"

def createDirAll : Path → M IoError Unit
  | .root _ => pure ()
  | .child dir name => do
    match (← get).node (dir.child name) with
    | some .directory => pure ()
    | some (.file _) => throw "File exists"
    | none =>
      createDirAll dir
      mkdir dir name

/-- `content` becomes the whole content of the file. -/
def write (p : Path) (content : Bytes) : M IoError Unit :=
  match p with
  | .root _ => throw "Is a directory"
  | .child dir name => do
    let fs ← get
    if hname : fs.node (dir.child name) = some .directory then throw "Is a directory"
    else if hdir : fs.node dir = some .directory then
      set (fs.put dir name (.file content) hdir hname)
    else throw "No such file or directory"

/-- Opening gives what reading to the end will give. -/
def openFile (fs : FileSystem) (p : Path) : Except IoError (Except IoError Bytes) :=
  match fs.node p with
  | some (.file content) => .ok (.ok content)
  | some .directory => .ok (.error "Is a directory")
  | none => .error "No such file or directory"

/-- The entries of a directory without `.` and `..`, in any order and with errors in between. -/
def Lists (fs : FileSystem) (dir : Path) (entries : List (Except IoError Bytes)) : Prop :=
  ∀ b, .ok b ∈ entries ↔
    b ≠ utf8 "." ∧ b ≠ utf8 ".." ∧ ∃ name : Name, name.1 = b ∧ (fs.node (dir.child name)).isSome

/-- What reading the directory at a path may give. -/
inductive ReadDir (fs : FileSystem) (path : Except IoError Path) :
    Except IoError (List (Except IoError Bytes)) → Prop
  | ok {dir : Path} {entries : List (Except IoError Bytes)} (hpath : path = .ok dir)
      (hdir : fs.node dir = some .directory) (hentries : fs.Lists dir entries) :
      ReadDir fs path (.ok entries)
  | error {e : IoError} (h : ∀ dir, path = .ok dir → fs.node dir ≠ some .directory) :
      ReadDir fs path (.error e)

/-- A directory can be listed: the map is finite. -/
theorem exists_lists (fs : FileSystem) (dir : Path) : ∃ entries, fs.Lists dir entries := by
  refine ⟨((fs.entries.keys.filter fun k => k.1 = dir ∧ k.2.1 ≠ utf8 "." ∧ k.2.1 ≠ utf8 "..").map
    fun k => .ok k.2.1), fun b => ?_⟩
  simp only [List.mem_map, List.mem_filter, decide_eq_true_eq, Except.ok.injEq, isSome_node_child,
    ← AList.mem_keys]
  constructor
  · rintro ⟨⟨d, name⟩, ⟨hmem, rfl, hdot, hdots⟩, rfl⟩
    exact ⟨hdot, hdots, name, rfl, hmem⟩
  · rintro ⟨hdot, hdots, name, rfl, hmem⟩
    exact ⟨(dir, name), ⟨hmem, rfl, hdot, hdots⟩, rfl⟩

theorem exists_readDir (fs : FileSystem) (path : Except IoError Path) : ∃ r, fs.ReadDir path r := by
  by_cases h : ∃ dir, path = .ok dir ∧ fs.node dir = some .directory
  · obtain ⟨dir, hpath, hdir⟩ := h
    obtain ⟨entries, hentries⟩ := fs.exists_lists dir
    exact ⟨_, .ok hpath hdir hentries⟩
  · exact ⟨.error "No such file or directory", .error fun dir hpath hdir => h ⟨dir, hpath, hdir⟩⟩

theorem ReadDir.entries {path : Except IoError Path}
    {r : Except IoError (List (Except IoError Bytes))} (h : fs.ReadDir path r)
    (hpath : path = .ok dir) (hdir : fs.node dir = some .directory) :
    ∃ entries, r = .ok entries ∧ fs.Lists dir entries := by
  cases h with
  | ok hpath' _ hentries =>
    rw [hpath] at hpath'
    cases hpath'
    exact ⟨_, rfl, hentries⟩
  | error h => exact absurd hdir (h dir hpath)

/-! ## What the operations do -/

/-- Nothing is changed, and what is new lies on the way to `p`. -/
structure Extends (p : Path) (fs fs' : FileSystem) : Prop where
  keeps : ∀ q n, fs.node q = some n → fs'.node q = some n
  new : ∀ q, (fs'.node q).isSome → (fs.node q).isSome ∨ q ≤ p

theorem Extends.refl (p : Path) (fs : FileSystem) : Extends p fs fs :=
  ⟨fun _ _ h => h, fun _ h => .inl h⟩

theorem Extends.trans (h : Extends p fs fs') (h' : Extends p fs' fs'') : Extends p fs fs'' where
  keeps q n hq := h'.keeps q n (h.keeps q n hq)
  new q hq := (h'.new q hq).elim (h.new q) .inr

theorem Extends.mono (hp : p ≤ q) (h : Extends p fs fs') : Extends q fs fs' :=
  ⟨h.keeps, fun r hr => (h.new r hr).imp_right fun h => Path.le_trans h hp⟩

/-- Only what is at one of `ps` is changed, and what is new lies on the way to one of them. -/
structure Changes (ps : List Path) (fs fs' : FileSystem) : Prop where
  keeps : ∀ q n, q ∉ ps → fs.node q = some n → fs'.node q = some n
  new : ∀ q, (fs'.node q).isSome → (fs.node q).isSome ∨ ∃ p ∈ ps, q ≤ p

theorem Changes.refl (ps : List Path) (fs : FileSystem) : Changes ps fs fs :=
  ⟨fun _ _ _ h => h, fun _ h => .inl h⟩

theorem Changes.trans {ps : List Path} (h : Changes ps fs fs') (h' : Changes ps fs' fs'') :
    Changes ps fs fs'' where
  keeps q n hps hq := h'.keeps q n hps (h.keeps q n hps hq)
  new q hq := (h'.new q hq).elim (h.new q) .inr

theorem Changes.mono {ps ps' : List Path} (hps : ∀ p ∈ ps, p ∈ ps') (h : Changes ps fs fs') :
    Changes ps' fs fs' where
  keeps q n hq := h.keeps q n (mt (hps q) hq)
  new q hq := (h.new q hq).imp_right fun ⟨p, hp, hqp⟩ => ⟨p, hps p hp, hqp⟩

theorem Extends.changes (h : Extends p fs fs') (hp : p ≤ q) : Changes [q] fs fs' where
  keeps r n _ := h.keeps r n
  new r hr := (h.new r hr).imp_right fun h => ⟨q, List.mem_singleton_self q, Path.le_trans h hp⟩

theorem run_mkdir (hdir : fs.node dir = some .directory) (hname : fs.node (dir.child name) = none) :
    ∃ fs', (mkdir dir name).run fs = .ok () fs' ∧ Extends (dir.child name) fs fs' ∧
      fs'.node (dir.child name) = some .directory := by
  refine ⟨fs.put dir name .directory hdir (by simp [hname]), ?_, ⟨fun q n hq => ?_, fun q hq => ?_⟩,
    by simp⟩
  · simp [mkdir, hdir, hname]
  · rw [node_put, if_neg (by rintro rfl; simp [hname] at hq), hq]
  · by_cases hqc : q = dir.child name
    · rw [hqc]
      exact .inr (Path.le_refl _)
    · rw [node_put, if_neg hqc] at hq
      exact .inl hq

/-- A directory is created with those on the way to it, or an error leaves everything as it was. -/
theorem run_createDirAll (p : Path) (fs : FileSystem) :
    (∃ fs', (createDirAll p).run fs = .ok () fs' ∧ Extends p fs fs' ∧
      fs'.node p = some .directory) ∨ ∃ e, (createDirAll p).run fs = .error e fs := by
  induction p with
  | root a => exact .inl ⟨fs, rfl, .refl _ _, rfl⟩
  | child dir name ih =>
    have hrun : (createDirAll (dir.child name)).run fs = match fs.node (dir.child name) with
      | some .directory => .ok () fs
      | some (.file _) => .error "File exists" fs
      | none => (createDirAll dir >>= fun _ => mkdir dir name).run fs := by
      rw [createDirAll, EStateM.run_bind]
      cases hnode : fs.node (dir.child name) with
      | none => simp [hnode]
      | some n => cases n <;> simp [hnode]
    rw [hrun]
    cases hnode : fs.node (dir.child name) with
    | some n =>
      cases n with
      | directory => exact .inl ⟨fs, rfl, .refl _ _, hnode⟩
      | file content => exact .inr ⟨_, rfl⟩
    | none =>
      simp only [EStateM.run_bind]
      obtain ⟨fs₁, h₁, hext, hdir⟩ | ⟨e, h₁⟩ := ih
      · -- what is new lies on the way to `dir`
        have hname : fs₁.node (dir.child name) = none := by
          by_contra hsome
          obtain h | h := hext.new _ (Option.isSome_iff_ne_none.2 hsome)
          · simp [hnode] at h
          · have hdepth := Path.depth_le h
            simp only [Path.depth] at hdepth
            omega
        obtain ⟨fs₂, h₂, hext₂, hnew⟩ := run_mkdir hdir hname
        rw [h₁]
        exact .inl ⟨fs₂, h₂, (hext.mono (Path.le_child name (Path.le_refl dir))).trans hext₂, hnew⟩
      · rw [h₁]
        exact .inr ⟨e, rfl⟩

/-- A file is written, in a directory that there is, or an error leaves everything as it was. -/
theorem run_write (dir : Path) (name : Name) (content : Bytes) (fs : FileSystem) :
    (∃ fs', (write (dir.child name) content).run fs = .ok () fs' ∧
      Changes [dir.child name] fs fs' ∧ fs'.node (dir.child name) = some (.file content)) ∨
    ((∀ old, fs.node (dir.child name) ≠ some (.file old)) ∧
      ∃ e, (write (dir.child name) content).run fs = .error e fs) := by
  by_cases hname : fs.node (dir.child name) = some .directory
  · exact .inr ⟨by simp [hname], "Is a directory", by simp [write, hname]⟩
  by_cases hdir : fs.node dir = some .directory
  · refine .inl ⟨fs.put dir name (.file content) hdir hname, by simp [write, hname, hdir],
      ⟨fun q n hq h => ?_, fun q h => ?_⟩, by simp⟩
    · rw [node_put, if_neg (by simpa using hq), h]
    · by_cases hq : q = dir.child name
      · exact .inr ⟨_, List.mem_singleton_self _, by rw [hq]; exact Path.le_refl _⟩
      · rw [node_put, if_neg hq] at h
        exact .inl h
  · exact .inr ⟨fun old hold => hdir (node_dir hold), "No such file or directory",
      by simp [write, hname, hdir]⟩

/-! ## One directory -/

/-- Every entry lies on the way to a directory or in it. -/
def OnlyOn (fs : FileSystem) (base : Path) : Prop :=
  ∀ (dir : Path) (name : Name), (fs.node (dir.child name)).isSome →
    dir.child name ≤ base ∨ base ≤ dir.child name

theorem OnlyOn.changes {base : Path} {ps : List Path} (h : fs.OnlyOn base)
    (hps : ∀ p ∈ ps, base ≤ p) (hch : Changes ps fs fs') : fs'.OnlyOn base := by
  intro dir name hnew
  obtain hold | ⟨p, hp, hle⟩ := hch.new _ hnew
  · exact h dir name hold
  · exact Path.le_or_le_of_le hle (hps p hp)

theorem OnlyOn.node_sibling {file name' : Name} (h : fs.OnlyOn (dir.child name))
    (hne : name' ≠ name) : fs.node ((dir.child name').child file) = none := by
  by_contra hsome
  exact Path.not_le_sibling hne (h _ _ (Option.isSome_iff_ne_none.2 hsome))

end FileSystem

end Fs
