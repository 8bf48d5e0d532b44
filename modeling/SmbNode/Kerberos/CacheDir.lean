import SmbNode.Prog.Basic
import SmbNode.Kerberos.Names

/-!
# The Kerberos cache directory

The Kerberos code of the node server works in one directory, `krb5CacheDirectory`, through eight
calls of package `os`: `Stat`, `Lstat`, `Readlink`, `ReadDir`, `WriteFile`, `Chown`, `Remove` and
`Symlink`.  This file gives the directory a state and each call a meaning.

The directory is absent, or a finite map from names to entries: a regular file with its bytes, or
a symlink with the path it holds.  A path is read against the directory by `locate`: the
directory itself, one of its entries, a name longer than `NAME_MAX` bytes, on which every call
fails with `ENAMETOOLONG`, or somewhere else.  The model has nothing outside the directory, so a
path elsewhere does not exist; a relative symlink target, which the code never writes, is such
a path.  `Stat`, `WriteFile` and `Chown` follow symlinks, at most `maxSymlinks`
of them as Linux does, and the other calls act on the entry itself.  Owners and permission bits
are not modelled: `Chown` succeeds on every file that exists.

`FsCall.exec` is what the directory answers.  `FsStep` adds what a real node may also do: fail a
call spontaneously, with `EIO` and no effect, or, for a write, after truncating the file and
writing part of the data, and for a listing, after returning some of the names: those read
before the error, sorted, which need not be the first ones.  Which calls may
fail is a parameter, so that each theorem says which failures it tolerates.  The last section
inverts `FsStep` once per call, in the form the programs' proofs use it.
-/

namespace SmbNode

/-- An entry of the cache directory. -/
inductive Entry where
  /-- A regular file and its bytes. -/
  | file (data : List UInt8)
  /-- A symbolic link and the path it holds. -/
  | symlink (target : String)
  deriving DecidableEq, Repr

/-- The entries of the cache directory, by name. -/
abbrev Entries := AList fun _ : String => Entry

/-- The cache directory: `none` when it does not exist. -/
abbrev CacheDir := Option Entries

/-- What a path names, read against the cache directory. -/
inductive Loc where
  /-- The directory itself. -/
  | dir
  /-- The entry of that name, present or not. -/
  | entry (name : String)
  /-- A name in the directory longer than `NAME_MAX`. -/
  | tooLong
  /-- A path outside the directory. -/
  | outside
  deriving DecidableEq, Repr

/-! ## Paths -/

section Paths

variable (dir : String)

/-- The reading of the path `p` against the directory `dir`; `getKerberosFilePath dir name` is
the entry `name` when the name fits. -/
def locate (p : String) : Loc :=
  if p = dir then .dir
  else if dir.data.isPrefixOf p.data then
    let name : String := ⟨p.data.drop dir.length⟩
    if name.utf8ByteSize ≤ nameMax then .entry name else .tooLong
  else .outside

@[simp] theorem locate_dir : locate dir dir = .dir := if_pos rfl

private theorem locate_append {name : String} (h : name ≠ "") :
    locate dir (dir ++ name) = if name.utf8ByteSize ≤ nameMax then .entry name else .tooLong := by
  have hne : dir ++ name ≠ dir := fun e =>
    h (String.ext (List.append_right_eq_self.mp (congrArg String.data e)))
  have hdrop : (dir.data ++ name.data).drop dir.length = name.data := List.drop_left _ _
  simp only [locate, hne, if_false, String.data_append, List.isPrefixOf_iff_prefix,
    List.prefix_append, if_true, hdrop]

@[simp] theorem locate_getKerberosFilePath {name : String} (h : EntryName name) :
    locate dir (getKerberosFilePath dir name) = .entry name := by
  rw [getKerberosFilePath, locate_append dir h.1, if_pos h.2]

theorem locate_getKerberosFilePath_long {name : String} (h : nameMax < name.utf8ByteSize) :
    locate dir (getKerberosFilePath dir name) = .tooLong := by
  have hne : name ≠ "" := by rintro rfl; exact absurd h (by decide)
  rw [getKerberosFilePath, locate_append dir hne, if_neg (Nat.not_le.mpr h)]

/-- A path in the directory holds a name too long for an entry, or an entry's name. -/
theorem tooLong_or_entryName {name : String} (h : name ≠ "") :
    locate dir (getKerberosFilePath dir name) = .tooLong ∨ EntryName name :=
  (Nat.lt_or_ge nameMax name.utf8ByteSize).imp (locate_getKerberosFilePath_long dir)
    fun hs => ⟨h, hs⟩

/-- `MAXSYMLINKS`: one lookup follows at most 40 symlinks on Linux. -/
def maxSymlinks : Nat := 40

/-- The target of the entry `n` if it is a symlink. -/
def linkTarget (es : Entries) (n : String) : Option String :=
  match es.lookup n with
  | some (.symlink t) => some t
  | _ => none

/-- The lookup of `p` that follows symlinks, `k` more of them allowed: what it reaches, or
`none` (`ELOOP`) at one symlink too many.  An entry it reaches is not a symlink, and may be
absent. -/
def resolve (es : Entries) (k : Nat) (p : String) : Option Loc :=
  match locate dir p with
  | .entry n => match linkTarget es n with
    | some t => match k with
      | 0 => none
      | k + 1 => resolve es k t
    | none => some (.entry n)
  | l => some l

/-- A lookup of an entry that is not a symlink reaches the entry itself. -/
theorem resolve_of_not_symlink {es : Entries} {name : String} (h : EntryName name)
    (hs : ∀ t, es.lookup name ≠ some (.symlink t)) (k : Nat) :
    resolve dir es k (getKerberosFilePath dir name) = some (.entry name) := by
  have hl : linkTarget es name = none := by
    unfold linkTarget
    split
    · exact absurd ‹_› (hs _)
    · rfl
  simp only [resolve, locate_getKerberosFilePath dir h, hl]

/-- Two symlinks that point at each other: a lookup of either never ends, and gives `ELOOP`. -/
theorem resolve_cycle {es : Entries} {a b : String} (ha : EntryName a) (hb : EntryName b)
    (hab : es.lookup a = some (.symlink (getKerberosFilePath dir b)))
    (hba : es.lookup b = some (.symlink (getKerberosFilePath dir a))) (k : Nat) :
    resolve dir es k (getKerberosFilePath dir a) = none ∧
      resolve dir es k (getKerberosFilePath dir b) = none := by
  induction k with
  | zero => simp [resolve, locate_getKerberosFilePath dir ha, locate_getKerberosFilePath dir hb,
      linkTarget, hab, hba]
  | succ k ih => simp [resolve, locate_getKerberosFilePath dir ha, locate_getKerberosFilePath dir hb,
      linkTarget, hab, hba, ih]

/-- A `Readlink` target read back, when it is not the empty string, is a symlink's. -/
theorem lookup_of_linkTarget {es : Entries} {n t : String}
    (h : (linkTarget es n).getD "" = t) (ht : t ≠ "") : es.lookup n = some (.symlink t) := by
  unfold linkTarget at h
  split at h
  · subst h; assumption
  · exact absurd h.symm ht

theorem linkTarget_of_lookup {es : Entries} {n t : String} (h : es.lookup n = some (.symlink t)) :
    (linkTarget es n).getD "" = t := by
  simp [linkTarget, h]

/-- The error number of a lookup that reached `l`: `none` when something exists there. -/
def lookupErrno (es : Entries) : Option Loc → Option Errno
  | none => some .loop
  | some .dir => none
  | some (.entry n) => if n ∈ es then none else some .noent
  | some .tooLong => some .nametoolong
  | some .outside => some .noent

/-- The names `ReadDir` returns: every entry, sorted by name. -/
def dirNames (es : Entries) : List String :=
  es.keys.insertionSort fun a b => Strings.charsLe a.data b.data

theorem mem_dirNames {es : Entries} {n : String} : n ∈ dirNames es ↔ n ∈ es := by
  rw [dirNames, List.mem_insertionSort, AList.mem_keys]

end Paths

/-! ## The calls -/

/-- The calls of package `os` that the Kerberos code makes, with the arguments the model keeps
(`WriteFile`'s permission bits are left out). -/
inductive FsCall where
  | stat (name : String)
  | lstat (name : String)
  | readlink (name : String)
  | readDir (name : String)
  | writeFile (name : String) (data : List UInt8)
  | chown (name : String) (uid gid : Int)
  | remove (name : String)
  | symlink (oldname newname : String)
  deriving DecidableEq, Repr

namespace FsCall

/-- The reply to each call: its error, with the link's target for `Readlink` and the entries'
names for `ReadDir`.  The `FileInfo` of `Stat` and `Lstat` is left out: the code only compares
it with `nil`, which is the same as comparing the error. -/
@[reducible] def Ret : FsCall → Type
  | readlink _ => String × Option GoError
  | readDir _ => List String × Option GoError
  | _ => Option GoError

/-- The reply of a call that failed with `e`: Go's `*PathError`, naming the operation and the
path (for `Symlink`, a `*LinkError` naming both paths). -/
def errReply : (c : FsCall) → Errno → c.Ret
  | stat p, e => some (.path "stat" p e)
  | lstat p, e => some (.path "lstat" p e)
  | readlink p, e => ("", some (.path "readlink" p e))
  | readDir p, e => ([], some (.path "open" p e))
  | writeFile p _, e => some (.path "open" p e)
  | chown p _ _, e => some (.path "chown" p e)
  | remove p, e => some (.path "remove" p e)
  | symlink o n, e => some (.path "symlink" (o ++ " " ++ n) e)

/-- The path a call looks up: for `Symlink`, the new link's. -/
def target : FsCall → String
  | stat p | lstat p | readlink p | readDir p | writeFile p _ | chown p _ _ | remove p
  | symlink _ p => p

/-- The calls that change nothing. -/
def isQuery : FsCall → Bool
  | stat _ | lstat _ | readlink _ | readDir _ | chown _ _ _ => true
  | _ => false

variable (dir : String)

/-- What the existing directory `es` answers to a call, and what it becomes. -/
def execIn (es : Entries) : (c : FsCall) → c.Ret × CacheDir
  | stat p => (match lookupErrno es (resolve dir es maxSymlinks p) with
      | none => none
      | some e => (stat p).errReply e, some es)
  | lstat p => (match lookupErrno es (some (locate dir p)) with
      | none => none
      | some e => (lstat p).errReply e, some es)
  | readlink p => match locate dir p with
    | .entry n => match es.lookup n with
      | some (.symlink t) => ((t, none), some es)
      | some (.file _) => ((readlink p).errReply .inval, some es)
      | none => ((readlink p).errReply .noent, some es)
    | .dir => ((readlink p).errReply .inval, some es)
    | .tooLong => ((readlink p).errReply .nametoolong, some es)
    | .outside => ((readlink p).errReply .noent, some es)
  | readDir p => match locate dir p with
    | .dir => ((dirNames es, none), some es)
    | .entry n => ((readDir p).errReply (if n ∈ es then .notdir else .noent), some es)
    | .tooLong => ((readDir p).errReply .nametoolong, some es)
    | .outside => ((readDir p).errReply .noent, some es)
  | writeFile p data => match resolve dir es maxSymlinks p with
    | some (.entry n) => (none, some (es.insert n (.file data)))
    | some .dir => ((writeFile p data).errReply .isdir, some es)
    | some .tooLong => ((writeFile p data).errReply .nametoolong, some es)
    | some .outside => ((writeFile p data).errReply .noent, some es)
    | none => ((writeFile p data).errReply .loop, some es)
  | chown p uid gid => (match lookupErrno es (resolve dir es maxSymlinks p) with
      | none => none
      | some e => (chown p uid gid).errReply e, some es)
  | remove p => match locate dir p with
    | .entry n =>
      if n ∈ es then (none, some (es.erase n)) else ((remove p).errReply .noent, some es)
    | .dir => if es.keys = [] then (none, none) else ((remove p).errReply .notempty, some es)
    | .tooLong => ((remove p).errReply .nametoolong, some es)
    | .outside => ((remove p).errReply .noent, some es)
  | symlink o p => match locate dir p with
    | .entry n =>
      if n ∈ es then ((symlink o p).errReply .exist, some es)
      else (none, some (es.insert n (.symlink o)))
    | .dir => ((symlink o p).errReply .exist, some es)
    | .tooLong => ((symlink o p).errReply .nametoolong, some es)
    | .outside => ((symlink o p).errReply .noent, some es)

/-- A call on a name longer than `NAME_MAX` fails with `ENAMETOOLONG` and changes nothing. -/
theorem execIn_tooLong {c : FsCall} (h : locate dir c.target = .tooLong) (es : Entries) :
    c.execIn dir es = (c.errReply .nametoolong, some es) := by
  cases c <;> simp only [target] at h <;> simp [execIn, h, resolve, lookupErrno]

/-- What the directory answers to a call, and what it becomes; where it does not exist, every
call fails with `ENOENT`. -/
def exec (c : FsCall) : CacheDir → c.Ret × CacheDir
  | some es => execIn dir es c
  | none => (c.errReply .noent, none)

end FsCall

/-- The reply relation of a node's filesystem.  The directory answers (`exec`), or a call that
`faulty` allows fails spontaneously: with no effect, or for `WriteFile` after truncating the
file and writing a prefix of the data, or for `ReadDir` after returning some of the names. -/
inductive FsStep (dir : String) (faulty : FsCall → Prop) :
    (c : FsCall) → CacheDir → c.Ret → CacheDir → Prop
  /-- The directory answers the call. -/
  | exec {c : FsCall} {s : CacheDir} : FsStep dir faulty c s (c.exec dir s).1 (c.exec dir s).2
  /-- A spontaneous failure with no effect. -/
  | fail {c : FsCall} {s : CacheDir} : faulty c → FsStep dir faulty c s (c.errReply .io) s
  /-- A write that fails after writing a prefix `d` of the data. -/
  | partialWrite {p : String} {data d : List UInt8} {es : Entries} {n : String} :
      faulty (.writeFile p data) → resolve dir es maxSymlinks p = some (.entry n) → d <+: data →
      FsStep dir faulty (.writeFile p data) (some es) ((FsCall.writeFile p data).errReply .io)
        (some (es.insert n (.file d)))
  /-- A listing that fails after returning some of the names: Go's `os.ReadDir` sorts the
  entries read before the error. -/
  | partialReadDir {p : String} {es : Entries} {ns : List String} :
      faulty (.readDir p) → locate dir p = .dir → ns.Sublist (dirNames es) →
      FsStep dir faulty (.readDir p) (some es) (ns, some (.path "readdirent" p .io)) (some es)

/-- The directory's own answers are steps, whatever may fail. -/
theorem fsStep_of_det {dir : String} {F : FsCall → Prop} {c : FsCall} {s : CacheDir}
    {r : c.Ret} {s' : CacheDir} (h : Prog.det (fun c s => c.exec dir s) c s r s') :
    FsStep dir F c s r s' := by
  have h' : c.exec dir s = (r, s') := h
  rw [show r = (c.exec dir s).1 by rw [h'], show s' = (c.exec dir s).2 by rw [h']]
  exact .exec

/-- Every call may fail. -/
def anyFault : FsCall → Prop := fun _ => True

/-- Only `Stat` may fail: the best-effort reads and removals of `deleteKerberosCache` do not. -/
def statFault : FsCall → Prop
  | .stat _ => True
  | _ => False

/-- No call fails spontaneously. -/
def noFault : FsCall → Prop := fun _ => False

/-! ## The directory's answers

What `exec` answers on the paths the Kerberos code passes. -/

section Exec

variable {dir : String} {es : Entries} {n : String}

@[simp] theorem exec_stat_dir : (FsCall.stat dir).exec dir (some es) = (none, some es) := by
  simp [FsCall.exec, FsCall.execIn, resolve, lookupErrno]

@[simp] theorem exec_readDir_dir :
    (FsCall.readDir dir).exec dir (some es) = ((dirNames es, none), some es) := by
  simp [FsCall.exec, FsCall.execIn]

theorem exec_stat_entry (hn : EntryName n) (hs : ∀ t, es.lookup n ≠ some (.symlink t)) :
    (FsCall.stat (getKerberosFilePath dir n)).exec dir (some es) =
      (if n ∈ es then none else some (.path "stat" (getKerberosFilePath dir n) .noent),
        some es) := by
  by_cases h : n ∈ es <;>
    simp [FsCall.exec, FsCall.execIn, resolve_of_not_symlink dir hn hs, lookupErrno, h,
      FsCall.errReply]

/-- `Stat` follows a symlink to an absent entry and answers `ENOENT`. -/
theorem exec_stat_dangling (hn : EntryName n) {m : String} (hm : EntryName m)
    (hl : es.lookup n = some (.symlink (getKerberosFilePath dir m))) (habs : m ∉ es) :
    ((FsCall.stat (getKerberosFilePath dir n)).exec dir (some es)).1 =
      some (.path "stat" (getKerberosFilePath dir n) .noent) := by
  have hlt : linkTarget es n = some (getKerberosFilePath dir m) := by simp [linkTarget, hl]
  have hres : resolve dir es maxSymlinks (getKerberosFilePath dir n) = some (.entry m) := by
    rw [maxSymlinks, resolve, locate_getKerberosFilePath dir hn]
    simp only [hlt]
    exact resolve_of_not_symlink dir hm
      (fun t h => habs (AList.lookup_isSome.mp (by simp [h]))) _
  simp [FsCall.exec, FsCall.execIn, hres, lookupErrno, habs, FsCall.errReply]

/-- `Stat` follows a symlink to a present entry that is not a symlink, and succeeds. -/
theorem exec_stat_link (hn : EntryName n) {m : String} (hm : EntryName m)
    (hl : es.lookup n = some (.symlink (getKerberosFilePath dir m)))
    (hs : ∀ t, es.lookup m ≠ some (.symlink t)) (hmem : m ∈ es) :
    ((FsCall.stat (getKerberosFilePath dir n)).exec dir (some es)).1 = none := by
  have hlt : linkTarget es n = some (getKerberosFilePath dir m) := by simp [linkTarget, hl]
  have hres : resolve dir es maxSymlinks (getKerberosFilePath dir n) = some (.entry m) := by
    rw [maxSymlinks, resolve, locate_getKerberosFilePath dir hn]
    simp only [hlt]
    exact resolve_of_not_symlink dir hm hs _
  simp [FsCall.exec, FsCall.execIn, hres, lookupErrno, hmem]

theorem exec_lstat_entry (hn : EntryName n) :
    (FsCall.lstat (getKerberosFilePath dir n)).exec dir (some es) =
      (if n ∈ es then none else some (.path "lstat" (getKerberosFilePath dir n) .noent),
        some es) := by
  by_cases h : n ∈ es <;>
    simp [FsCall.exec, FsCall.execIn, hn, lookupErrno, h, FsCall.errReply]

/-- `Readlink` reads the target of a symlink, and the empty string otherwise. -/
theorem exec_readlink_entry (hn : EntryName n) :
    ((FsCall.readlink (getKerberosFilePath dir n)).exec dir (some es)).1.1 =
        (linkTarget es n).getD "" ∧
      ((FsCall.readlink (getKerberosFilePath dir n)).exec dir (some es)).2 = some es := by
  simp only [FsCall.exec, FsCall.execIn, locate_getKerberosFilePath dir hn, linkTarget]
  split <;> simp [FsCall.errReply, *]

theorem exec_remove_entry (hn : EntryName n) :
    (FsCall.remove (getKerberosFilePath dir n)).exec dir (some es) =
      if n ∈ es then (none, some (es.erase n))
      else (some (.path "remove" (getKerberosFilePath dir n) .noent), some es) := by
  simp [FsCall.exec, FsCall.execIn, hn, FsCall.errReply]

theorem exec_writeFile_entry (hn : EntryName n) (hs : ∀ t, es.lookup n ≠ some (.symlink t))
    (data : List UInt8) :
    (FsCall.writeFile (getKerberosFilePath dir n) data).exec dir (some es) =
      (none, some (es.insert n (.file data))) := by
  simp [FsCall.exec, FsCall.execIn, resolve_of_not_symlink dir hn hs]

/-- A write through a cycle of symlinks fails with `ELOOP`, and writes nothing. -/
theorem exec_writeFile_cycle (hn : EntryName n) {m : String} (hm : EntryName m)
    (hnm : es.lookup n = some (.symlink (getKerberosFilePath dir m)))
    (hmn : es.lookup m = some (.symlink (getKerberosFilePath dir n))) (data : List UInt8) :
    (FsCall.writeFile (getKerberosFilePath dir n) data).exec dir (some es) =
      ((FsCall.writeFile (getKerberosFilePath dir n) data).errReply .loop, some es) := by
  simp [FsCall.exec, FsCall.execIn, (resolve_cycle dir hn hm hnm hmn maxSymlinks).1]

theorem exec_chown_entry (hn : EntryName n) (hs : ∀ t, es.lookup n ≠ some (.symlink t))
    (uid gid : Int) :
    (FsCall.chown (getKerberosFilePath dir n) uid gid).exec dir (some es) =
      (if n ∈ es then none else some (.path "chown" (getKerberosFilePath dir n) .noent),
        some es) := by
  by_cases h : n ∈ es <;>
    simp [FsCall.exec, FsCall.execIn, resolve_of_not_symlink dir hn hs, lookupErrno, h,
      FsCall.errReply]

theorem exec_symlink_entry (hn : EntryName n) (o : String) :
    (FsCall.symlink o (getKerberosFilePath dir n)).exec dir (some es) =
      if n ∈ es then
        (some (.path "symlink" (o ++ " " ++ getKerberosFilePath dir n) .exist), some es)
      else (none, some (es.insert n (.symlink o))) := by
  simp [FsCall.exec, FsCall.execIn, hn, FsCall.errReply]

end Exec

/-- Writing an entry after removing it is writing it. -/
theorem insert_erase_self (es : Entries) (n : String) (e : Entry) :
    (es.erase n).insert n e = es.insert n e := by
  apply AList.ext
  simp only [AList.insert_entries, AList.erase]
  rw [List.kerase_of_not_mem_keys]
  exact fun h => ((AList.mem_erase (s := es)).mp h).1 rfl

/-! ## Inverting a step

One lemma per kind of call says everything a step can do from an existing directory, for the
paths the Kerberos code passes. -/

section Inversion

variable {dir : String} {F : FsCall → Prop}

/-- Without spontaneous failures the directory answers deterministically. -/
theorem fsStep_noFault_iff {c : FsCall} {s : CacheDir} {r : c.Ret} {s' : CacheDir} :
    FsStep dir noFault c s r s' ↔ (r, s') = c.exec dir s := by
  constructor
  · rintro (_ | ⟨⟨⟩⟩ | ⟨⟨⟩⟩ | ⟨⟨⟩⟩)
    rfl
  · intro h
    rw [show r = (c.exec dir s).1 from congrArg Prod.fst h,
      show s' = (c.exec dir s).2 from congrArg Prod.snd h]
    exact .exec

theorem FsCall.exec_query {c : FsCall} (hc : c.isQuery = true) (s : CacheDir) :
    (c.exec dir s).2 = s := by
  cases s with
  | none => rfl
  | some es =>
    cases c <;> simp only [FsCall.isQuery, Bool.false_eq_true] at hc <;>
      simp only [FsCall.exec, FsCall.execIn]
    case readlink p =>
      split
      · split <;> rfl
      all_goals rfl
    case readDir p => split <;> rfl

/-- A call that changes nothing changes nothing, whatever its reply. -/
theorem FsStep.query {c : FsCall} {s : CacheDir} {r : c.Ret} {s' : CacheDir}
    (h : FsStep dir F c s r s') (hc : c.isQuery = true) : s' = s := by
  cases h with
  | exec => exact FsCall.exec_query hc s
  | fail => rfl
  | partialWrite => simp [FsCall.isQuery] at hc
  | partialReadDir => rfl

/-- `WriteFile` on a path that reaches the entry `n`: it writes the data and succeeds, or it
fails, having written nothing or a prefix of the data. -/
theorem FsStep.writeFile {p : String} {data : List UInt8} {es : Entries} {r : Option GoError}
    {s' : CacheDir} {n : String} (h : FsStep dir F (.writeFile p data) (some es) r s')
    (hp : resolve dir es maxSymlinks p = some (.entry n)) :
    (r = none ∧ s' = some (es.insert n (.file data))) ∨
      (r.isSome ∧ (s' = some es ∨ ∃ d, s' = some (es.insert n (.file d)))) := by
  cases h with
  | exec => simp only [FsCall.exec, FsCall.execIn, hp, true_and, true_or]
  | fail => exact .inr ⟨rfl, .inl rfl⟩
  | partialWrite _ hp' _ =>
    rw [hp, Option.some.injEq, Loc.entry.injEq] at hp'
    subst hp'
    exact .inr ⟨rfl, .inr ⟨_, rfl⟩⟩

/-- `Remove` of an entry: it removes the entry and succeeds, or it fails and changes nothing,
and fails on a present entry only spontaneously. -/
theorem FsStep.remove {n : String} {es : Entries} {r : Option GoError} {s' : CacheDir}
    (h : FsStep dir F (.remove (getKerberosFilePath dir n)) (some es) r s') (hn : EntryName n) :
    (r = none ∧ n ∈ es ∧ s' = some (es.erase n)) ∨
      (r.isSome ∧ s' = some es ∧ (n ∈ es → F (.remove (getKerberosFilePath dir n)))) := by
  cases h with
  | exec =>
    simp only [FsCall.exec, FsCall.execIn, locate_getKerberosFilePath dir hn]
    split_ifs with hm
    · exact .inl ⟨rfl, hm, rfl⟩
    · exact .inr ⟨rfl, rfl, fun h => absurd h hm⟩
  | fail hf => exact .inr ⟨rfl, rfl, fun _ => hf⟩

/-- `Symlink` to the entry `n`: it creates the link where `n` is absent and succeeds, or it
fails and changes nothing, and fails at an absent name only spontaneously. -/
theorem FsStep.symlink {o n : String} {es : Entries} {r : Option GoError} {s' : CacheDir}
    (h : FsStep dir F (.symlink o (getKerberosFilePath dir n)) (some es) r s') (hn : EntryName n) :
    (r = none ∧ n ∉ es ∧ s' = some (es.insert n (.symlink o))) ∨
      (r.isSome ∧ s' = some es ∧ (n ∉ es → F (.symlink o (getKerberosFilePath dir n)))) := by
  cases h with
  | exec =>
    simp only [FsCall.exec, FsCall.execIn, locate_getKerberosFilePath dir hn]
    split_ifs with hm
    · exact .inr ⟨rfl, rfl, fun h => absurd hm h⟩
    · exact .inl ⟨rfl, hm, rfl⟩
  | fail hf => exact .inr ⟨rfl, rfl, fun _ => hf⟩

/-- Allowing more failures allows more steps. -/
theorem FsStep.mono {F' : FsCall → Prop} (hF : ∀ c, F c → F' c) {c : FsCall} {s : CacheDir}
    {r : c.Ret} {s' : CacheDir} (h : FsStep dir F c s r s') : FsStep dir F' c s r s' := by
  cases h with
  | exec => exact .exec
  | fail hf => exact .fail (hF _ hf)
  | partialWrite hf hp hd => exact .partialWrite (hF _ hf) hp hd
  | partialReadDir hf hp hs => exact .partialReadDir (hF _ hf) hp hs

/-- A call that may not fail spontaneously is answered by the directory. -/
theorem FsStep.exec_of_not_faulty {c : FsCall} {s : CacheDir} {r : c.Ret} {s' : CacheDir}
    (h : FsStep dir F c s r s') (hc : ¬F c) : (r, s') = c.exec dir s := by
  cases h with
  | exec => rfl
  | fail hf => exact absurd hf hc
  | partialWrite hf => exact absurd hf hc
  | partialReadDir hf => exact absurd hf hc

/-- `Stat` of the directory: it answers `nil` where the directory exists, unless it fails
spontaneously. -/
theorem FsStep.stat_dir {es : Entries} {r : Option GoError} {s' : CacheDir}
    (h : FsStep dir F (.stat dir) (some es) r s') :
    s' = some es ∧ (r = none ∨ F (.stat dir) ∧ r = (FsCall.stat dir).errReply .io) := by
  cases h with
  | exec => exact ⟨exec_stat_dir ▸ rfl, .inl (exec_stat_dir ▸ rfl)⟩
  | fail hf => exact ⟨rfl, .inr ⟨hf, rfl⟩⟩

/-- `Stat` of an entry that is not a symlink: `nil` where it exists, `ENOENT` where it does not,
unless it fails spontaneously. -/
theorem FsStep.stat_entry {n : String} {es : Entries} {r : Option GoError} {s' : CacheDir}
    (h : FsStep dir F (.stat (getKerberosFilePath dir n)) (some es) r s') (hn : EntryName n)
    (hs : ∀ t, es.lookup n ≠ some (.symlink t)) :
    s' = some es ∧ ((r = none ∧ n ∈ es) ∨
      (r = some (.path "stat" (getKerberosFilePath dir n) .noent) ∧ n ∉ es) ∨
      (F (.stat (getKerberosFilePath dir n)) ∧
        r = (FsCall.stat (getKerberosFilePath dir n)).errReply .io)) := by
  cases h with
  | exec =>
    rw [exec_stat_entry hn hs]
    by_cases hm : n ∈ es <;> simp [hm]
  | fail hf => exact ⟨rfl, .inr (.inr ⟨hf, rfl⟩)⟩

/-- On a missing directory every call fails and nothing changes. -/
theorem FsStep.absent {c : FsCall} {r : c.Ret} {s' : CacheDir} (h : FsStep dir F c none r s') :
    s' = none := by
  cases h with
  | exec => rfl
  | fail => rfl

/-- A call on a name longer than `NAME_MAX` changes nothing and fails, in an existing directory
not with `ENOENT`. -/
theorem FsStep.tooLong {c : FsCall} {s : CacheDir} {r : c.Ret} {s' : CacheDir}
    (h : FsStep dir F c s r s') (hc : locate dir c.target = .tooLong) :
    s' = s ∧ ∃ e, r = c.errReply e ∧ (s.isSome → e ≠ .noent) := by
  cases h with
  | exec =>
    cases s with
    | none => exact ⟨rfl, .noent, rfl, fun h => nomatch h⟩
    | some es =>
      have e := FsCall.execIn_tooLong dir hc es
      exact ⟨congrArg Prod.snd e, .nametoolong, congrArg Prod.fst e, fun _ => by decide⟩
  | fail => exact ⟨rfl, .io, rfl, fun _ => by decide⟩
  | partialWrite _ hp _ =>
    simp only [FsCall.target] at hc
    unfold resolve at hp
    rw [hc] at hp
    cases hp
  | partialReadDir _ hp _ => simp only [FsCall.target] at hc; rw [hc] at hp; cases hp


end Inversion

end SmbNode
