import Mathlib

/-!
# The Go library the node server calls

Errors and gRPC statuses as values, and the functions of `strings` and `strconv` that
`nodeserver.go` uses, each written from the Go library's documented behaviour on the
arguments the node server passes.  `strings.ToLower` consults Unicode's case tables and
`base64.StdEncoding.DecodeString` has its own rules for padding and line breaks; neither is
written out here: the node server's functions take them as the fields of a `GoLib`, and every
theorem holds for any `GoLib`.
-/

namespace SmbNode

instance exceptDecidableEq {ε α : Type} [DecidableEq ε] [DecidableEq α] :
    DecidableEq (Except ε α)
  | .ok a, .ok b => decidable_of_iff (a = b) ⟨congrArg _, Except.ok.inj⟩
  | .error a, .error b => decidable_of_iff (a = b) ⟨congrArg _, Except.error.inj⟩
  | .ok _, .error _ => isFalse Except.noConfusion
  | .error _, .ok _ => isFalse Except.noConfusion

/-- The gRPC status codes the node server returns. -/
inductive Code where
  | invalidArgument
  | notFound
  | aborted
  | internal
  | unimplemented
  deriving DecidableEq, Repr

/-- `codes.Code.String()`. -/
def Code.text : Code → String
  | .invalidArgument => "InvalidArgument"
  | .notFound => "NotFound"
  | .aborted => "Aborted"
  | .internal => "Internal"
  | .unimplemented => "Unimplemented"

/-- The POSIX error numbers that the model tells apart. -/
inductive Errno where
  /-- `ENOENT`: no such file or directory. -/
  | noent
  /-- `EEXIST`: the file exists. -/
  | exist
  /-- `EINVAL`: as `readlink` answers on a file that is not a symlink. -/
  | inval
  /-- `ELOOP`: too many levels of symbolic links. -/
  | loop
  /-- `ENOTDIR`: a directory operation on a file. -/
  | notdir
  /-- `EISDIR`: a file operation on a directory. -/
  | isdir
  /-- `ENOTEMPTY`: removing a directory that has entries. -/
  | notempty
  /-- `ENAMETOOLONG`: a path component longer than `NAME_MAX`. -/
  | nametoolong
  /-- `EIO`, or any other failure of the device. -/
  | io
  deriving DecidableEq, Repr

/-- The text Go prints for an error number. -/
def Errno.text : Errno → String
  | .noent => "no such file or directory"
  | .exist => "file exists"
  | .inval => "invalid argument"
  | .loop => "too many levels of symbolic links"
  | .notdir => "not a directory"
  | .isdir => "is a directory"
  | .notempty => "directory not empty"
  | .nametoolong => "file name too long"
  | .io => "input/output error"

/-- Go's `error` values as the node server makes and inspects them. -/
inductive GoError where
  /-- An `*os.PathError` or `*os.LinkError`: the call, its path and the error number. -/
  | path (op path : String) (errno : Errno)
  /-- A gRPC status error, `status.Error(code, msg)`. -/
  | status (code : Code) (msg : String)
  /-- Any other error, by its text: `fmt.Errorf`, `strconv`, the mount utilities. -/
  | other (msg : String)
  deriving DecidableEq, Repr

namespace GoError

/-- What `%v` prints for the error. -/
def msg : GoError → String
  | path op p e => op ++ " " ++ p ++ ": " ++ e.text
  | status c m => "rpc error: code = " ++ c.text ++ " desc = " ++ m
  | other m => m

/-- `os.IsNotExist`. -/
def isNotExist : GoError → Bool
  | path _ _ .noent => true
  | _ => false

theorem isNotExist_path {op p : String} {e : Errno} (h : e ≠ .noent) :
    (path op p e).isNotExist = false := by
  cases e <;> first | exact absurd rfl h | rfl

/-- `os.IsExist`. -/
def isExist : GoError → Bool
  | path _ _ .exist => true
  | _ => false

end GoError

/-- `os.IsNotExist` on a Go `error`, which may be `nil`. -/
def isNotExist : Option GoError → Bool
  | some e => e.isNotExist
  | none => false

/-- What `%v` prints for a Go `error`, which may be `nil`. -/
def errorString : Option GoError → String
  | some e => e.msg
  | none => "<nil>"

/-- `%q` of a string: the string between double quotes.  Go also escapes quotes, backslashes
and unprintable characters inside; error texts are not compared anywhere in the model, and
this is left out. -/
def quote (s : String) : String := "\"" ++ s ++ "\""

/-! ## `strings` -/

namespace Strings

/-- `strings.HasPrefix`. -/
def hasPrefix (s pre : String) : Bool := pre.data.isPrefixOf s.data

/-- `strings.TrimPrefix`. -/
def trimPrefix (s pre : String) : String :=
  if hasPrefix s pre then ⟨s.data.drop pre.length⟩ else s

/-- `strings.Contains`. -/
def contains (s sub : String) : Bool := decide (sub.data <:+: s.data)

/-- `unicode.IsSpace`: the Latin-1 spaces and the other characters with Unicode's
`White_Space` property. -/
def isSpace (c : Char) : Bool :=
  c = '\t' || c = '\n' || c = '\x0b' || c = '\x0c' || c = '\r' || c = ' ' ||
  c.val = 0x85 || c.val = 0xA0 || c.val = 0x1680 || (0x2000 ≤ c.val && c.val ≤ 0x200A) ||
  c.val = 0x2028 || c.val = 0x2029 || c.val = 0x202F || c.val = 0x205F || c.val = 0x3000

/-- `strings.Compare(a, b) <= 0` on the strings' characters: Go compares the UTF-8 bytes, which
orders strings as their code points do. -/
def charsLe : List Char → List Char → Bool
  | [], _ => true
  | _ :: _, [] => false
  | a :: as, b :: bs => if a = b then charsLe as bs else a.toNat < b.toNat

/-- `strings.Join(elems, sep)` with a one-character separator. -/
def join (elems : List String) (sep : Char) : String := ⟨[sep].intercalate (elems.map String.data)⟩

/-- `strings.Split(s, sep)` with a one-character separator: the pieces between the separators,
one more than there are separators. -/
def split (s : String) (sep : Char) : List String := (s.data.splitOn sep).map String.mk

/-- Splitting at a separator in the middle splits each side. -/
theorem splitOnP_append_cons {p : Char → Bool} {sep : Char} (hsep : p sep) :
    ∀ xs as : List Char, (xs ++ sep :: as).splitOnP p = xs.splitOnP p ++ as.splitOnP p
  | [], as => by simp [hsep]
  | x :: xs, as => by
    have hne := List.splitOnP_ne_nil p xs
    rw [List.cons_append, List.splitOnP_cons, List.splitOnP_cons, splitOnP_append_cons hsep xs]
    split_ifs
    · rfl
    · obtain ⟨y, ys, hy⟩ := List.exists_cons_of_ne_nil hne
      rw [hy]
      rfl

theorem intercalate_cons_cons {α : Type} (sep : α) (a b : List α) (t : List (List α)) :
    [sep].intercalate (a :: b :: t) = a ++ sep :: [sep].intercalate (b :: t) := by
  simp [List.intercalate, List.intersperse_cons_cons]

/-- Splitting joined pieces splits each piece: a piece that holds the separator becomes more
than one. -/
theorem split_join (sep : Char) : ∀ {elems : List String}, elems ≠ [] →
    split (join elems sep) sep = elems.flatMap fun e => split e sep
  | [], h => absurd rfl h
  | [e], _ => by simp [split, join, List.intercalate]
  | e :: f :: es, _ => by
    have ih := split_join sep (List.cons_ne_nil f es)
    simp only [split, join, List.map_cons, intercalate_cons_cons] at ih ⊢
    rw [List.splitOn, splitOnP_append_cons (p := fun x => x == sep) (beq_self_eq_true sep),
      List.map_append, List.flatMap_cons, ← ih]
    rfl

/-- A piece without the separator is not split. -/
theorem split_of_not_mem {s : String} {sep : Char} (h : sep ∉ s.data) : split s sep = [s] := by
  have hs : ∀ x ∈ s.data, ¬(x == sep) = true := fun x hx e => h (eq_of_beq e ▸ hx)
  rw [split, List.splitOn, List.splitOnP_eq_single _ _ hs]
  rfl

/-- `strings.TrimSpace`. -/
def trimSpace (s : String) : String :=
  ⟨((s.data.dropWhile isSpace).reverse.dropWhile isSpace).reverse⟩

/-- `strings.TrimRight(s, cutset)`. -/
def trimRight (s cutset : String) : String :=
  ⟨(s.data.reverse.dropWhile (· ∈ cutset.data)).reverse⟩

/-- `strings.ReplaceAll` with a non-empty `old`, on character lists: left to right, each
occurrence that does not overlap an earlier one.  `skip` counts the characters of the last
occurrence still to be passed over. -/
def replaceAllAux (old new : List Char) : Nat → List Char → List Char
  | _, [] => []
  | skip + 1, _ :: cs => replaceAllAux old new skip cs
  | 0, c :: cs =>
    if old.isPrefixOf (c :: cs) then new ++ replaceAllAux old new (old.length - 1) cs
    else c :: replaceAllAux old new 0 cs

/-- `strings.ReplaceAll`.  An empty `old` matches before every character and at the end. -/
def replaceAll (s old new : String) : String :=
  if old.data = [] then ⟨new.data ++ s.data.flatMap fun c => c :: new.data⟩
  else ⟨replaceAllAux old.data new.data 0 s.data⟩

/-- `strings.ReplaceAll` with one-character `old` and `new` replaces that character
everywhere. -/
theorem replaceAll_singleton (s : String) (a b : Char) :
    replaceAll s ⟨[a]⟩ ⟨[b]⟩ = ⟨s.data.map fun c => if c = a then b else c⟩ := by
  have aux : ∀ l : List Char,
      replaceAllAux [a] [b] 0 l = l.map fun c => if c = a then b else c := by
    intro l
    induction l with
    | nil => rfl
    | cons c cs ih =>
      by_cases h : c = a
      · subst h; simp [replaceAllAux, List.isPrefixOf, ih]
      · simp [replaceAllAux, List.isPrefixOf, Ne.symm h, h, ih]
  simp only [replaceAll, List.cons_ne_nil, if_false, aux]

end Strings

/-! ## `strconv` -/

namespace Strconv

/-- The value of a list of decimal digits. -/
def digitsValue (ds : List Char) : Nat :=
  ds.foldl (fun n c => 10 * n + (c.toNat - '0'.toNat)) 0

/-- `strconv.Atoi` on a 64-bit platform: an optional sign, one or more decimal digits, and a
value in the range of `int64`. -/
def atoi (s : String) : Except GoError Int :=
  let (neg, ds) : Bool × List Char := match s.data with
    | '-' :: ds => (true, ds)
    | '+' :: ds => (false, ds)
    | ds => (false, ds)
  if ds.isEmpty || !ds.all Char.isDigit then
    .error (.other ("strconv.Atoi: parsing " ++ quote s ++ ": invalid syntax"))
  else
    let v : Int := if neg then -(digitsValue ds : Int) else digitsValue ds
    if -2 ^ 63 ≤ v ∧ v < 2 ^ 63 then .ok v
    else .error (.other ("strconv.Atoi: parsing " ++ quote s ++ ": value out of range"))

/-- `Atoi` returns only values in the range of `int64`. -/
theorem atoi_bound {s : String} {v : Int} (h : atoi s = .ok v) : -2 ^ 63 ≤ v ∧ v < 2 ^ 63 := by
  simp only [atoi] at h
  split_ifs at h <;> cases h <;> assumption

example : atoi "1000" = .ok 1000 := by decide
example : atoi "-7" = .ok (-7) := by decide

end Strconv

/-! ## Ranging over a map

A Go `map[string]string` that the node server ranges over is the list of its entries in the
order of one iteration: the keys are distinct, and Go picks the order afresh on every `range`. -/

/-- `for k, v := range m { switch strings.ToLower(k) { ... } }`: each entry, in the map's order,
runs the switch `body` on its lowered key and its value. -/
def rangeLower {σ : Type} (toLower : String → String) (body : String → String → σ → σ)
    (init : σ) (m : List (String × String)) : σ :=
  m.foldl (fun s kv => body (toLower kv.1) kv.2 s) init

/-- No two entries of `m` have the same lowered key among the switch's `labels`. -/
def CasesUnique (toLower : String → String) (labels : List String) (m : List (String × String)) :
    Prop :=
  ∀ x ∈ m, ∀ y ∈ m, toLower x.1 = toLower y.1 → toLower x.1 ∈ labels → x = y

/-- A switch whose cases set distinct variables, ranged over a map where no two keys land in
the same case, ends the same in every iteration order. -/
theorem rangeLower_perm {σ : Type} {toLower : String → String} {body : String → String → σ → σ}
    {labels : List String} (hskip : ∀ a v s, a ∉ labels → body a v s = s)
    (hcomm : ∀ a b v w s, a ≠ b → body a v (body b w s) = body b w (body a v s))
    {m₁ m₂ : List (String × String)} (hp : m₁.Perm m₂) (hu : CasesUnique toLower labels m₁)
    (init : σ) : rangeLower toLower body init m₁ = rangeLower toLower body init m₂ := by
  refine hp.foldl_eq' (fun x hx y hy s => ?_) init
  by_cases hxy : toLower x.1 = toLower y.1
  · by_cases hl : toLower x.1 ∈ labels
    · rw [hu x hx y hy hxy hl]
    · have hl' : toLower y.1 ∉ labels := hxy ▸ hl
      simp only [hskip _ _ _ hl, hskip _ _ _ hl']
  · exact hcomm _ _ _ _ _ (Ne.symm hxy)

/-- The Go library functions that the node server calls and the model does not write out.
Every theorem about the node server holds for every `GoLib`. -/
structure GoLib where
  /-- `strings.ToLower`. -/
  toLower : String → String
  /-- `base64.StdEncoding.DecodeString`. -/
  decodeString : String → Except GoError (List UInt8)

end SmbNode
