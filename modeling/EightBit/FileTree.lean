import EightBit.Text.Pieces

/-!
# File trees

A directory with all that is below it, as the place from which relative paths start. Reading a
path walks through its components and fails where a walk through a real directory would.

Outside the directory only its ancestors are known, so a walk that leaves it finds nothing to read
and does not come back.
-/

namespace EightBit

/-- Why a file could not be read. -/
inductive ReadError where
  | missing
  | isDirectory
  | notDirectory
  | nameTooLong
  | nulInPath
  /-- Anything else, in the words of the system. -/
  | other (reason : String)
deriving DecidableEq, Repr

/-- The reason in words. -/
def ReadError.reason : ReadError → String
  | .missing => "No such file or directory (os error 2)"
  | .isDirectory => "Is a directory (os error 21)"
  | .notDirectory => "Not a directory (os error 20)"
  | .nameTooLong => "File name too long (os error 36)"
  | .nulInPath => "file name contained an unexpected NUL byte"
  | .other reason => reason

/-- A directory tree, its files and directories listed by the names that lead to them. -/
structure FileTree where
  directories : List (List String)
  files : List (List String × ByteArray)

namespace FileTree

/-- The components of a path, empty ones included. -/
def components (path : String) : List String :=
  (Pieces.split '/' path.toList).map String.ofList

/-- The names that lead to an entry of the tree. -/
def names (path : String) : List String :=
  (components path).filter fun name => name ≠ "" ∧ name ≠ "."

/-- Where names lead to from a directory: `..` leads back. -/
def follow (directory : List String) (name : String) : List String :=
  if name = ".." then directory.dropLast else directory ++ [name]

/-- The directories on a walk along names, both ends included. -/
def passed (directory : List String) : List String → List (List String)
  | [] => [directory]
  | name :: rest => directory :: passed (follow directory name) rest

/-- The tree that has these directories and files in it. Of two contents for one file the later
one counts. -/
def ofEntries (directories : List String) (files : List (String × ByteArray)) : FileTree where
  directories :=
    directories.flatMap (passed [] ∘ names) ++
      files.flatMap fun (path, _) => passed [] (names path).dropLast
  files := (files.map fun (path, content) => ((names path).foldl follow [], content)).reverse

/-- The content of a file. -/
def file? (t : FileTree) (path : List String) : Option ByteArray :=
  t.files.lookup path

/-- Whether a directory is in the tree. Whatever has an entry below it is one. -/
def isDirectory (t : FileTree) (path : List String) : Bool :=
  path.isEmpty || t.directories.any (path.isPrefixOf ·) ||
    t.files.any fun (file, _) => path.isPrefixOf file && path.length < file.length

/-- Where a walk along a path has come to. -/
inductive Place where
  /-- A directory in the tree. -/
  | inside (path : List String)
  /-- A directory outside the tree. -/
  | outside
  | file (content : ByteArray)

/-- The longest name of a file or directory, in bytes. -/
def maxNameLength : Nat := 255

/-- The longest path, in bytes. -/
def maxPathLength : Nat := 4095

/-- Goes on from a place by one component of a path. -/
def enter (t : FileTree) (place : Place) (name : String) : Except ReadError Place :=
  match place with
  | .file _ => .error .notDirectory
  | .inside path =>
    if name = "" ∨ name = "." then .ok place
    else if name = ".." then .ok (if path.isEmpty then .outside else .inside path.dropLast)
    else if maxNameLength < name.utf8ByteSize then .error .nameTooLong
    else
      let entry := path ++ [name]
      match t.file? entry with
      | some content => .ok (.file content)
      | none => if t.isDirectory entry then .ok (.inside entry) else .error .missing
  | .outside =>
    if name = "" ∨ name = "." ∨ name = ".." then .ok place
    else if maxNameLength < name.utf8ByteSize then .error .nameTooLong
    else .error .missing

/-- Where a walk along a path starts. A path that begins with a slash starts at the root. -/
def start (path : String) : Place :=
  if path.toList.head? = some '/' then .outside else .inside []

/-- The content of the file at a path. -/
def read (t : FileTree) (path : String) : Except ReadError ByteArray :=
  if path.toList.contains '\x00' then .error .nulInPath
  else if path = "" then .error .missing
  else if maxPathLength < path.utf8ByteSize then .error .nameTooLong
  else do
    match ← (components path).foldlM t.enter (start path) with
    | .file content => return content
    | _ => throw .isDirectory

/-! ## Files under a name -/

/-- A name that an entry of a directory can have. -/
structure IsName (name : String) : Prop where
  ne_empty : name ≠ ""
  ne_self : name ≠ "."
  ne_parent : name ≠ ".."
  slash_not_mem : '/' ∉ name.toList
  nul_not_mem : '\x00' ∉ name.toList
  size_le : name.utf8ByteSize ≤ maxNameLength

variable {name : String}

theorem IsName.components_eq (h : IsName name) : components name = [name] := by
  rw [components, Pieces.split_of_not_mem h.slash_not_mem, List.map_singleton, String.ofList_toList]

theorem IsName.start_eq (h : IsName name) : start name = .inside [] := by
  refine if_neg fun hhead => h.slash_not_mem ?_
  exact List.mem_of_mem_head? (Option.mem_def.mpr hhead)

/-- What is read at a name is what stands in the tree under it. -/
theorem read_of_isName (t : FileTree) (h : IsName name) :
    t.read name =
      match t.file? [name] with
      | some content => .ok content
      | none => .error (if t.isDirectory [name] then .isDirectory else .missing) := by
  have hnul : name.toList.contains '\x00' = false := by
    simpa using h.nul_not_mem
  have hlong : ¬ maxPathLength < name.utf8ByteSize := by
    have hname : maxNameLength ≤ maxPathLength := by decide
    have hsize := h.size_le
    omega
  have henter : t.enter (.inside []) name =
      match t.file? [name] with
      | some content => .ok (.file content)
      | none => if t.isDirectory [name] then .ok (.inside [name]) else .error .missing := by
    unfold enter
    dsimp only
    rw [if_neg (not_or.mpr ⟨h.ne_empty, h.ne_self⟩), if_neg h.ne_parent,
      if_neg (Nat.not_lt_of_le h.size_le)]
    rfl
  rw [read, hnul, if_neg Bool.false_ne_true, if_neg h.ne_empty, if_neg hlong, h.components_eq,
    h.start_eq, List.foldlM_cons, henter]
  rcases t.file? [name] with _ | content
  · rcases t.isDirectory [name] <;> rfl
  · rfl

/-- Of the contents that a tree was given for one name, the last is read. -/
theorem read_ofEntries (directories : List String) (files : List (String × ByteArray))
    (h : IsName name) (content : ByteArray) :
    (ofEntries directories (files ++ [(name, content)])).read name = .ok content := by
  have hnames : (names name).foldl follow [] = [name] := by
    have hkept : names name = [name] := by
      rw [names, h.components_eq]
      exact List.filter_eq_self.mpr (by simp [h.ne_empty, h.ne_self])
    rw [hkept, List.foldl_cons, List.foldl_nil, follow, if_neg h.ne_parent]
    rfl
  have hfile : (ofEntries directories (files ++ [(name, content)])).file? [name] =
      some content := by
    simp only [file?, ofEntries, List.map_append, List.reverse_append, List.map_singleton, hnames]
    exact List.lookup_cons_self
  rw [read_of_isName _ h, hfile]

end FileTree

end EightBit
