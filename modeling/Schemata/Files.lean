/-!
# Files

What the commands need of a file system, and a file system that is a value: a finite map from paths
to files and directories. Commands are written against `FileAccess`, so they run on `FileTree` as
well as on disk. Paths are relative and `/` parts them; `.` and empty parts stand for nothing.
-/

namespace Schemata

/-- Why an operation on a file fails. -/
inductive FileFault where
  /-- There is nothing at the path. -/
  | missing
  /-- There is a directory where a file is needed. -/
  | isDirectory
  /-- There is a file where a directory is needed. -/
  | notDirectory
  /-- There is a file where a directory is to be made. -/
  | occupied
  /-- A name of the path or the path itself is too long. -/
  | tooLong
  /-- The path holds a character that ends names. -/
  | badName
  /-- The file is not text. -/
  | notText
  /-- Anything else, in the words of the system. -/
  | other (message : String)

/-- The text of a file fault. -/
def FileFault.message : FileFault → String
  | .missing => "No such file or directory (os error 2)"
  | .isDirectory => "Is a directory (os error 21)"
  | .notDirectory => "Not a directory (os error 20)"
  | .occupied => "File exists (os error 17)"
  | .tooLong => "File name too long (os error 36)"
  | .badName => "file name contained an unexpected NUL byte"
  | .notText => "stream did not contain valid UTF-8"
  | .other message => message

/-- Access to files. -/
class FileAccess (m : Type → Type) where
  /-- Whether there is anything at a path. -/
  isPresent : String → m Bool
  /-- The text of the file at a path. -/
  read : String → m (Except FileFault String)
  /-- Write a text to the file at a path, in place of what it held. -/
  write : String → String → m (Except FileFault Unit)
  /-- Make the directory at a path and those above it, as far as they are missing. -/
  makeDirectories : String → m (Except FileFault Unit)

namespace Path

/-- The parts of a path between separators. -/
def parts (path : String) : List String := path.splitOn "/"

/-- How many bytes a name may take. -/
def nameLimit : Nat := 255

/-- How many bytes a path may take. -/
def limit : Nat := 4095

/-- Whether a path may be used at all, whatever stands there. -/
def check (path : String) : Except FileFault Unit :=
  if path.contains '\x00' then .error .badName
  else if limit < path.utf8ByteSize then .error .tooLong
  else .ok ()

/-- Whether a part of a path, given its position, stands for something: a leading point does. -/
def isStep (i : Nat) (part : String) : Bool := part ≠ "" && (part ≠ "." || i == 0)

/-- Drop the parts at the end that stand for nothing; parts are given last first. -/
def dropIdle : List String → List String
  | [] => []
  | part :: above => if isStep above.length part then part :: above else dropIdle above

/-- The path above a path, none for the empty path and the root. -/
def parent? (path : String) : Option String :=
  match dropIdle (parts path).reverse with
  | [] => none
  | _ :: above =>
    match (dropIdle above).reverse with
    | [] => some (if path.startsWith "/" then "/" else "")
    | rest => some ("/".intercalate rest)

end Path

/-- What stands at a path. -/
inductive FileEntry where
  /-- A file with its bytes. -/
  | file (bytes : ByteArray)
  /-- A directory. -/
  | directory

/-- A file system as a value: what stands at each path below the working directory, given by the
names that lead to it. -/
abbrev FileTree := List (List String × FileEntry)

namespace FileTree

/-- What stands at a list of names; the working directory itself has none. -/
def entry? (tree : FileTree) (names : List String) : Option FileEntry :=
  if names.isEmpty then some .directory else tree.lookup names

/-- Put an entry at a list of names. -/
def put (names : List String) (entry : FileEntry) : FileTree → FileTree
  | [] => [(names, entry)]
  | (other, old) :: rest =>
    if other = names then (names, entry) :: rest else (other, old) :: put names entry rest

/-- Walk from a directory along the parts of a path, up to the last: the directory that is reached,
which exists. With `make`, missing directories are made on the way. -/
def walk (make : Bool) : List String → List String → FileTree →
    Except FileFault (List String) × FileTree
  | names, [], tree => (.ok names, tree)
  | names, part :: rest, tree =>
    if part = "" || part = "." then walk make names rest tree
    else if part = ".." then walk make names.dropLast rest tree
    else if Path.nameLimit < part.utf8ByteSize then (.error .tooLong, tree)
    else
      let next := names ++ [part]
      match tree.entry? next with
      | some .directory => walk make next rest tree
      | some (.file _) => (.error (if make then .occupied else .notDirectory), tree)
      | none =>
        if make then walk make next rest (tree.put next .directory) else (.error .missing, tree)

/-- The names that a path leads to; the last of them may be free. -/
def resolve (path : String) (tree : FileTree) : Except FileFault (List String) := do
  Path.check path
  if path = "" then throw .missing
  match (Path.parts path).reverse with
  | [] => throw .missing
  | last :: above =>
    let names ← (walk false [] above.reverse tree).1
    if last = "" || last = "." then return names
    else if last = ".." then return names.dropLast
    else if Path.nameLimit < last.utf8ByteSize then throw .tooLong
    else return names ++ [last]

/-- What stands at a path. -/
def lookup (path : String) (tree : FileTree) : Except FileFault FileEntry := do
  match tree.entry? (← resolve path tree) with
  | some entry => return entry
  | none => throw .missing

/-- The text of the file at a path. -/
def readText (path : String) (tree : FileTree) : Except FileFault String := do
  match ← lookup path tree with
  | .directory => throw .isDirectory
  | .file bytes =>
    match String.fromUTF8? bytes with
    | some text => return text
    | none => throw .notText

/-- The file system after a text was written to a path. -/
def writeText (path text : String) (tree : FileTree) : Except FileFault FileTree := do
  let names ← resolve path tree
  match tree.entry? names with
  | some .directory => throw .isDirectory
  | _ => return tree.put names (.file text.toUTF8)

end FileTree

/-- Commands on a file system that is a value. -/
abbrev OnFileTree := StateM FileTree

/-- A file system that is a value gives access to its files. -/
instance : FileAccess OnFileTree where
  isPresent path := return (FileTree.lookup path (← get)).isOk
  read path := return FileTree.readText path (← get)
  write path text := do
    match FileTree.writeText path text (← get) with
    | .ok tree =>
      set tree
      return .ok ()
    | .error fault => return .error fault
  makeDirectories path := do
    match Path.check path with
    | .ok () =>
      let (reached, tree) := FileTree.walk true [] (Path.parts path) (← get)
      set tree
      return reached.map fun _ ↦ ()
    | .error fault => return .error fault

end Schemata
