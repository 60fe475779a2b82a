import TrustSchema.Files.Basic
import TrustSchema.Text.Pieces
import TrustSchema.Text.Utf8

/-!
# File trees

A tree of directories and files held in memory, and how a path is followed through it. Paths start
at a working directory, of which only what the tree holds is known: above it there are directories
that show nothing else.
-/

namespace TrustSchema

/-- The files below a working directory, each with the components of its path and its bytes. -/
structure FileTree where
  files : List (List String × List UInt8)

namespace FileTree

/-- The longest name, in bytes, that a directory can hold. -/
def longestName : Nat := 255

/-- The longest path, in bytes, that can be followed. -/
def longestPath : Nat := 4095

/-- A place that a path has led to. -/
inductive Place
  /-- A directory of the tree. -/
  | directory (path : List String)
  /-- A directory that does not belong to the tree. -/
  | outside
  /-- A file. -/
  | file (bytes : List UInt8)

/-- The components of a path. -/
def components (path : String) : List String :=
  (Text.pieces '/' path.toList).map String.ofList

/-- The tree with the given files. Void components of their paths are dropped. -/
def ofFiles (files : List (String × List UInt8)) : FileTree :=
  ⟨files.map fun (path, bytes) =>
    ((components path).filter fun component => component != "" && component != ".", bytes)⟩

/-- The bytes of the file at a place of the tree. -/
def file? (t : FileTree) (path : List String) : Option (List UInt8) :=
  t.files.lookup path

/-- Whether some file lies below a place of the tree. -/
def hasDirectory (t : FileTree) (path : List String) : Bool :=
  t.files.any fun (file, _) => path.length < file.length && path.isPrefixOf file

/-- Follows one component of a path. -/
def follow (t : FileTree) (place : Place) (component : String) : Except FileError Place :=
  match place with
  | .file _ => .error .notDirectory
  | .outside =>
    if component = "" ∨ component = "." ∨ component = ".." then .ok .outside
    else if longestName < component.utf8ByteSize then .error .nameTooLong
    else .error .notFound
  | .directory path =>
    if component = "" ∨ component = "." then .ok place
    else if component = ".." then
      -- What is above the working directory is not known.
      .ok (if path.isEmpty then .outside else .directory path.dropLast)
    else if longestName < component.utf8ByteSize then .error .nameTooLong
    else match t.file? (path ++ [component]) with
      | some bytes => .ok (.file bytes)
      | none =>
        if t.hasDirectory (path ++ [component]) then .ok (.directory (path ++ [component]))
        else .error .notFound

/-- The bytes of the file that a path leads to. -/
def read (t : FileTree) (path : String) : Except FileError (List UInt8) := do
  if path.toList.contains '\x00' then throw .embeddedNul
  if path.isEmpty then throw .notFound
  if longestPath < path.utf8ByteSize then throw .nameTooLong
  let start := if path.toList.head? = some '/' then Place.outside else .directory []
  match ← (components path).foldlM t.follow start with
  | .file bytes => return bytes
  | .directory _ | .outside => throw .isDirectory

/-- The tree as a source of files. -/
def texts (t : FileTree) : Files := fun path => do
  match Text.ofUtf8? (← t.read path) with
  | some text => return text
  | none => throw .notText

end FileTree

end TrustSchema
