import TrustSchema.Text.Pieces

/-!
# Paths

Paths are texts with `/` between their components. Empty components and components `.` other than a
leading one name nothing and are passed over.
-/

namespace TrustSchema.Path

/-- Whether a path starts at the root directory. -/
def isAbsolute (path : String) : Bool := path.toList.head? == some '/'

/-- Whether a component names nothing. -/
def isVoid (component : List Char) : Bool := component == [] || component == ['.']

/-- The path up to its last component, with nothing void at its end. There is none if the path has
no last component. -/
def parent? (path : String) : Option String :=
  let (fixed, body) := match path.toList with
    | '/' :: body => (['/'], body)
    | '.' :: '/' :: body => (['.'], '/' :: body)
    | ['.'] => (['.'], [])
    | body => ([], body)
  match (Text.pieces '/' body).reverse.dropWhile isVoid with
  | [] => if fixed = ['.'] then some "" else none
  | _ :: above =>
    some (String.ofList (fixed ++ ['/'].intercalate (above.dropWhile isVoid).reverse))

/-- The directory that a file's path names: `.` if it names none. -/
def directory (path : String) : String :=
  match parent? path with
  | none | some "" => "."
  | some directory => directory

/-- The second path, taken from the directory that the first one names. An absolute second path
stands for itself. -/
def join (base path : String) : String :=
  if isAbsolute path then path
  else if base.isEmpty || base.toList.getLast? == some '/' then base ++ path
  else base ++ "/" ++ path

end TrustSchema.Path
