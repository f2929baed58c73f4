import ToStringGen.Text.Segments

/-!
# File paths

A path is a text whose parts are separated by slashes. It is kept and shown just
as it was put together; two paths are compared by their components, in which
repeated slashes and dots that mean nothing do not count.
-/

namespace ToStringGen

/-- A file path, as it was put together. -/
structure Path where
  text : String
  deriving DecidableEq, Repr, Inhabited

namespace Path

/-- What a path leads through. -/
inductive Component where
  /-- The root of the file tree. -/
  | root
  /-- The directory itself, written as a single dot. -/
  | here
  /-- The directory above, written as two dots. -/
  | up
  | name (text : String)
  deriving DecidableEq, Repr

/-- A path that starts with a slash starts at the root. -/
def isAbsolute (path : Path) : Bool :=
  path.text.toList.head? == some '/'

/-- Appends a part. A part that starts with a slash replaces the path. -/
def push (path : Path) (part : String) : Path :=
  if part.toList.head? = some '/' then ⟨part⟩
  else
    match path.text.toList.getLast? with
    | none => ⟨part⟩
    | some '/' => ⟨path.text ++ part⟩
    | some _ => ⟨path.text ++ "/" ++ part⟩

/-- Appends another path. -/
def join (path other : Path) : Path :=
  path.push other.text

/-- The component that a part between slashes stands for; a single dot counts only at the start
of a relative path. -/
def component? (leading : Bool) (part : List Char) : Option Component :=
  match part with
  | [] => none
  | ['.'] => if leading then some .here else none
  | ['.', '.'] => some .up
  | part => some (.name (String.ofList part))

/-- The components of a path. -/
def components (path : Path) : List Component :=
  match Text.segments '/' path.text.toList with
  | [] => []
  | part :: rest =>
      let others := rest.filterMap (component? false)
      if path.isAbsolute then .root :: others
      else (component? true part).toList ++ others

/-- The text of a component. -/
def Component.text : Component → String
  | root => ""
  | here => "."
  | up => ".."
  | name text => text

/-- The plainest path with given components. -/
def ofComponents : List Component → Path
  | [.root] => ⟨"/"⟩
  | components => ⟨String.intercalate "/" (components.map Component.text)⟩

/-- The path without its last component; a path without components, or with the root alone, has
none to lose. -/
def parent? (path : Path) : Option Path :=
  match path.components.getLast? with
  | none => none
  | some .root => none
  | some _ => some (ofComponents path.components.dropLast)

/-- The last component, if it is a name. -/
def fileName? (path : Path) : Option String :=
  match path.components.getLast? with
  | some (.name text) => some text
  | _ => none

/-- What follows the last dot of the file name; a dot at its start does not count. -/
def extension? (path : Path) : Option String :=
  match path.fileName? with
  | none => none
  | some name =>
      match Text.lastCut? '.' name.toList with
      | some (_ :: _, after) => some (String.ofList after)
      | _ => none

end Path

end ToStringGen
