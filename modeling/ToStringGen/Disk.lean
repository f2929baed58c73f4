import Std.Data.ExtTreeMap
import ToStringGen.Volume

/-!
# A model of a disk

A tree of files, directories and symbolic links, and one device on which nothing
can be written. Paths are followed name by name, through links and upward steps,
and the operations fail for the reasons that an operating system gives.
-/

namespace ToStringGen

open Text (Bytes)

/-- A place in the tree: the names on the way from the root. -/
abbrev Location := List String

/-- What lies at a place. -/
inductive Entry where
  | file (contents : Bytes)
  | directory
  /-- A symbolic link to a path. -/
  | link (target : String)
  /-- A device without room. -/
  | full
  deriving DecidableEq, Repr, Inhabited

/-- The contents of a disk, and the directory at which relative paths start. The root is always
there and has no entry. -/
structure Disk where
  entries : Std.ExtTreeMap Location Entry := ∅
  workingDirectory : Location := []
  deriving Inhabited

/-- Where a path leads. -/
inductive Spot where
  | occupied (location : Location) (entry : Entry)
  /-- A name that is free in an existing directory. -/
  | vacant (directory : Location) (name : String)
  deriving DecidableEq, Repr

namespace Disk

/-- The greatest length of a name, in bytes. -/
def nameLimit : Nat := 255

/-- The length that paths must stay below, in bytes. -/
def pathLimit : Nat := 4096

/-- The number of links that a path may lead through. -/
def linkLimit : Nat := 40

/-- The entry at a place. -/
def entry? (disk : Disk) (location : Location) : Option Entry :=
  if location = [] then some .directory else disk.entries[location]?

/-- The names that a path asks to be followed. A slash at its end asks for a directory, as a dot
does. -/
def steps (path : String) : List String :=
  let names := ((Text.segments '/' path.toList).filter (!·.isEmpty)).map String.ofList
  if path.toList.getLast? = some '/' then names ++ ["."] else names

/-- The place at which following a path begins. -/
def start (path : String) (current : Location) : Location :=
  if path.toList.head? = some '/' then [] else current

/-- Follows names from a directory, through at most `links` links. `last` tells whether a link at
the very end is followed as well. -/
def follow (disk : Disk) (last : Bool) (links : Nat) (location : Location) :
    List String → Except Fault Spot
  | [] =>
      match disk.entry? location with
      | some entry => .ok (.occupied location entry)
      | none => .error (.system .notFound)
  | name :: rest =>
      if disk.entry? location ≠ some .directory then .error (.system .notDirectory)
      else if name = "." then disk.follow last links location rest
      else if name = ".." then disk.follow last links location.dropLast rest
      else if nameLimit < name.utf8ByteSize then .error (.system .nameTooLong)
      else
        match disk.entry? (location ++ [name]) with
        | none => if rest = [] then .ok (.vacant location name) else .error (.system .notFound)
        | some (.link target) =>
            if rest = [] ∧ !last then .ok (.occupied (location ++ [name]) (.link target))
            else
              match links with
              | 0 => .error (.system .tooManyLinks)
              | links + 1 =>
                  disk.follow last links (start target location) (steps target ++ rest)
        | some _ => disk.follow last links (location ++ [name]) rest
termination_by names => (links, names.length)

/-- Finds where a path leads. -/
def locate (disk : Disk) (last : Bool) (path : Path) : Except Fault Spot :=
  if path.text.toList.contains '\x00' then .error .nulInPath
  else if path.text = "" then .error (.system .notFound)
  else if pathLimit ≤ path.text.utf8ByteSize then .error (.system .nameTooLong)
  else
    disk.follow last linkLimit (start path.text disk.workingDirectory) (steps path.text)

/-- Puts an entry at a place. -/
def put (disk : Disk) (location : Location) (entry : Entry) : Disk :=
  { disk with entries := disk.entries.insert location entry }

/-- Whether a path leads to a regular file. -/
def isFile (disk : Disk) (path : Path) : Bool :=
  match disk.locate true path with
  | .ok (.occupied _ (.file _)) => true
  | _ => false

/-- Whether a path leads to a directory. -/
def isDirectory (disk : Disk) (path : Path) : Bool :=
  match disk.locate true path with
  | .ok (.occupied _ .directory) => true
  | _ => false

/-- The contents of a file; the device without room has none. -/
def read (disk : Disk) (path : Path) : Except Fault Bytes :=
  match disk.locate true path with
  | .error fault => .error fault
  | .ok (.vacant ..) => .error (.system .notFound)
  | .ok (.occupied _ (.file contents)) => .ok contents
  | .ok (.occupied _ .directory) => .error (.system .isDirectory)
  | .ok (.occupied _ (.link _)) => .error (.system .tooManyLinks)
  | .ok (.occupied _ .full) => .ok []

/-- Makes a directory. -/
def makeDirectory (disk : Disk) (path : Path) : Except Fault Unit × Disk :=
  match disk.locate false path with
  | .error fault => (.error fault, disk)
  | .ok (.occupied ..) => (.error (.system .alreadyExists), disk)
  | .ok (.vacant directory name) => (.ok (), disk.put (directory ++ [name]) .directory)

/-- Opens a file for writing: a new one, or an old one emptied. -/
def create (disk : Disk) (path : Path) : Except Fault Location × Disk :=
  match disk.locate true path with
  | .error fault => (.error fault, disk)
  | .ok (.vacant directory name) =>
      (.ok (directory ++ [name]), disk.put (directory ++ [name]) (.file []))
  | .ok (.occupied location (.file _)) => (.ok location, disk.put location (.file []))
  | .ok (.occupied location .full) => (.ok location, disk)
  | .ok (.occupied _ .directory) => (.error (.system .isDirectory), disk)
  | .ok (.occupied _ (.link _)) => (.error (.system .tooManyLinks), disk)

/-- Writes at the end of an open file. -/
def append (disk : Disk) (location : Location) (bytes : Bytes) : Except Fault Unit × Disk :=
  match disk.entry? location with
  | some (.file contents) => (.ok (), disk.put location (.file (contents ++ bytes)))
  | some .full => (.error (.system .noSpace), disk)
  | _ => (.error (.system .notFound), disk)

/-- Removes a file or a link. -/
def remove (disk : Disk) (path : Path) : Except Fault Unit × Disk :=
  match disk.locate false path with
  | .error fault => (.error fault, disk)
  | .ok (.vacant ..) => (.error (.system .notFound), disk)
  | .ok (.occupied _ .directory) => (.error (.system .isDirectory), disk)
  | .ok (.occupied location _) =>
      (.ok (), { disk with entries := disk.entries.erase location })

end Disk

end ToStringGen
