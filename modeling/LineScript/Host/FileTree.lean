import LineScript.Host
import LineScript.Console

/-!
A tree of files in memory, and a host that reads scripts from it.

A path is walked from the left: an empty part and `.` stay, `..` goes up, and every part but the
last must be a directory.  A relative path starts at the current directory.
-/

namespace LineScript

/-- Why there is no file at a path. -/
inductive PathFault
  | noEntry
  | notDirectory
  | isDirectory
  | nameTooLong
  | nulCharacter
deriving DecidableEq, Repr

def PathFault.message : PathFault → String
  | noEntry => "No such file or directory (os error 2)"
  | notDirectory => "Not a directory (os error 20)"
  | isDirectory => "Is a directory (os error 21)"
  | nameTooLong => "File name too long (os error 36)"
  | nulCharacter => "file name contained an unexpected NUL byte"

/-- The names on the way from the topmost directory to an entry. -/
abbrev Location := List String

structure FileTree where
  files : List (Location × ByteArray)
  directories : List Location
  /-- Where relative paths start. -/
  current : Location

/-- What stands at a location. -/
inductive FileEntry
  | file (bytes : ByteArray)
  | directory

/-! ## Paths -/

/-- Puts a character in front of the first part. -/
def consPart (c : Char) : List (List Char) → List (List Char)
  | [] => [[c]]
  | part :: rest => (c :: part) :: rest

/-- The parts between the slashes. -/
def pathParts : List Char → List (List Char)
  | [] => [[]]
  | '/' :: rest => [] :: pathParts rest
  | c :: rest => consPart c (pathParts rest)

/-- Does the path start at the topmost directory? -/
def isAbsolute (path : String) : Bool :=
  path.toList.head? == some '/'

/-- The path inside a directory.  An absolute path stays what it is. -/
def joinPath (directory path : String) : String :=
  if isAbsolute path || directory.isEmpty then path
  else if directory.toList.getLast? == some '/' then directory ++ path
  else directory ++ "/" ++ path

/-- The path without empty and `.` parts at its end. -/
def withoutIdleEnd (parts : List (List Char)) : List (List Char) :=
  (parts.reverse.dropWhile fun part => part == [] || part == ['.']).reverse

/-- The path of the directory that the last part of a path stands in, as it is written; the empty
text, if the path has one part only. -/
def parentPath (path : String) : String :=
  let parent := withoutIdleEnd (withoutIdleEnd (pathParts path.toList)).dropLast
  let written := String.ofList (['/'].intercalate parent)
  if isAbsolute path && written.isEmpty then "/"
  else if written.isEmpty && (pathParts path.toList).head? == some ['.'] then "."
  else written

example : parentPath "sub/x" = "sub" := by decide
example : parentPath "x" = "" := by decide
example : parentPath "/x" = "/" := by decide
example : parentPath "./x" = "." := by decide

namespace FileTree

/-! ## Reading -/

def entry? (tree : FileTree) (location : Location) : Option FileEntry :=
  match tree.files.lookup location with
  | some bytes => some (.file bytes)
  | none => if location = [] ∨ location ∈ tree.directories then some .directory else none

/-- The location that the parts lead to.  Only the last one may be missing. -/
def walk (tree : FileTree) (location : Location) : List String → Except PathFault Location
  | [] => .ok location
  | part :: rest =>
    match tree.entry? location with
    | none => .error .noEntry
    | some (.file _) => .error .notDirectory
    | some .directory =>
      if part = "" ∨ part = "." then tree.walk location rest
      else if part = ".." then tree.walk location.dropLast rest
      else if 255 < part.utf8ByteSize then .error .nameTooLong
      else tree.walk (location ++ [part]) rest

/-- Where the walk along a path begins. -/
def base (tree : FileTree) (path : String) : Location :=
  if isAbsolute path then [] else tree.current

/-- The location that the path leads to. -/
def locate (tree : FileTree) (path : String) : Except PathFault Location :=
  if path.isEmpty then .error .noEntry
  else if path.toList.contains '\x00' then .error .nulCharacter
  else
    tree.walk (tree.base path) ((pathParts path.toList).map String.ofList)

def read (tree : FileTree) (path : String) : Except PathFault ByteArray := do
  match tree.entry? (← tree.locate path) with
  | some (.file bytes) => return bytes
  | some .directory => .error .isDirectory
  | none => .error .noEntry

def readText (tree : FileTree) (path : String) : Except StreamFault String :=
  match tree.read path with
  | .error fault => .error (.refused fault.message)
  | .ok bytes =>
    match String.fromUTF8? bytes with
    | some text => .ok text
    | none => .error .invalidEncoding

/-! ## Writing -/

/-- The location and those of the directories that it is in. -/
def withAncestors (location : Location) : List Location :=
  (List.range (location.length + 1)).map location.take

/-- Adds a directory and those that it is in. -/
def addDirectory (tree : FileTree) (location : Location) : FileTree :=
  { tree with directories := withAncestors location ++ tree.directories }

/-- What is written here is lost. -/
def sink : Location := ["dev", "null"]

def put (tree : FileTree) (location : Location) (bytes : ByteArray) : FileTree :=
  if location = sink then tree
  else { tree with files := (location, bytes) :: tree.files.filter (·.1 ≠ location) }

/-- Writes a file at the path, in place of what it holds or behind it. -/
def write (tree : FileTree) (path : String) (bytes : ByteArray) (behind : Bool) :
    Except PathFault FileTree := do
  let location ← tree.locate path
  match tree.entry? location with
  | some .directory => .error .isDirectory
  | some (.file old) => return tree.put location (if behind then old ++ bytes else bytes)
  | none =>
    match tree.entry? location.dropLast with
    | some .directory => return tree.put location bytes
    | some (.file _) => .error .notDirectory
    | none => .error .noEntry

/-- Where the parts of a path lead if all of its directories exist. -/
def follow (location : Location) : List String → Location
  | [] => location
  | part :: rest =>
    if part = "" ∨ part = "." then follow location rest
    else if part = ".." then follow location.dropLast rest
    else follow (location ++ [part]) rest

/-- A tree that has only the current directory and the place where nothing is kept. -/
def start (current : Location) : FileTree where
  files := [(sink, ByteArray.empty)]
  directories := withAncestors sink.dropLast ++ withAncestors current
  current := current

/-- Adds a directory at a path, with all directories that the path goes through. -/
def addDirectories (tree : FileTree) (path : String) : FileTree :=
  let parts := (pathParts path.toList).map String.ofList
  ((withAncestors parts).map (follow (tree.base path))).foldl addDirectory tree

/-- Adds a file at a path, with all directories that the path goes through. -/
def addFile (tree : FileTree) (path : String) (bytes : ByteArray) : FileTree :=
  let parts := (pathParts path.toList).map String.ofList
  let directory := String.ofList (['/'].intercalate (pathParts path.toList).dropLast)
  let tree := if parts.length ≤ 1 then tree else tree.addDirectories (directory ++ "/")
  tree.put (follow (tree.base path) parts) bytes

def ofFiles (current : Location) (files : List (String × ByteArray)) : FileTree :=
  files.foldl (fun tree file => tree.addFile file.1 file.2) (start current)

end FileTree

end LineScript
