import LineScript.Host.Shell

/-!
A host that has files: it reads scripts from a tree of files and runs command lines in a shell
over the same tree.
-/

namespace LineScript

/-- The world of a host that has files. -/
structure Workplace where
  tree : FileTree
  /-- Where scripts with relative names are. -/
  scriptRoot : String

namespace Host

/-- Reads a script at its place.  Why it cannot be read is not told. -/
def readFile (name : String) (place : Workplace) : Reply Workplace String :=
  let path := joinPath place.scriptRoot name
  { result := match place.tree.readText path with
      | .ok text => .ok text
      | .error _ => .error ("can't read " ++ path)
    world := place
    notes := ["reading script " ++ path]
    output := ""
    errors := "" }

/-- Runs a command line in a shell.  No shell can be given a NUL character. -/
def runShell (command : String) (place : Workplace) : Reply Workplace Int :=
  if command.toList.contains '\x00' then
    .plain (.error ("failed to spawn shell for " ++ Text.quote command)) place
  else
    let s := Shell.finish place.tree command
    { result := .ok s.exitCode
      world := { place with tree := s.tree }
      notes := [Text.quote command ++ " exited with " ++ toString s.exitCode]
      output := s.output
      errors := s.errors }

/-- The host that has files. -/
def ofFiles : Host Workplace where
  readScript := readFile
  execute := runShell

end Host

end LineScript
