import LineScript.CommandLine
import LineScript.Run.Targets

/-!
The program.  It reads the script and the scripts that can be reached from it, and runs them in
memory.  When a run comes to the end of the input that was read so far, more input is read and
the run is repeated; what it wrote before is not written again.
-/

namespace LineScript

/-- The parts of the directory that the program runs in. -/
def currentLocation : IO Location := do
  let path ← IO.currentDir
  return ((pathParts path.toString.toList).map String.ofList).filter (· ≠ "")

/-- Adds what stands at a path, and then the scripts that it names, and so on. -/
partial def loadScripts (scriptRoot : String) (seen : List String) (tree : FileTree) :
    List String → IO FileTree
  | [] => return tree
  | path :: rest => do
    if seen.contains path then loadScripts scriptRoot seen tree rest
    else
      let bytes ← try some <$> IO.FS.readBinFile path catch _ => pure none
      match bytes with
      | some bytes =>
        let named := (runTargets ((String.fromUTF8? bytes).getD "")).map (joinPath scriptRoot)
        loadScripts scriptRoot (path :: seen) (tree.addFile path bytes) (rest ++ named)
      | none =>
        let isDirectory ← try (← IO.FS.realPath path).isDir catch _ => pure false
        let tree := if isDirectory then tree.addDirectories path else tree
        loadScripts scriptRoot (path :: seen) tree rest

/-- Reads the bytes up to the next line feed, with it, or to the end of the input. -/
partial def readLineBytes (stream : IO.FS.Stream) (line : ByteArray) : IO ByteArray := do
  let byte ← stream.read 1
  if byte.isEmpty || byte[0]? == some 0x0A then return line ++ byte
  readLineBytes stream (line ++ byte)

/-- Reads more input and runs again, until a run is content with what there is. -/
partial def runWithInput (tree : FileTree) (arguments : List String) (seed : UInt64)
    (input : ByteArray) (written : Nat) : IO CommandLine.Report := do
  let report := CommandLine.run tree arguments input.toList seed
  let output ← IO.getStdout
  output.write (report.output.extract written report.output.size)
  output.flush
  if report.wantsInput then
    let line ← readLineBytes (← IO.getStdin) ByteArray.empty
    if line.isEmpty then return report
    runWithInput tree arguments seed (input ++ line) report.output.size
  else return report

end LineScript

open LineScript in
def main (arguments : List String) : IO UInt32 := do
  let start := FileTree.start (← currentLocation)
  let tree ← match CommandLine.parse arguments with
    | .ok (.run (some script) depth) =>
      loadScripts (CommandLine.configFor script depth).scriptRoot [] start [script]
    | _ => pure start
  let seed := UInt64.ofNat (← IO.rand 0 0x3FFFFFFFFFFFFFFF)
  let report ← runWithInput tree arguments seed ByteArray.empty 0
  (← IO.getStderr).write report.errors
  return UInt32.ofNat report.exitCode
