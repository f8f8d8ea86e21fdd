import LineScript.Catalog
import LineScript.Console
import LineScript.Event
import LineScript.Host
import LineScript.Chance

/-!
The state of an interpreter, and the small steps that statements are made of.
-/

namespace LineScript

/-- What can be set before a run. -/
structure Config where
  /-- How many scripts may be nested inside each other. -/
  maxRunDepth : Nat
  /-- Where scripts with relative names are looked for. -/
  scriptRoot : String
  /-- Stands behind each prompt. -/
  promptSuffix : String

/-- The settings of a run that sets none. -/
def Config.default : Config where
  maxRunDepth := 64
  scriptRoot := "."
  promptSuffix := " "

/-- The state of an interpreter whose host keeps its state in `ω`. -/
@[ext] structure Session (ω : Type) where
  /-- All stores of variables. -/
  heap : Heap
  /-- The store that statements read and write. -/
  own : StoreId
  registry : Registry
  catalog : Catalog
  console : Console
  host : Host ω
  world : ω
  config : Config
  /-- How many nested scripts are being run. -/
  depth : Nat
  chance : Chance
  /-- What has been done, the last event first. -/
  journal : List Event

/-- The end of a step: its result or its fault, and the state that it leaves in either case. -/
abbrev Ending (ω α : Type) := Except Fault α × Session ω

namespace Session

variable {ω : Type}

/-- An interpreter that has run nothing. -/
def start (host : Host ω) (world : ω) : Session ω where
  heap := (Heap.empty.allocate).1
  own := 0
  registry := ∅
  catalog := .bundled
  console := .ofInput []
  host := host
  world := world
  config := .default
  depth := 0
  chance := .ended
  journal := []

/-! ## The journal -/

def note (s : Session ω) (event : Event) : Session ω :=
  { s with journal := event :: s.journal }

/-- Writes events down, the first one first. -/
def noteAll (s : Session ω) (events : List Event) : Session ω :=
  { s with journal := events.reverse ++ s.journal }

/-- What has been done, in order. -/
def events (s : Session ω) : List Event :=
  s.journal.reverse

/-- The command lines that the host was given, in order. -/
def commands (s : Session ω) : List String :=
  s.events.filterMap Event.command?

/-- The applications of operations, in order. -/
def applications (s : Session ω) : List Application :=
  s.events.filterMap Event.application?

/-! ## Variables -/

/-- What the text of a token stands for. -/
def resolve (s : Session ω) (text : String) : Value :=
  s.heap.resolve s.own text

def lookup (s : Session ω) (name : String) : Value :=
  s.heap.lookup s.own name

def bind (s : Session ω) (name : String) (value : Value) : Session ω :=
  { s with heap := s.heap.set s.own name value }

def clearVariables (s : Session ω) : Session ω :=
  { s with heap := s.heap.clear s.own }

/-- The variables with their values, in the order of the names. -/
def contents (s : Session ω) : List (String × Value) :=
  (s.heap.bindings s.own).toList

/-! ## Operations -/

def register (s : Session ω) (name : String) (operation : Operation) : Session ω :=
  let replaced := s.registry.contains name
  { s.note (.registered name operation.arity replaced) with
    registry := s.registry.register name operation }

/-- Registers the operations of a unit in order. -/
def registerUnit (s : Session ω) (unit : ExtensionUnit) : Session ω :=
  unit.operations.foldl (fun s entry => s.register entry.1 entry.2) s

def call (s : Session ω) (function : String) (arguments : List Value) :
    Ending ω (Option Value) :=
  let report := s.registry.call s.heap function arguments
  let s := { s.noteAll (report.applications.map .applied) with heap := report.heap }
  match report.result with
  | .ok value => (.ok value, s)
  | .error cause => (.error (.invocation function cause), s)

/-! ## The console -/

def write (s : Session ω) (text : String) : Ending ω Unit :=
  match s.console.write text with
  | .ok console => (.ok (), { s with console := console })
  | .error cause => (.error (.stream cause), s)

def flush (s : Session ω) : Ending ω Unit :=
  match s.console.flush with
  | .ok console => (.ok (), { s with console := console })
  | .error cause => (.error (.stream cause), s)

def readLine (s : Session ω) : Ending ω String :=
  let (result, console) := s.console.readLine
  let s := { s with console := console }
  match result with
  | .ok line => (.ok line, s)
  | .error cause => (.error (.stream cause), s)

/-! ## The host -/

/-- The state after the host's answer. -/
def receive {α : Type} (s : Session ω) (reply : Reply ω α) : Session ω :=
  let console := if s.console.shared then
      { s.console with
        output := s.console.output.write reply.output.toUTF8
        errors := s.console.errors.write reply.errors.toUTF8 }
    else s.console
  { s.noteAll (reply.notes.map .hostNote) with world := reply.world, console := console }

def readScript (s : Session ω) (name : String) : Ending ω String :=
  let reply := s.host.readScript name s.world
  let s := (s.note (.scriptRequested name)).receive reply
  match reply.result with
  | .ok text => (.ok text, s)
  | .error reason => (.error (.external .run reason), s)

/-- Gives the host a command line. -/
def issue (s : Session ω) (command : String) : Ending ω Int :=
  let reply := s.host.execute command s.world
  let s := (s.note (.commandIssued command)).receive reply
  match reply.result with
  | .ok code => (.ok code, s)
  | .error reason => (.error (.external .execCommand reason), s)

/-! ## Nesting -/

/-- How many more scripts may be nested. -/
def room (s : Session ω) : Nat :=
  s.config.maxRunDepth - s.depth

def enter (s : Session ω) : Session ω :=
  { s with depth := s.depth + 1 }.note (.entered (s.depth + 1))

def leave (s : Session ω) : Session ω :=
  { s with depth := s.depth - 1 }

end Session

end LineScript
