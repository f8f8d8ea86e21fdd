/-!
What a run asks of the world around it: the text of a script by name, and the execution of a
command line.  A host answers from the state of its world and may change it.
-/

namespace LineScript

structure Reply (ω α : Type) where
  /-- The result, or the reason for which there is none. -/
  result : Except String α
  /-- The world afterwards. -/
  world : ω
  /-- What the host logged. -/
  notes : List String
  /-- What a child process wrote to its output. -/
  output : String
  /-- What a child process wrote to its error stream. -/
  errors : String

/-- A host that keeps its state in `ω`. -/
structure Host (ω : Type) where
  readScript : String → ω → Reply ω String
  execute : String → ω → Reply ω Int

/-- An answer with nothing but the result. -/
def Reply.plain {ω α : Type} (result : Except String α) (world : ω) : Reply ω α where
  result := result
  world := world
  notes := []
  output := ""
  errors := ""

/-- The worlds that come about, from a world on, by asking the host. -/
inductive Host.Reaches {ω : Type} (host : Host ω) (start : ω) : ω → Prop
  | start : Host.Reaches host start start
  | read {world : ω} (name : String) : Host.Reaches host start world →
      Host.Reaches host start (host.readScript name world).world
  | execute {world : ω} (command : String) : Host.Reaches host start world →
      Host.Reaches host start (host.execute command world).world

/-- From a world on, whatever the host is asked, its scripts are a fixed map from names to texts
(or to reasons for which there is none): reading one does nothing else. -/
def Host.Serves {ω : Type} (host : Host ω) (start : ω) (scripts : String → Except String String) :
    Prop :=
  ∀ world, host.Reaches start world → ∀ name,
    (host.readScript name world).result = scripts name ∧
    (host.readScript name world).world = world ∧
    (host.readScript name world).output = "" ∧ (host.readScript name world).errors = ""

/-- What becomes of a command that is given to a table host. -/
inductive CommandFate
  | exits (code : Int)
  | fails (reason : String)

/-- Scripts and the fates of commands, by name; nothing ever changes. -/
structure HostTable where
  scripts : List (String × String)
  commands : List (String × CommandFate)

/-- A host that looks everything up in its table.  A command that the table does not hold
succeeds. -/
def Host.ofTable : Host HostTable where
  readScript name table :=
    .plain
      (match table.scripts.lookup name with
      | some text => .ok text
      | none => .error ("no such script: " ++ name)) table
  execute command table :=
    .plain
      (match table.commands.lookup command with
      | some (.exits code) => .ok code
      | some (.fails reason) => .error reason
      | none => .ok 0) table

end LineScript
