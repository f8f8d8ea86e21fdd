import LineScript.Evaluate

/-!
Running one statement.  A statement whose first token names a registered operation goes to that
operation; otherwise it belongs to the built-in command of that name, if there is one.

How a nested script is run is a parameter of everything here: `nested` gets the text of the
script.  `LineScript.Run` supplies it.
-/

namespace LineScript

/-- What happened to a statement that did not fail. -/
inductive Outcome
  /-- There was no token. -/
  | empty
  | executed
  /-- No operation and no built-in command has this name; nothing was done. -/
  | unknownCommand (name : String)
deriving DecidableEq, Repr

/-- Goes on from a result; a fault goes through. -/
def Ending.andThen {ω α β : Type} (ending : Ending ω α)
    (next : α → Session ω → Ending ω β) : Ending ω β :=
  match ending with
  | (.ok value, s) => next value s
  | (.error fault, s) => (.error fault, s)

@[simp] theorem Ending.andThen_ok {ω α β : Type} (value : α) (s : Session ω)
    (next : α → Session ω → Ending ω β) :
    Ending.andThen (.ok value, s) next = next value s := rfl

@[simp] theorem Ending.andThen_error {ω α β : Type} (fault : Fault) (s : Session ω)
    (next : α → Session ω → Ending ω β) :
    Ending.andThen (.error fault, s) next = (.error fault, s) := rfl

/-- Replacing the result leaves the state. -/
theorem Ending.snd_andThen_ok {ω α β : Type} (ending : Ending ω α) (result : β) :
    (ending.andThen fun _ s => (.ok result, s)).2 = ending.2 := by
  obtain ⟨_ | _, _⟩ := ending <;> rfl

theorem Ending.andThen_assoc {ω α β γ : Type} (ending : Ending ω α)
    (next : α → Session ω → Ending ω β) (last : β → Session ω → Ending ω γ) :
    (ending.andThen next).andThen last =
      ending.andThen fun value s => (next value s).andThen last := by
  obtain ⟨_ | _, _⟩ := ending <;> rfl

namespace Session

variable {ω : Type}

def assign (s : Session ω) (target : String) (expression : Expression) : Ending ω Unit :=
  match expression.evaluate s.heap s.own with
  | .ok value => (.ok (), s.bind target value)
  | .error fault => (.error fault, s)

/-- Calls an operation and binds its value.  Without a value the target keeps its own. -/
def callInto (s : Session ω) (function : String) (arguments : List String)
    (target : String) : Ending ω Unit :=
  (s.call function (arguments.map s.resolve)).andThen fun value s =>
    match value with
    | some value => (.ok (), s.bind target value)
    | none => (.ok (), s.note (.noResult function target))

/-- Are the bounds of a random number finite and in order? -/
def checkBounds (low high : Value) : Except Fault (Float × Float) :=
  match low.asNumber?, high.asNumber? with
  | some a, some b =>
    if !a.isFinite || !b.isFinite then .error .boundNotFinite
    else if a > b then .error (.boundsReversed a b)
    else .ok (a, b)
  | _, _ => .error .boundNotANumber

/-- Binds a random number.  Equal bounds leave nothing to chance. -/
def drawInto (s : Session ω) (low high target : String) : Ending ω Unit :=
  match checkBounds (s.resolve low) (s.resolve high) with
  | .error fault => (.error fault, s)
  | .ok (a, b) =>
    if a == b then (.ok (), s.bind target (.number a))
    else
      let (x, chance) := s.chance.between a b
      (.ok (), { s with chance := chance }.bind target (.number x))

def print (s : Session ω) (token : String) : Ending ω Unit :=
  s.write (s.heap.display (s.resolve token) ++ "\n")

/-- Writes a prompt and binds the line that follows in the input. -/
def ask (s : Session ω) (prompt target : String) : Ending ω Unit :=
  (s.write (unquote prompt ++ s.config.promptSuffix)).andThen fun _ s =>
    s.flush.andThen fun _ s =>
      s.readLine.andThen fun line s =>
        (.ok (), s.bind target (.text line))

/-- Is the number of seconds one that can be waited?  They are counted in 64 bits. -/
def checkDuration (seconds : Float) : Except Fault Unit :=
  if seconds < 0.0 then .error (.negativeDuration seconds)
  else if seconds < 18446744073709551616.0 then .ok ()
  else .error (.excessiveDuration seconds)

/-- Waits.  Time is no part of the state, so waiting only checks its operand. -/
def wait (s : Session ω) (token : String) : Ending ω Unit :=
  match numberFor .wait (s.resolve token) with
  | .error fault => (.error fault, s)
  | .ok seconds => (checkDuration seconds, s)

def importUnit (s : Session ω) (token : String) : Ending ω Unit :=
  match unquoted? token with
  | none => (.error (.extensionLoad token .notQuoted), s)
  | some name =>
    match s.catalog.lookup name with
    | none => (.error (.extensionLoad name (.missing name)), s)
    | some unit =>
      let s := s.registerUnit unit
      match unit.failure with
      | some reason => (.error (.extensionLoad name (.failed reason)), s)
      | none => (.ok (), s.note (.imported name))

def perform (nested : String → Session ω → Ending ω Unit) (statement : Statement)
    (s : Session ω) : Ending ω Unit :=
  match statement with
  | .assign target expression => s.assign target expression
  | .call function arguments target => s.callInto function arguments target
  | .random low high target => s.drawInto low high target
  | .print token => s.print token
  | .input prompt target => s.ask prompt target
  | .wait token => s.wait token
  | .clear => (.ok (), s.clearVariables)
  | .run file => (s.readScript (unquote file)).andThen nested
  | .execCommand command =>
    (s.issue (unquote command)).andThen fun code s =>
      (.ok (), s.note (.commandFinished (unquote command) code))
  | .importUnit token => s.importUnit token

/-- Writes down which operands the command does not read, if there are any. -/
def noteSurplus (s : Session ω) (command : Keyword) (given : List String) : Session ω :=
  let surplus := command.surplus given
  if surplus.isEmpty then s else s.note (.extraOperands command surplus)

def runBuiltIn (nested : String → Session ω → Ending ω Unit) (command : Keyword)
    (given : List String) (s : Session ω) : Ending ω Unit :=
  let s := (s.note (.performed command)).noteSurplus command given
  match Statement.ofOperands command given with
  | .ok statement => perform nested statement s
  | .error fault => (.error fault, s)

/-- Runs the statement that the tokens make up. -/
def executeWith (nested : String → Session ω → Ending ω Unit) (tokens : List Token)
    (s : Session ω) : Ending ω Outcome :=
  match tokens with
  | [] => (.ok .empty, s)
  | head :: rest =>
    let given := rest.map (·.text)
    if s.registry.contains head.text then
      ((s.note (.dispatched head.text)).call head.text (given.map .text)).andThen fun _ s =>
        (.ok .executed, s)
    else
      match Keyword.ofName? head.text with
      | some command =>
        (runBuiltIn nested command given s).andThen fun _ s => (.ok .executed, s)
      | none => (.ok (.unknownCommand head.text), s.note (.unknownCommand head.text))

end Session

end LineScript
