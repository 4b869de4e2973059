import Nurture.Program
import Std.Time.DateTime.Timestamp

/-!
  The entry point

  Reads the environment and the clock, runs the program, and shows what it came
  to. A server answers requests that are given one a line, as data.
-/

namespace Nurture

/-- The environment variables that are set. -/
def readEnvironment : IO Environment :=
  Environment.names.filterMapM fun name => do
    let value ← IO.getEnv name
    return value.map fun v => (name, v)

def readClock : IO Calendar.Stamp := do
  let now ← Std.Time.Timestamp.now
  let seconds : Int := now.toSecondsSinceUnixEpoch.val
  return (.ahead (Calendar.Lenient.epoch + seconds * Calendar.second) 0)

def showLines (texts : List String) : IO Unit := do
  for text in texts do
    IO.eprintln text

/-- Answers requests until there are no more. -/
partial def answerRequests (env : Environment) (setup : EngineSetup) (w : World Unit) :
    IO Unit := do
  let input ← IO.getStdin
  let line ← input.getLine
  if line.isEmpty then return
  let clock ← readClock
  let (r, w) :=
    (Program.answerLine env line).run (Program.surroundings setup clock) { w with journal := [] }
  showLines (Program.shownLines w.journal)
  match r with
  | .ok answer => IO.println answer
  | .error cause => IO.eprintln cause.message
  answerRequests env setup w

/-- Runs the program with the engine set up. -/
def runProgram (env : Environment) (setup : EngineSetup) (args : List String) : IO UInt32 := do
  let clock ← readClock
  let (r, w) :=
    (Program.perform (CommandLine.parse args)).run (Program.surroundings setup clock) (.fresh ())
  match r with
  | .error cause =>
    IO.eprintln cause.message
    return 1
  | .ok e =>
    showLines e.lines
    if let some (host, port) := e.serving then
      IO.eprintln (Api.title ++ " at " ++ host ++ ":" ++ toString port)
      answerRequests env setup w
    return e.code.toUInt32

end Nurture

def main (args : List String) : IO UInt32 := do
  let env ← Nurture.readEnvironment
  match Nurture.Settings.read env >>= Nurture.Settings.setUp with
  | .error cause =>
    IO.eprintln cause.message
    return 1
  | .ok setup => Nurture.runProgram env setup args
