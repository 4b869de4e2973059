import Nurture.Api.Server
import Nurture.CommandLine
import Nurture.Delivery.Console
import Nurture.Json.Reader

/-!
  The program

  What a run of the program comes to: an exit code, the lines it shows, and the
  address at which it serves if it does.
-/

namespace Nurture.Program

variable {σ : Type}

/-- The end of a run. -/
structure Exit where
  code : Nat
  lines : List String
  serving : Option (String × Int)
  deriving DecidableEq, Repr

/-- The lines of a journal that the program shows: all but those about details. -/
def shownLines (events : List Journal.Event) : List String :=
  (events.filter fun e => e.level != .debug).map (·.text)

/-- Runs an action and tells what was written down meanwhile. -/
def recorded {α : Type} (x : Action σ α) : Action σ (α × List Journal.Event) := fun s w =>
  let (r, w') := x.run s w
  (r.map fun a => (a, w'.journal.drop w.journal.length), w')

/-- Runs one pass, and shows its report behind what was written down. -/
def runPass : Action σ Exit := do
  let (report, events) ← recorded processNow
  return ⟨0, shownLines events ++ [report.text], none⟩

/-- Performs what the command line asks for. -/
def perform : CommandLine.Invocation → Action σ Exit
  | .process => runPass
  | .serve host port => pure ⟨0, [], some (host, port)⟩
  | .help => pure ⟨0, [], none⟩
  | .misuse => pure ⟨2, [], none⟩

/-- How a message is taken where there is no network: by a console backend only. -/
def receive (setup : EngineSetup) (m : Message) : Receipt :=
  match m, setup.email, setup.whatsApp with
  | .email .., .console, _ | .whatsApp .., _, .console => ⟨none, [Delivery.Console.shown m]⟩
  | _, _, _ => ⟨some (.undelivered "no connection"), []⟩

/-- The surroundings of a run without network, in which no call is interrupted. -/
def surroundings (setup : EngineSetup) (clock : Calendar.Stamp) : Surroundings Unit where
  clock := clock
  databaseClock := clock
  policy := setup.policy
  deliver m s := (receive setup m, s)
  interrupt _ s := (none, s)

/-- Answers a line that holds a request. -/
def answerLine (env : Environment) (line : String) : Action Unit String := do
  match Json.read line with
  | .error _ => return (Json.str "unreadable request").render
  | .ok j =>
    match Api.Request.ofJson j with
    | .error cause => return (Json.str cause.message).render
    | .ok request =>
      let response ← Api.respond env .initial request
      return response.toJson.render

end Nurture.Program
