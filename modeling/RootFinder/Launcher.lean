import RootFinder.Launcher.Smoke
import RootFinder.Text.Blank

/-! The launcher: it frees the ports, starts the service, waits until that is healthy, tests it,
starts the page, and watches both until one ends or the user interrupts. Whatever happens, what
still runs then is terminated. -/
namespace RootFinder.Launcher

/-- Kills every process that owns a port, if they can be listed. -/
def freePort (script : Script) (port : Int) : Session Unit :=
  match script.owners with
  | none => pure ()
  | some outputs => do
    note (.run ["lsof", "-t", s!"-i:{port}"])
    let output := (lookUp (toString port) outputs).getD ""
    (Text.words output.toList).forM fun word => do
      let owner := String.ofList word
      echo s!"Killing PID {owner} on port {port}"
      note (.run ["kill", "-9", owner])

/-- Asks for the health of the service until it is good or the deadline has passed, at most
`fuel` times. -/
def awaitHealth (script : Script) (url : String) (deadline : Float) : Nat → Session Bool
  | 0 => pure false
  | fuel + 1 => do
    let r ← get
    if r.clock < deadline then
      match ← askHealth script url with
      | .status code => if code = 200 then pure true else awaitHealth script url deadline fuel
      | .down =>
        sleep script 0.4
        awaitHealth script url deadline fuel
    else pure false

/-- More requests than fit into a number of seconds: once the replies are used up, a sleep follows
each of them. -/
def rounds (script : Script) (seconds : Float) : Nat :=
  script.health.length + (seconds * 3).toUInt64.toNat + 3

/-- Waits for the service, with at most so many requests. -/
def waitWithin (requests : Nat) (script : Script) (baseUrl : String) (timeout : Float) :
    Session Bool := do
  let r ← get
  awaitHealth script (baseUrl ++ "/health") (r.clock + timeout) requests

def waitForService (script : Script) (baseUrl : String) (timeout : Float) : Session Bool :=
  waitWithin (rounds script timeout) script baseUrl timeout

/-- Seconds until the service has to be healthy. -/
def patience : Float := 60

/-- Whether every process runs; those after one that has ended are not asked. -/
def allRun : List Nat → Session Bool
  | [] => pure true
  | process :: rest => do
    match ← poll process with
    | none => allRun rest
    | some _ => pure false

/-- Looks after the processes twice a second while all of them run, at most `fuel` times. -/
def watch (script : Script) (processes : List Nat) : Nat → Session Unit
  | 0 => pure ()
  | fuel + 1 => do
    if ← allRun processes then
      sleep script 0.5
      watch script processes fuel

/-- Terminates what still runs. -/
def cleanUp : List Nat → Session Unit
  | [] => pure ()
  | process :: rest => do
    match ← poll process with
    | none => terminate process
    | some _ => pure ()
    cleanUp rest

/-- How often the two loops of a session may go round: the requests for health, and the looks at
the processes. -/
structure Limits where
  requests : Nat
  turns : Nat

/-- More requests than fit into the time, and more looks than the service has states left. -/
def limits (script : Script) : Limits :=
  ⟨rounds script patience, ((script.processes.map Program.polls).getD 0 []).length + 1⟩

/-- The session between the start of the service and the cleaning up. -/
def serve (limits : Limits) (script : Script) (installation : Installation)
    (settings : Settings) : Session Int := do
  let baseUrl := settings.baseUrl
  if ← waitWithin limits.requests script baseUrl patience then
    if ← Smoke.test script baseUrl then echo s!"/solve smoke test passed ({Smoke.expression})"
    else
      echo (s!"/solve smoke test did not return {Json.displayFloats Smoke.roots} "
        ++ s!"for {Smoke.expression}")
    start script installation settings "UI"
      (pageCommand installation settings.pagePort settings.pageAddress "true")
    echo s!"UI: http://localhost:{settings.pagePort}  API docs: {baseUrl}/docs"
    watch script [0, 1] limits.turns
    pure 0
  else
    echo "API failed to become ready in time."
    pure 1

/-- An interruption by the user is a regular end. -/
def untilInterrupted (session : Session Int) : Session Int :=
  tryCatch session fun
    | .keyboard => do
      echo "Shutting down..."
      pure 0
    | interruption => throw interruption

/-- The whole session within limits; its result is the exit code. -/
def launchWithin (limits : Limits) (script : Script) (installation : Installation)
    (settings : Settings) : Session Int := do
  freePort script settings.servicePort
  freePort script settings.pagePort
  start script installation settings "API"
    (serviceCommand installation settings.host settings.servicePort)
  let outcome ← ExceptT.lift (untilInterrupted (serve limits script installation settings)).run
  let r ← get
  cleanUp (List.range r.started)
  match outcome with
  | .ok code => pure code
  | .error interruption => throw interruption

def launch (script : Script) (installation : Installation) (settings : Settings) :
    Session Int :=
  launchWithin (limits script) script installation settings

end RootFinder.Launcher
