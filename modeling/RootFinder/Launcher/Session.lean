import RootFinder.Binary64
import RootFinder.Decimal.Display
import RootFinder.Json.Access
import RootFinder.Json.Reader
import RootFinder.Launcher.Command

/-! Sessions of the launcher. A script holds all that the outside does; a session leaves a log of
what was done to the outside and the text that was printed. -/
namespace RootFinder.Launcher

/-- What a request for the health of the service meets with. -/
inductive Health
  | status (code : Int)
  | down
deriving DecidableEq, Repr

/-- A time that something takes. -/
structure Duration where
  seconds : Float
  nonneg : 0 ≤ seconds

structure Reply where
  health : Health
  lasting : Duration

/-- A started process: its successive states, none while it runs, and the lines it prints. One
that has no more states has ended well. -/
structure Program where
  polls : List (Option Int)
  lines : List String

structure Script where
  /-- What the requests for health meet with. After these replies the service is down. -/
  health : List Reply
  /-- How long each request takes after these. -/
  silence : Duration
  smoke : Option String
  /-- For every port the output of the tool that lists its owners; none without the tool. -/
  owners : Option (List (String × String))
  processes : List Program
  /-- The sleep during which the user interrupts. -/
  interrupt : Option Nat

inductive Event
  | get (url : String) (timeout : Nat)
  | post (url : String) (body : Json) (timeout : Nat)
  | sleep (seconds : Float)
  | run (command : List String)
  | start (command : List String) (directory searchPath serviceUrl : String)
  | poll (process : Nat) (state : Option Int)
  | terminate (process : Nat)

inductive Interruption
  | keyboard
  | misfit (m : Json.Misfit)
  | tooDeep (e : Json.ReadError)
deriving DecidableEq, Repr

/-- What the request after so many others meets with. -/
def Script.reply (script : Script) (n : Nat) : Reply :=
  script.health.getD n ⟨.down, script.silence⟩

/-- What has happened so far, and what of the script is still to come. -/
structure Run where
  clock : Float
  requests : Nat
  sleeps : Nat
  polls : List (List (Option Int))
  started : Nat
  log : List Event
  printed : String

def Run.begin (script : Script) : Run :=
  ⟨0, 0, 0, script.processes.map Program.polls, 0, [], ""⟩

abbrev Session (α : Type) := ExceptT Interruption (StateM Run) α

def note (event : Event) : Session Unit := modify fun r => { r with log := r.log ++ [event] }

def print (text : String) : Session Unit := modify fun r => { r with printed := r.printed ++ text }

def echo (message : String) : Session Unit := print ("[dev_up] " ++ message ++ "\n")

def wait (seconds : Float) : Session Unit :=
  modify fun r => { r with clock := r.clock + seconds }

/-- Sleeps, unless the user interrupts. -/
def sleep (script : Script) (seconds : Float) : Session Unit := do
  note (.sleep seconds)
  wait seconds
  modify fun r => { r with sleeps := r.sleeps + 1 }
  let r ← get
  if script.interrupt = some r.sleeps then throw .keyboard

/-- Asks for the health of the service. -/
def askHealth (script : Script) (url : String) : Session Health := do
  note (.get url 2)
  let r ← get
  let reply := script.reply r.requests
  wait reply.lasting.seconds
  modify fun r => { r with requests := r.requests + 1 }
  pure reply.health

/-- Prints the lines of a process. -/
def relay (script : Script) (name : String) (process : Nat) : Session Unit :=
  match script.processes[process]? with
  | none => pure ()
  | some process => print (String.join (process.lines.map fun line => s!"[{name}] {line}"))

/-- Starts a process and relays its lines. -/
def start (script : Script) (installation : Installation) (settings : Settings) (name : String)
    (command : List String) : Session Unit := do
  echo (s!"Starting {name}: " ++ " ".intercalate command)
  let path := (lookUp searchVariable (withSources installation settings.environment)).getD ""
  let url := (lookUp serviceVariable settings.environment).getD settings.baseUrl
  note (.start command installation.root path url)
  let r ← get
  set { r with started := r.started + 1 }
  relay script name r.started

/-- The state of a process: none while it runs. -/
def poll (process : Nat) : Session (Option Int) := do
  let r ← get
  let states := r.polls.getD process []
  let state := states.headD (some 0)
  set { r with polls := r.polls.set process states.tail }
  note (.poll process state)
  pure state

def terminate (process : Nat) : Session Unit := note (.terminate process)

end RootFinder.Launcher
