/-! Commands and settings under which the service and the page are started. -/
namespace RootFinder.Launcher

/-- Where the programs lie and what executes them. -/
structure Installation where
  root : String
  executable : String

structure Settings where
  host : String := "127.0.0.1"
  servicePort : Int := 8000
  pagePort : Int := 8501
  pageAddress : String := "0.0.0.0"
  environment : List (String × String) := []

/-- A host to connect to. One that stands for every address is none. -/
def clientHost (host : String) : String :=
  if host = "0.0.0.0" ∨ host = "0" then "127.0.0.1" else host

def Settings.baseUrl (s : Settings) : String :=
  s!"http://{clientHost s.host}:{s.servicePort}"

def serviceCommand (installation : Installation) (host : String) (port : Int) : List String :=
  [installation.executable, "-m", "uvicorn", "api.main:app", "--host", host, "--port",
    toString port, "--reload"]

def pageCommand (installation : Installation) (port : Int) (address headless : String) :
    List String :=
  [installation.executable, "-m", "streamlit", "run", installation.root ++ "/ui/app.py",
    "--server.port", toString port, "--server.address", address, "--server.headless", headless]

/-- The variable that says where modules are looked for. -/
def searchVariable : String := "PYTHONPATH"

/-- The variable that says where the service is. -/
def serviceVariable : String := "API_URL"

def lookUp (name : String) (environment : List (String × String)) : Option String :=
  (environment.find? (·.1 == name)).map (·.2)

/-- Sets a variable, in its place if it is there. -/
def setVariable (name value : String) (environment : List (String × String)) :
    List (String × String) :=
  if environment.any (·.1 == name) then
    environment.map fun entry => if entry.1 == name then (name, value) else entry
  else environment ++ [(name, value)]

/-- A search path with the sources added at its end; colons at either end are dropped. -/
def searchPath (installation : Installation) (path : String) : String :=
  let cs := (path ++ ":" ++ installation.root ++ "/src").toList
  String.ofList (((cs.dropWhile (· == ':')).reverse.dropWhile (· == ':')).reverse)

def withSources (installation : Installation) (environment : List (String × String)) :
    List (String × String) :=
  setVariable searchVariable
    (searchPath installation ((lookUp searchVariable environment).getD "")) environment

end RootFinder.Launcher
