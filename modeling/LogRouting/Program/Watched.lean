import LogRouting.Program
import LogRouting.Program.Path

namespace LogRouting.Program

inductive Signal
  | hangup
  | terminate
  | interrupt
deriving DecidableEq

inductive Happening
  | line (text : String)
  /-- A file moved to a name in the directory of the settings. -/
  | file (name document : String)
  | removal
  | signal (s : Signal)
  | close

structure Watched where
  relay : Relay.State
  path : Option String
  document : Option String
  finished : Bool := false

namespace Watched

def router (w : Watched) : Router := w.relay.router

def note (n : Notice) (w : Watched) : Watched :=
  { w with relay := { w.relay with router := w.relay.router.note n } }

def receive (arrivals : List Relay.Arrival) (w : Watched) : Watched :=
  let s := w.relay.receive arrivals
  if s.status = .running then { w with relay := s }
  else { w with relay := { s with router := endRelay s }, finished := true }

def reload (refusal : String → Notice) (w : Watched) : Watched :=
  match loadFile w.document with
  | .ok settings => w.receive [.configuration settings]
  | .error e => w.note (refusal e.message)

def isWatched (w : Watched) (name : String) : Bool :=
  w.path.any fun p => Path.fileName? p = Path.fileName? name

def step (w : Watched) (h : Happening) : Watched :=
  if w.finished then w
  else
    match h with
    | .line text => w.receive [.bytes (text ++ "\n").toUTF8.toList]
    | .file name document =>
      if w.isWatched name then
        ({ w with document := some document }.note (.changeDetected (w.path.getD name))).reload .changeRefused
      else w
    | .removal => { w with document := none }
    | .signal .hangup => if w.path.isSome then w.reload .reloadRefused else w.note .reloadIgnored
    | .signal _ => (w.note .shutdownReceived).receive [.shutdown]
    | .close => w.receive [.ended]

def begin (args : List String) (file : String → Option String) :
    Except Ending (Settings × Filter × Watched) :=
  match CommandLine.parse args with
  | .error e => .error (.usage e)
  | .ok (.relay path level category) =>
    match prepare file path with
    | .error ending => .error ending
    | .ok (settings, filter) =>
      .ok (settings, filter,
        { relay := beginRelay path category level (Program.begin settings), path, document := path.bind file })
  | .ok _ => .error (.usage .invalidSubcommand)

end Watched
end LogRouting.Program
