import LogRouting.CommandLine
import LogRouting.Message.Parameter
import LogRouting.Relay
import LogRouting.Settings.Printer
import LogRouting.Settings.Reader
import LogRouting.Tracing.Filter
import LogRouting.Tracing.Line

namespace LogRouting

inductive LoadError
  | missing
  | refused (e : SettingsError)
deriving DecidableEq

namespace LoadError

def kind : LoadError → String
  | .missing => "Io"
  | .refused .syntaxError | .refused (.schema _) => "Parse"
  | .refused (.invalid ..) => "Validation"

def message : LoadError → String
  | .missing => "IO error: No such file or directory (os error 2)"
  | .refused .syntaxError | .refused (.schema _) => "Parse error"
  | .refused (.invalid first others) => Defect.summary (first :: others)

end LoadError

namespace Program

def loadFile : Option String → Except LoadError Settings
  | none => .error .missing
  | some document => (Settings.read document).mapError .refused

def load (file : String → Option String) : Option String → Except LoadError Settings
  | none => .ok {}
  | some path => loadFile (file path)

def records (filter : Filter) (journal : List Observation) : List Record :=
  journal.reverse.filterMap fun
    | .noted n => if filter.lets n.record then some n.record else none
    | _ => none

def begin (settings : Settings) : Router :=
  let r := Router.empty.note .starting
  let r :=
    if settings.observability.metricsEnabled then
      match Net.SocketAddress.parse? settings.observability.metricsAddress with
      | some address => r.note (.metricsListening address.text)
      | none => r
    else r
  r.start settings

/-- Logs one event. Parameters count as given only if there is one. -/
def emit (level : Level) (category message : String) (params : List String) (force : Bool) (r : Router) :
    Router :=
  let (id, r) := r.lookup category
  let given := if params = [] then none else some (params.map Message.parameter)
  r.log id ⟨level, message, ⟨given, none⟩, !force⟩

def beginRelay (path : Option String) (category : String) (fallback : Level) (r : Router) : Relay.State :=
  let r := match path with
    | some path => r.note (.watching path)
    | none => r
  Relay.begin r category fallback

def endRelay (s : Relay.State) : Router := s.router.note (.relayStopped s.relayed)

inductive Ending
  | usage (e : CommandLine.UsageError)
  | failed (kind : String)
  /-- The filter of the settings broke the program. -/
  | crashed
  | printed (text : String)
  | logged (json : Bool) (records : List Record)

def prepare (file : String → Option String) (path : Option String) : Except Ending (Settings × Filter) :=
  match load file path with
  | .error e => .error (.failed e.kind)
  | .ok settings =>
    match Filter.read? settings.observability.logFilter with
    | some filter => .ok (settings, filter)
    | none => .error .crashed

def run (args : List String) (file : String → Option String) (input : List UInt8) : Ending :=
  match CommandLine.parse args with
  | .error e => .usage e
  | .ok (.check path) =>
    match load file path with
    | .error e => .failed e.kind
    | .ok settings =>
      match settings.toToml? with
      | some text => .printed text
      | none => .failed "Print"
  | .ok (.emit path level category message params force) =>
    match prepare file path with
    | .error ending => ending
    | .ok (settings, filter) =>
      let r := emit level category message params force (begin settings)
      .logged settings.observability.json (records filter r.journal)
  | .ok (.relay path level category) =>
    match prepare file path with
    | .error ending => ending
    | .ok (settings, filter) =>
      let s := (beginRelay path category level (begin settings)).receive [.bytes input, .ended]
      if s.status = .broken then .failed "Io"
      else .logged settings.observability.json (records filter (endRelay s).journal)

end Program
end LogRouting
