import LogRouting.Level
import LogRouting.Value

namespace LogRouting

structure Event where
  category : String
  message : String
  level : Level
  cause : Option String
deriving DecidableEq, Inhabited

/-- What a log call may bring besides its message. A list of parameters counts as given even when empty. -/
structure Arguments where
  params : Option (List Value) := none
  cause : Option String := none

structure Call where
  level : Level
  message : String
  arguments : Arguments := {}
  /-- Whether the gate and the levels of the targets are asked. -/
  verified : Bool := true

inductive TargetError
  | rejected (reason : String)
  | io (reason : String)
  | panicked (reason : String)
deriving DecidableEq

namespace TargetError

def kind : TargetError → String
  | .rejected _ => "Rejected"
  | .io _ => "Io"
  | .panicked _ => "Panicked"

def message : TargetError → String
  | .rejected reason => "event rejected: " ++ reason
  | .io reason => "I/O error: " ++ reason
  | .panicked reason => "target panicked: " ++ reason

end TargetError

inductive Outcome
  | accepted
  | failed (e : TargetError)
  | panic (payload : Option String)
deriving DecidableEq

def Outcome.error? : Outcome → Option TargetError
  | .accepted => none
  | .failed e => some e
  | .panic payload => some (.panicked (payload.getD "unknown panic payload"))

inductive Severity
  | trace
  | debug
  | info
  | warn
  | error
deriving DecidableEq

namespace Severity

def rank : Severity → Nat
  | .trace => 0
  | .debug => 1
  | .info => 2
  | .warn => 3
  | .error => 4

def display : Severity → String
  | .trace => "TRACE"
  | .debug => "DEBUG"
  | .info => "INFO"
  | .warn => "WARN"
  | .error => "ERROR"

end Severity

def Level.severity (l : Level) : Severity :=
  if error ≤ l then .error
  else if warn ≤ l then .warn
  else if info ≤ l then .info
  else if debug ≤ l then .debug
  else .trace

end LogRouting
