import LogRouting.Event
import LogRouting.Settings.Reader

namespace LogRouting

inductive Reporter
  | noting
  | panicking
  | tracing
deriving DecidableEq, Inhabited

inductive GateSetting
  | fixed (level : Level)
  | adjustable (level : Level)

inductive Reaction
  | accept
  | fail (e : TargetError)
  | panic (payload : Option String)
deriving DecidableEq

def Reaction.outcome : Reaction → Outcome
  | .accept => .accepted
  | .fail e => .failed e
  | .panic payload => .panic payload

inductive Refusal
  | level (e : LevelError)
  | document (e : SettingsError)
  | value (e : DecodeError)
  | unknown
deriving DecidableEq

inductive Action
  /-- A target that performs the script for the first `times` events and then reacts. -/
  | scripted (id name : String) (level : Level) (reaction : Reaction) (script : List Action) (times : Nat)
  | forwarder (id name : String) (level : Level)
  | newLogger (handle category : String) (gate : GateSetting) (limit : Option Nat) (reporter : Reporter)
  | newRegistry (level : Level) (limit : Option Nat) (reporter : Reporter)
  | usePrinter (limit : Option Nat)
  | useReporter (reporter : Reporter)
  | add (logger target : String)
  | remove (logger target : String)
  | hasTarget (logger : String)
  | targets (logger : String)
  | category (logger : String)
  | gateOf (logger : String)
  | rename (logger category : String)
  | setGate (logger : String) (level : Level)
  | describe (logger : String)
  | sameLogger (a b : String)
  | keep (logger snapshot : String)
  | kept (snapshot : String)
  | log (logger : String) (call : Call)
  | setLevel (target : String) (level : Level)
  | levelOf (target : String)
  | sameTarget (a b : String)
  | takeTarget (logger : String) (index : Nat) (id : String)
  | lookup (category handle : String)
  | removeLogger (category : String)
  | categories
  | routing
  | bind (target : String) (categories : List String)
  | unbind (target : String)
  | routes (target category : String)
  | targetCount
  | setRegistryGate (level : Level)
  | registryGate
  | start (settings : Settings)
  | apply (settings : Settings)
  | targetNames
  | refused (verb : String) (reason : Refusal)

instance : Inhabited Action := ⟨.categories⟩

inductive Answer
  | nothing
  | flag (b : Bool)
  | count (n : Nat)
  | text (s : String)
  | level (l : Level)
  | names (xs : List String)
  | logger (category : String) (targets : List String)
  | removed (category : String) (targets : List String)
  | target (name : String) (level : Level)
  | routing (table : List (String × List String))
  | bound (count : Nat) (table : List (String × List String))
  | configured (gate : Level) (targets : List String) (count : Nat) (table : List (String × List String))
  | refused (reason : Refusal)
deriving DecidableEq

def Action.verb : Action → String
  | .scripted .. | .forwarder .. => "target"
  | .newLogger .. => "new_logger"
  | .newRegistry .. => "new_registry"
  | .usePrinter _ => "with_printer"
  | .useReporter _ => "with_reporter"
  | .add .. => "add"
  | .remove .. => "remove"
  | .hasTarget _ => "has_target"
  | .targets _ => "targets"
  | .category _ => "category"
  | .gateOf _ => "logger_gate"
  | .rename .. => "set_category"
  | .setGate .. => "set_gate"
  | .describe _ => "debug_repr"
  | .sameLogger .. => "same_logger"
  | .keep .. => "keep"
  | .kept _ => "kept"
  | .log .. => "log"
  | .setLevel .. => "set_level"
  | .levelOf _ => "target_level"
  | .sameTarget .. => "same_target"
  | .takeTarget .. => "take_target"
  | .lookup .. => "logger"
  | .removeLogger _ => "remove_logger"
  | .categories => "categories"
  | .routing => "routing"
  | .bind .. => "bind"
  | .unbind _ => "unbind"
  | .routes .. => "routes"
  | .targetCount => "target_count"
  | .setRegistryGate _ => "set_target_level"
  | .registryGate => "gate"
  | .start _ => "start"
  | .apply _ => "apply"
  | .targetNames => "target_names"
  | .refused verb _ => verb

mutual
/-- How many times the scripts within an action can be performed, scripts within scripts included. -/
def Action.weight : Action → Nat
  | .scripted _ _ _ _ script times => times * (weightOf script + 1)
  | _ => 0

def weightOf : List Action → Nat
  | [] => 0
  | a :: as => a.weight + weightOf as
end

end LogRouting
