import LogRouting.Action
import LogRouting.Binding
import LogRouting.Notice
import LogRouting.TargetSet

/-!
The whole of loggers, targets, gates and the registry, with a journal of what was observed. Targets and
loggers are known by their identity, so a logger that left the registry lives on for those who hold it.
-/

namespace LogRouting

abbrev LoggerId := Nat

inductive Gate
  | fixed (level : Level)
  | shared (index : Nat)
deriving DecidableEq, Inhabited

structure Renderer where
  limit : Option Nat := none
  observed : Bool := true
deriving DecidableEq, Inhabited

structure Context where
  gate : Gate
  renderer : Renderer
  reporter : Reporter
deriving DecidableEq, Inhabited

structure Logger where
  category : String
  targets : TargetSet Target
  context : Context
deriving DecidableEq, Inhabited

inductive Sink
  | forwarding
  | scripted (id : String) (reaction : Reaction) (script : List Action) (times : Nat)

structure TargetState where
  level : Level
  sink : Sink

/-- Loggers by the category under which they were made, and targets with the categories they listen to. -/
structure Registry where
  gate : Nat
  context : Context
  loggers : List (String × LoggerId) := []
  bindings : List Binding := []
deriving DecidableEq

structure Names where
  targets : List (String × Target) := []
  loggers : List (String × LoggerId) := []
  snapshots : List (String × List Target) := []

inductive Counter
  | events (level : Level)
  | failures (target : String)
deriving DecidableEq

def Counter.series : Counter → String × String
  | .events level => ("fanout_log_events_total", level.name?.getD "OTHER")
  | .failures target => ("fanout_log_target_failures_total", target)

inductive Observation
  | rendered (text : List Char)
  | delivered (id : String) (event : Event)
  | reported (target category : String) (level : Level) (error : TargetError)
  | performed (verb : String) (answer : Answer)
  | counted (counter : Counter)
  | noted (notice : Notice)
deriving DecidableEq

structure Router where
  targets : Array TargetState
  loggers : Array Logger
  gates : Array Level
  registry : Registry
  /-- The targets made for the names of the running configuration, if there is one. -/
  configured : Option (List (String × Target))
  names : Names
  /-- What was observed, the latest first. -/
  journal : List Observation

namespace Router

def empty : Router where
  targets := #[]
  loggers := #[]
  gates := #[.all]
  registry := { gate := 0, context := ⟨.shared 0, {}, .noting⟩ }
  configured := none
  names := {}
  journal := []

instance : Inhabited Router := ⟨empty⟩

def observe (o : Observation) (s : Router) : Router := { s with journal := o :: s.journal }

def note (n : Notice) (s : Router) : Router := s.observe (.noted n)

def count (c : Counter) (s : Router) : Router := s.observe (.counted c)

def gateLevel (s : Router) : Gate → Level
  | .fixed level => level
  | .shared index => s.gates[index]?.getD .all

def newGate (level : Level) (s : Router) : Nat × Router :=
  (s.gates.size, { s with gates := s.gates.push level })

def setGate (index : Nat) (level : Level) (s : Router) : Router :=
  let previous := s.gateLevel (.shared index)
  let s := { s with gates := s.gates.set! index level }
  if previous = level then s else s.note (.gateChanged previous level)

def newTarget (name : String) (state : TargetState) (s : Router) : Target × Router :=
  (⟨s.targets.size, name⟩, { s with targets := s.targets.push state })

def target? (s : Router) (t : Target) : Option TargetState := s.targets[t.serial]?

def levelOf (s : Router) (t : Target) : Level := (s.target? t).elim .all (·.level)

def modifyTarget (t : Target) (f : TargetState → TargetState) (s : Router) : Router :=
  { s with targets := s.targets.modify t.serial f }

def setLevel (t : Target) (level : Level) (s : Router) : Router :=
  s.modifyTarget t fun state => { state with level := level }

def newLogger (l : Logger) (s : Router) : LoggerId × Router :=
  (s.loggers.size, { s with loggers := s.loggers.push l })

def logger? (s : Router) (id : LoggerId) : Option Logger := s.loggers[id]?

def modifyLogger (id : LoggerId) (f : Logger → Logger) (s : Router) : Router :=
  { s with loggers := s.loggers.modify id f }

def targetsOf (s : Router) (id : LoggerId) : List Target := (s.logger? id).elim [] (·.targets.members)

def targetNames (s : Router) (id : LoggerId) : List String := (s.targetsOf id).map (·.name)

def categoryOf (s : Router) (id : LoggerId) : String := (s.logger? id).elim "" (·.category)

def rename (id : LoggerId) (category : String) (s : Router) : Router :=
  s.modifyLogger id fun l => { l with category := category }

def addTarget (id : LoggerId) (t : Target) (s : Router) : Router :=
  match s.logger? id with
  | none => s
  | some l =>
    if (l.targets.insert t).1 then
      (s.modifyLogger id fun l => { l with targets := (l.targets.insert t).2 }).note
        (.targetAdded l.category t.name)
    else s

def removeTarget (id : LoggerId) (t : Target) (s : Router) : Router :=
  match s.logger? id with
  | none => s
  | some l =>
    if (l.targets.withdraw t).1 then
      (s.modifyLogger id fun l => { l with targets := (l.targets.withdraw t).2 }).note
        (.targetRemoved l.category t.name)
    else s

end Router
end LogRouting
