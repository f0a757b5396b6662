import LogRouting.Relay.Line
import LogRouting.Router.Perform

/-!
The relay: lines of a stream are logged one by one until the stream ends or a shutdown comes. In each turn a
shutdown goes before a new configuration, and that before a line, so a line is logged under every
configuration that had arrived by then.
-/

namespace LogRouting

namespace Router

def log (id : LoggerId) (call : Call) (s : Router) : Router := s.dispatch (handler s.weight) id call

def reload (settings : Settings) (s : Router) : Router :=
  (s.configure settings).note (.reloaded settings.level settings.targets.length)

end Router

namespace Relay

inductive Status
  | running
  | stopped
  | broken
deriving DecidableEq

inductive Arrival
  | bytes (bytes : List UInt8)
  | ended
  | configuration (settings : Settings)
  | shutdown

structure State where
  router : Router
  logger : LoggerId
  fallback : Level
  relayed : Nat
  status : Status
  shutdown : Bool
  configurations : List Settings
  lines : List (List UInt8)
  /-- The beginning of a line, unless the stream has ended. -/
  unended : Option (List UInt8)

def begin (router : Router) (category : String) (fallback : Level) : State :=
  let (logger, router) := router.lookup category
  { router, logger, fallback, relayed := 0, status := .running, shutdown := false, configurations := [],
    lines := [], unended := some [] }

namespace State

def arrive (s : State) : Arrival → State
  | .bytes bytes =>
    match s.unended with
    | none => s
    | some start =>
      let c := cut start bytes
      { s with lines := s.lines ++ c.lines, unended := some c.unended }
  | .ended =>
    match s.unended with
    | none | some [] => { s with unended := none }
    | some line => { s with lines := s.lines ++ [line], unended := none }
  | .configuration settings => { s with configurations := s.configurations ++ [settings] }
  | .shutdown => { s with shutdown := true }

def relay (line : String) (s : State) : State :=
  let (level, message) := splitLevel s.fallback line.toList
  { s with router := s.router.log s.logger ⟨level, String.ofList message, {}, true⟩, relayed := s.relayed + 1 }

def turn (s : State) : State :=
  if s.status ≠ .running then s
  else if s.shutdown then { s with status := .stopped }
  else
    match s.configurations, s.lines, s.unended with
    | settings :: rest, _, _ => { s with router := s.router.reload settings, configurations := rest }
    | [], line :: rest, _ =>
      match decode? line with
      | some text => { s.relay text with lines := rest }
      | none => { s with status := .broken }
    | [], [], none => { s with status := .stopped }
    | [], [], some _ => s

def turns : Nat → State → State
  | 0, s => s
  | n + 1, s => turns n s.turn

def settle (s : State) : State := s.turns (s.configurations.length + s.lines.length + 1)

def receive (arrivals : List Arrival) (s : State) : State := (arrivals.foldl arrive s).settle

end State
end Relay
end LogRouting
