import LogRouting.Router.Registry
import LogRouting.Settings

namespace LogRouting.Router

def configuredTargets (s : Router) : List (String × Target) := s.configured.getD []

def dropTargets (wanted : List String) (s : Router) : Router :=
  let stale := s.configuredTargets.filter (·.1 ∉ wanted)
  let s := { s with configured := some (s.configuredTargets.filter (·.1 ∈ wanted)) }
  stale.foldl (fun s (_, t) => s.unbind t) s

def configuredTarget (name : String) (level : Level) (s : Router) : Target × Router :=
  match s.configuredTargets.lookup name with
  | some t => (t, s)
  | none =>
    let (t, s) := s.newTarget name ⟨level, .forwarding⟩
    (t, { s with configured := some (s.configuredTargets ++ [(name, t)]) })

def configureTarget (settings : TargetSettings) (s : Router) : Router :=
  let (t, s) := s.configuredTarget settings.name settings.level
  (s.setLevel t settings.level).bind t settings.categories

def configure (settings : Settings) (s : Router) : Router :=
  let s := s.setRegistryLevel settings.level
  let s := s.dropTargets (settings.targets.map (·.name))
  settings.targets.foldl (fun s t => s.configureTarget t) s

/-- A new registry under settings. How parameters are rendered is decided here once and for all. -/
def start (settings : Settings) (s : Router) : Router :=
  let s := s.newRegistry settings.level ⟨settings.printer.maxLen, false⟩ .tracing
  let s := { s with configured := some [] }
  (s.configure settings).note (.started settings.level settings.targets.length)

def configuredNames (s : Router) : List String := (s.configuredTargets.map (·.1)).mergeSort (· ≤ ·)

end LogRouting.Router
