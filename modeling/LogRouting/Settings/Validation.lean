import LogRouting.Settings
import LogRouting.Net.SocketAddress

namespace LogRouting

inductive Defect
  | emptyTargetName (index : Nat)
  | duplicateTargetName (name : String)
  | emptyCategory (target : String)
  | paddedTargetName (name : String)
  | paddedCategory (target category : String)
  | unreachableTarget (name : String)
  | invalidMetricsAddress (address : String)
deriving DecidableEq

namespace Defect

def message : Defect → String
  | .emptyTargetName index => s!"target #{index} has an empty name"
  | .duplicateTargetName name => s!"target `{name}` is defined more than once"
  | .emptyCategory target => s!"target `{target}` lists an empty category"
  | .paddedTargetName name => s!"target name `{name}` has leading or trailing whitespace"
  | .paddedCategory target category =>
    s!"target `{target}` lists category `{category}` with leading or trailing whitespace"
  | .unreachableTarget name => s!"target `{name}` has level NONE and would never receive events"
  | .invalidMetricsAddress address => s!"metrics address `{address}` is not a socket address"

end Defect

def isBlankText (s : String) : Bool := Text.trimmed s = ""

def isPadded (s : String) : Bool := Text.trimmed s ≠ s

namespace TargetSettings

/-- The defects of a target whose name is not blank, after targets of the given trimmed names. -/
def defects (seen : List String) (t : TargetSettings) : List Defect :=
  let name := Text.trimmed t.name
  (if isPadded t.name then [.paddedTargetName t.name] else []) ++
  (if name ∈ seen then [.duplicateTargetName name] else []) ++
  (if t.categories.any isBlankText then [.emptyCategory name] else []) ++
  (t.categories.filter fun c => !isBlankText c && isPadded c).map (.paddedCategory name) ++
  (if Level.none ≤ t.level then [.unreachableTarget name] else [])

def allDefects (seen : List String) : Nat → List TargetSettings → List Defect
  | _, [] => []
  | index, t :: ts =>
    if isBlankText t.name then .emptyTargetName index :: allDefects seen (index + 1) ts
    else t.defects seen ++ allDefects (Text.trimmed t.name :: seen) (index + 1) ts

end TargetSettings

def Observability.defects (o : Observability) : List Defect :=
  if o.metricsEnabled ∧ Net.SocketAddress.parse? o.metricsAddress = none then
    [.invalidMetricsAddress o.metricsAddress]
  else []

def Settings.defects (s : Settings) : List Defect :=
  TargetSettings.allDefects [] 0 s.targets ++ s.observability.defects

end LogRouting
