import LogRouting.Settings
import LogRouting.Json.Printer
import LogRouting.Text.Quoted

namespace LogRouting

inductive Want
  | number
  | truth
  | text
  | sequence
  | group (name : String)
deriving DecidableEq

def Want.message : Want → String
  | .number => "usize"
  | .truth => "a boolean"
  | .text => "a string"
  | .sequence => "a sequence"
  | .group name => "struct " ++ name

/-- In what the two notations of settings differ: the text of a float in a message, and whether an array may
have more items than there are fields. -/
structure Dialect where
  floats : Binary64.Layout
  surplus : Bool

namespace Dialect

def toml : Dialect := ⟨⟨none, "inf", "NaN"⟩, true⟩

def json : Dialect := ⟨Json.floatLayout, false⟩

end Dialect

inductive DecodeError
  | level (e : LevelError)
  | wrongType (got : String) (want : Want)
  | negative (n : Int)
  | missingName
  | emptyTarget
  | surplus (count : Nat)
deriving DecidableEq

def DecodeError.message : DecodeError → String
  | .level e => e.message
  | .wrongType got want => s!"invalid type: {got}, expected {want.message}"
  | .negative n => s!"invalid value: integer `{n}`, expected usize"
  | .missingName => "missing field `name`"
  | .emptyTarget => "invalid length 0, expected struct TargetConfig with 3 elements"
  | .surplus count => s!"invalid length {count}, expected fewer elements in array"

namespace Dialect

def describe (d : Dialect) : Value → String
  | .null => "null"
  | .bool true => "boolean `true`"
  | .bool false => "boolean `false`"
  | .int n => s!"integer `{n}`"
  | .float x => "floating point `" ++ String.ofList (x.render d.floats) ++ "`"
  | .string s => "string " ++ Text.quoted s
  | .array _ => "sequence"
  | .object _ => "map"

variable (d : Dialect)

def refuse {α : Type} (v : Value) (want : Want) : Except DecodeError α :=
  .error (.wrongType (d.describe v) want)

def level : Value → Except LevelError Level
  | .string s =>
    match Level.parse? s with
    | some l => .ok l
    | none => .error (.unknown s)
  | .int n =>
    match Level.ofInt? n with
    | some l => .ok l
    | none => .error .shape
  | _ => .error .shape

def levelSetting (v : Value) : Except DecodeError Level := (level v).mapError .level

def text : Value → Except DecodeError String
  | .string s => .ok s
  | v => d.refuse v .text

def truth : Value → Except DecodeError Bool
  | .bool b => .ok b
  | v => d.refuse v .truth

def limit : Value → Except DecodeError (Option Nat)
  | .null => .ok none
  | .int n => if 0 ≤ n then .ok (some n.toNat) else .error (.negative n)
  | v => d.refuse v .number

def sequence {α : Type} (item : Value → Except DecodeError α) : Value → Except DecodeError (List α)
  | .array vs => vs.mapM item
  | v => d.refuse v .sequence

def group {α : Type} (name : String) (fields : List String)
    (set : α → String → Value → Except DecodeError α) (start : α) : Value → Except DecodeError α
  | .object members => members.foldlM (fun a (key, v) => set a key v) start
  | .array vs => do
    let a ← (fields.zip vs).foldlM (fun a (key, v) => set a key v) start
    if d.surplus ∨ vs.length ≤ fields.length then return a else .error (.surplus vs.length)
  | v => d.refuse v (.group name)

def setPrinter (p : PrinterSettings) (key : String) (v : Value) : Except DecodeError PrinterSettings :=
  match key with
  | "max_len" => do return { p with maxLen := ← d.limit v }
  | _ => .ok p

def printer (v : Value) : Except DecodeError PrinterSettings :=
  d.group "PrinterConfig" ["max_len"] d.setPrinter {} v

def setObservability (o : Observability) (key : String) (v : Value) : Except DecodeError Observability :=
  match key with
  | "log_filter" => do return { o with logFilter := ← d.text v }
  | "json" => do return { o with json := ← d.truth v }
  | "metrics_enabled" => do return { o with metricsEnabled := ← d.truth v }
  | "metrics_address" => do return { o with metricsAddress := ← d.text v }
  | _ => .ok o

def observability (v : Value) : Except DecodeError Observability :=
  d.group "ObservabilityConfig" ["log_filter", "json", "metrics_enabled", "metrics_address"]
    d.setObservability {} v

structure TargetDraft where
  name : Option String := none
  level : Level := .all
  categories : List String := []

def setTarget (t : TargetDraft) (key : String) (v : Value) : Except DecodeError TargetDraft :=
  match key with
  | "name" => do return { t with name := some (← d.text v) }
  | "level" => do return { t with level := ← levelSetting v }
  | "categories" => do return { t with categories := ← d.sequence d.text v }
  | _ => .ok t

def target : Value → Except DecodeError TargetSettings
  | .array [] => .error .emptyTarget
  | v => do
    let t ← d.group "TargetConfig" ["name", "level", "categories"] d.setTarget {} v
    match t.name with
    | some name => return ⟨name, t.level, t.categories⟩
    | none => .error .missingName

def setSettings (s : Settings) (key : String) (v : Value) : Except DecodeError Settings :=
  match key with
  | "level" => do return { s with level := ← levelSetting v }
  | "printer" => do return { s with printer := ← d.printer v }
  | "observability" => do return { s with observability := ← d.observability v }
  | "targets" => do return { s with targets := ← d.sequence d.target v }
  | _ => .ok s

def settings (v : Value) : Except DecodeError Settings :=
  d.group "LogConfig" ["level", "printer", "observability", "targets"] d.setSettings {} v

end Dialect
end LogRouting
