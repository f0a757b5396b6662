import LogRouting.Settings
import LogRouting.Toml.Printer
import LogRouting.Value

namespace LogRouting

def Level.toValue (l : Level) : Value :=
  match l.key with
  | .inl name => .string name
  | .inr n => .int n

namespace Settings

def printerValue (p : PrinterSettings) : Value :=
  match p.maxLen with
  | none => .object []
  | some n => .object [("max_len", .int n)]

def observabilityValue (o : Observability) : Value :=
  .object [("json", .bool o.json), ("log_filter", .string o.logFilter),
    ("metrics_address", .string o.metricsAddress), ("metrics_enabled", .bool o.metricsEnabled)]

def targetValue (t : TargetSettings) : Value :=
  .object [("categories", .texts t.categories), ("level", t.level.toValue), ("name", .string t.name)]

def toValue (s : Settings) : Value :=
  .object [("level", s.level.toValue), ("observability", observabilityValue s.observability),
    ("printer", printerValue s.printer), ("targets", .array (s.targets.map targetValue))]

def line (key : String) (value : List Char) : List Char := key.toList ++ " = ".toList ++ value ++ ['\n']

def printLevel (l : Level) : List Char :=
  match l.key with
  | .inl name => Toml.printString name
  | .inr n => Text.decimal n

def printBool (b : Bool) : List Char := (if b then "true" else "false").toList

def printTexts : List String → List Char
  | [] => "[]".toList
  | [s] => '[' :: (Toml.printString s ++ [']'])
  | ss => "[\n".toList ++ ss.flatMap (fun s => "    ".toList ++ Toml.printString s ++ ",\n".toList) ++ "]".toList

def printPrinter (p : PrinterSettings) : List Char :=
  "\n[printer]\n".toList ++
    match p.maxLen with
    | none => []
    | some n => line "max_len" (Text.decimal n)

def printObservability (o : Observability) : List Char :=
  "\n[observability]\n".toList ++ line "log_filter" (Toml.printString o.logFilter) ++
    line "json" (printBool o.json) ++ line "metrics_enabled" (printBool o.metricsEnabled) ++
    line "metrics_address" (Toml.printString o.metricsAddress)

def printTarget (t : TargetSettings) : List Char :=
  "\n[[targets]]\n".toList ++ line "name" (Toml.printString t.name) ++ line "level" (printLevel t.level) ++
    line "categories" (printTexts t.categories)

/-- The document of the settings. That there are no targets is said before the first table. -/
def print (s : Settings) : List Char :=
  line "level" (printLevel s.level) ++ (if s.targets = [] then line "targets" "[]".toList else []) ++
    printPrinter s.printer ++ printObservability s.observability ++ s.targets.flatMap printTarget

def toToml (s : Settings) : String := String.ofList s.print

/-- Whether a document can hold the limit: its whole numbers are signed and have 64 bits. -/
def isWritable (p : PrinterSettings) : Bool := p.maxLen.all (· < Nat.pow 2 63)

def toToml? (s : Settings) : Option String := if isWritable s.printer then some s.toToml else none

end Settings
end LogRouting
