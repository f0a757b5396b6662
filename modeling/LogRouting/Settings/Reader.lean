import LogRouting.Settings.Decode
import LogRouting.Settings.Validation
import LogRouting.Toml.Reader

namespace LogRouting

inductive SettingsError
  | syntaxError
  | schema (e : DecodeError)
  | invalid (first : Defect) (others : List Defect)
deriving DecidableEq

namespace Settings

def decode (document : String) : Except SettingsError Settings :=
  match Toml.read? document with
  | none => .error .syntaxError
  | some v => (Dialect.toml.settings v).mapError .schema

def validate (s : Settings) : Except SettingsError Settings :=
  match s.defects with
  | [] => .ok s
  | first :: others => .error (.invalid first others)

def read (document : String) : Except SettingsError Settings := do
  let s ← decode document
  validate s

end Settings

def Defect.summary (defects : List Defect) : String :=
  "Validation failed: " ++ ", ".intercalate (defects.map Defect.message)

end LogRouting
