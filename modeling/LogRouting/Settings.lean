import LogRouting.Level

namespace LogRouting

structure PrinterSettings where
  maxLen : Option Nat := none
deriving DecidableEq, Inhabited

structure Observability where
  logFilter : String := "info,fanout_log::events=trace"
  json : Bool := false
  metricsEnabled : Bool := false
  metricsAddress : String := "127.0.0.1:9090"
deriving DecidableEq, Inhabited

structure TargetSettings where
  name : String
  level : Level := .all
  /-- No category stands for all of them. -/
  categories : List String := []
deriving DecidableEq, Inhabited

structure Settings where
  level : Level := .info
  printer : PrinterSettings := {}
  observability : Observability := {}
  targets : List TargetSettings := [{ name := "stdout" }]
deriving DecidableEq

instance : Inhabited Settings := ⟨{}⟩

end LogRouting
