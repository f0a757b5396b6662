import LogRouting.Event
import LogRouting.Text.Quoted

namespace LogRouting

inductive Notice
  | starting
  | metricsListening (address : String)
  | gateChanged (previous current : Level)
  | loggerCreated (category : String)
  | targetAdded (category target : String)
  | targetRemoved (category target : String)
  | targetBound (target : String) (categories : List String)
  | targetUnbound (target : String)
  | deliveryFailed (target category : String) (level : Level) (error : TargetError)
  | started (level : Level) (targets : Nat)
  | reloaded (level : Level) (targets : Nat)
  | watching (path : String)
  | changeDetected (path : String)
  | changeRefused (error : String)
  | reloadRefused (error : String)
  | reloadIgnored
  | shutdownReceived
  | relayStopped (relayed : Nat)
  | forwarded (event : Event)
deriving DecidableEq

/-- The content of a field: text that stands by itself, text that is quoted where fields are listed, or a
number. -/
inductive Field
  | shown (s : String)
  | quoted (s : String)
  | count (n : Nat)
deriving DecidableEq

structure Record where
  severity : Severity
  origin : String
  message : String
  fields : List (String × Field)
  /-- Fields that such a record declares and leaves empty. -/
  absent : List String := []
deriving DecidableEq

def Notice.record : Notice → Record
  | .starting => ⟨.info, "fanout_log", "fanout-log v0.1.0 starting", [], []⟩
  | .metricsListening address =>
    ⟨.info, "fanout_log::observability::metrics", "Metrics exporter listening",
      [("address", .shown address)], []⟩
  | .gateChanged previous current =>
    ⟨.info, "fanout_log::gate", "Target level changed",
      [("previous", .shown previous.display), ("current", .shown current.display)], []⟩
  | .loggerCreated category =>
    ⟨.debug, "fanout_log::registry::store", "Logger created", [("category", .quoted category)], []⟩
  | .targetAdded category target =>
    ⟨.debug, "fanout_log::logger::dispatch", "Target added",
      [("category", .shown category), ("target_name", .shown target)], []⟩
  | .targetRemoved category target =>
    ⟨.debug, "fanout_log::logger::dispatch", "Target removed",
      [("category", .shown category), ("target_name", .shown target)], []⟩
  | .targetBound target categories =>
    ⟨.info, "fanout_log::registry::store", "Target bound",
      [("target_name", .shown target), ("categories", .shown (Text.quotedList categories))], []⟩
  | .targetUnbound target =>
    ⟨.info, "fanout_log::registry::store", "Target unbound", [("target_name", .shown target)], []⟩
  | .deliveryFailed target category level error =>
    ⟨.error, "fanout_log::observability::logging", "Log target failed to accept event",
      [("target_name", .shown target), ("category", .shown category), ("level", .shown level.display),
        ("error", .shown error.message)], []⟩
  | .started level targets =>
    ⟨.info, "fanout_log::lifecycle::startup", "Logging runtime started",
      [("level", .shown level.display), ("targets", .count targets)], []⟩
  | .reloaded level targets =>
    ⟨.info, "fanout_log", "Configuration reloaded",
      [("level", .shown level.display), ("targets", .count targets)], []⟩
  | .watching path =>
    ⟨.info, "fanout_log::config::watcher", "Config watcher started", [("path", .shown (Text.quotedPath path))], []⟩
  | .changeDetected path =>
    ⟨.info, "fanout_log::config::watcher", "Config file change detected, reloading",
      [("path", .shown (Text.quotedPath path))], []⟩
  | .changeRefused error =>
    ⟨.error, "fanout_log::config::watcher", "Failed to reload config, keeping current configuration",
      [("error", .shown error)], []⟩
  | .reloadRefused error =>
    ⟨.error, "fanout_log", "Reload failed, keeping current configuration", [("error", .shown error)], []⟩
  | .reloadIgnored =>
    ⟨.warn, "fanout_log", "Reload requested without a config file, ignoring", [], []⟩
  | .shutdownReceived => ⟨.info, "fanout_log", "Shutdown signal received", [], []⟩
  | .relayStopped relayed => ⟨.info, "fanout_log", "Relay stopped", [("relayed", .count relayed)], []⟩
  | .forwarded event =>
    let fields := [("category", .quoted event.category), ("level", .shown event.level.display)]
    match event.cause with
    | some cause =>
      ⟨event.level.severity, "fanout_log::events", event.message, fields ++ [("cause", .quoted cause)], []⟩
    | none => ⟨event.level.severity, "fanout_log::events", event.message, fields, ["cause"]⟩

end LogRouting
