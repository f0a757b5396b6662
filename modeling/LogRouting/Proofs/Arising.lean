import LogRouting.Proofs.Configuration.Enrolled
import LogRouting.Proofs.Histories

namespace LogRouting.Router

/-- The states that arise from the empty one, those in the midst of log calls included. -/
inductive Arises : Router → Prop
  | empty : Arises empty
  | step : Arises s → Step s s' → Arises s'
  | observe (o : Observation) : Arises s → Arises (s.observe o)

variable {s s' : Router} {past : List Incident} {h : Handler} {level : Level} {id : LoggerId} {call : Call}
  {allowed : Operation → Prop}

theorem History.arises (run : History past s s') (arises : s.Arises) : s'.Arises :=
  run.preserves (fun o _ arises => .observe o arises) (fun _ _ step arises => .step arises step) arises

theorem found_preserves {P : Router → Prop} (noting : ∀ o s, P s → P (s.observe o))
    (handling : ∀ t e s, P s → P (h t e s).2) (hs : P s) : ∀ i ∈ s.invocations h id call, P i.found := by
  intro i mem
  rw [invocations] at mem
  split at mem
  · cases mem
  · split at mem
    · cases mem
    · rw [invocationsFrom_eq_map] at mem
      obtain ⟨k, -, rfl⟩ := List.mem_map.1 mem
      exact List.foldlRecOn (motive := P) _ _ (begun_preserves noting hs) fun s hs t _ =>
        turn_preserves noting handling hs

theorem Arises.found (nested : ∀ t e r, Recorded r (h t e r).2) (arises : s.Arises) :
    ∀ i ∈ s.invocations h id call, i.found.Arises := by
  refine found_preserves (fun o _ arises => .observe o arises) (fun t e r arises => ?_) arises
  obtain ⟨past, run⟩ := nested t e r
  exact run.arises arises

theorem Consistent.newRegistry (hs : s.Consistent) (level : Level) (renderer : Renderer) (reporter : Reporter) :
    (s.newRegistry level renderer reporter).Consistent :=
  ⟨List.nodup_nil, List.nodup_nil, nofun, List.nodup_nil, hs.held⟩

theorem Consistent.newLogger (hs : s.Consistent) (category : String) (context : Context) :
    (s.newLogger ⟨category, {}, context⟩).2.Consistent where
  keys := hs.keys
  ids := hs.ids
  made p mem := (hs.made p mem).trans_le (by simp [Router.newLogger])
  bound := hs.bound
  held id l found := by
    rw [logger?_newLogger] at found
    split at found
    · cases found
      exact List.nodup_nil
    · exact hs.held id l found

theorem reaches_configure (c : Settings) (s : Router) : Reaches (fun _ => True) s (s.configure c) :=
  .configure (fun _ _ => trivial) c (.refl s)

theorem Consistent.configure (hs : s.Consistent) (c : Settings) : (s.configure c).Consistent :=
  (reaches_configure c s).consistent hs

theorem Consistent.cleared (hs : s.Consistent) (c : Settings) : (s.cleared c).Consistent :=
  (hs.newRegistry c.level ⟨c.printer.maxLen, false⟩ .tracing).of_same rfl rfl

theorem Step.consistent (step : Step s s') (hs : s.Consistent) : s'.Consistent := by
  cases step with
  | operate o silent => exact hs.apply o silent
  | start c => exact ((hs.cleared c).configure c).silent (.observe _ _)
  | configure c => exact hs.configure c
  | newRegistry level renderer reporter => exact hs.newRegistry level renderer reporter
  | useContext => exact ⟨hs.keys, hs.ids, hs.made, hs.bound, hs.held⟩
  | newLogger category context => exact hs.newLogger category context
  | setGate => exact hs.of_same registry_setGate loggers_setGate
  | newGate | newTarget | setLevel => exact hs.of_same rfl rfl
  | aside aside => exact hs.silent aside.routing

theorem Gated.setGate (h : s.Gated) (index : Nat) (level : Level) : (s.setGate index level).Gated := by
  refine h.of_contexts ?_ ?_ ?_ ?_ fun id => by rw [logger?, loggers_setGate, logger?]
  · rw [gates_setGate, Array.size_setIfInBounds]
  all_goals rw [registry_setGate]
  exact List.Subset.refl _

theorem Reaches.gated (run : Reaches allowed s s') (hs : s.Consistent) (h : s.Gated) : s'.Gated := by
  refine (run.preserves (P := fun s => s.Consistent ∧ s.Gated) ?_ ?_ ⟨hs, h⟩).2
  · exact fun _ _ same ⟨hs, h⟩ => ⟨hs.silent same, h.silent same⟩
  · exact fun o _ _ silent ⟨hs, h⟩ => ⟨hs.apply o silent, h.apply o silent hs⟩

theorem Gated.configure (hs : s.Consistent) (h : s.Gated) (c : Settings) : (s.configure c).Gated :=
  (reaches_configure c s).gated hs h

theorem Gated.cleared (c : Settings) (s : Router) : (s.cleared c).Gated :=
  (Gated.newRegistry c.level ⟨c.printer.maxLen, false⟩ .tracing s).silent ⟨rfl, rfl, rfl⟩

theorem Step.gated (step : Step s s') (hs : s.Consistent) (h : s.Gated) : s'.Gated := by
  cases step with
  | operate o silent => exact h.apply o silent hs
  | start c => exact ((Gated.cleared c s).configure (hs.cleared c) c).silent (.observe _ _)
  | configure c => exact h.configure hs c
  | newRegistry level renderer reporter => exact .newRegistry level renderer reporter s
  | useContext => exact ⟨h.index, h.shared, h.loggers⟩
  | newLogger category context =>
    refine ⟨h.index, h.shared, fun p mem l found => ?_⟩
    rw [logger?_newLogger, if_neg (hs.made p mem).ne] at found
    exact h.loggers p mem l found
  | setGate index level => exact h.setGate index level
  | newGate level => exact ⟨h.index.trans_le (by simp [Router.newGate]), h.shared, h.loggers⟩
  | newTarget | setLevel => exact h.silent ⟨rfl, rfl, rfl⟩
  | aside aside => exact h.silent aside.routing

theorem Enrolled.of_nil (none : s.configuredTargets = []) : s.Enrolled := by
  constructor <;> simp [none]

theorem Enrolled.apply (o : Operation) (silent : o.handler? = none) (h : s.Enrolled) : (o.apply s).Enrolled := by
  cases o with
  | lookup category => exact h.of_same configured_lookup (by rw [Operation.apply, targets_lookup])
  | removeLogger category => exact h.of_same rfl (Nat.le_refl _)
  | bind t categories => exact h.of_same configured_bind (by rw [Operation.apply, targets_bind])
  | unbind t => exact h.of_same configured_unbind (by rw [Operation.apply, targets_unbind])
  | setGate level => exact h.setRegistryLevel
  | rename id label => exact h.of_same rfl (Nat.le_refl _)
  | add id t =>
    have only := OnlyLoggers.addTarget id t s
    exact h.of_same only.configured (by rw [Operation.apply, only.targets])
  | remove id t =>
    have only := OnlyLoggers.removeTarget id t s
    exact h.of_same only.configured (by rw [Operation.apply, only.targets])
  | log h id call => cases silent

theorem Step.enrolled (step : Step s s') (h : s.Enrolled) : s'.Enrolled := by
  cases step with
  | operate o silent => exact h.apply o silent
  | start c => exact (Enrolled.of_nil (s := s.cleared c) rfl).configure.of_same rfl (Nat.le_refl _)
  | configure c => exact h.configure
  | newRegistry => exact .of_nil rfl
  | setGate index level => exact h.of_same configured_setGate (by rw [targets_setGate])
  | newTarget name state => exact h.of_same rfl (by simp [Router.newTarget])
  | setLevel t level => exact h.of_same rfl Array.size_modify.ge
  | aside aside =>
    refine h.of_same aside.configured (Nat.le_of_eq ?_)
    have levels := congrArg Array.size aside.levels
    simpa using levels.symm
  | _ => exact h.of_same rfl (Nat.le_refl _)

theorem Arises.in_order (arises : s.Arises) : s.Consistent ∧ s.Gated ∧ s.Enrolled := by
  induction arises with
  | empty =>
    have consistent : Router.empty.Consistent :=
      ⟨List.nodup_nil, List.nodup_nil, fun p mem => absurd mem List.not_mem_nil, List.nodup_nil,
        by simp [logger?, Router.empty]⟩
    exact ⟨consistent, ⟨Nat.one_pos, rfl, fun p mem => absurd mem List.not_mem_nil⟩, .of_nil rfl⟩
  | step _ step ih =>
    obtain ⟨consistent, gated, enrolled⟩ := ih
    exact ⟨step.consistent consistent, step.gated consistent gated, step.enrolled enrolled⟩
  | observe o _ ih =>
    obtain ⟨consistent, gated, enrolled⟩ := ih
    exact ⟨consistent.silent (.observe o _), gated.silent (.observe o _), enrolled.of_same rfl (Nat.le_refl _)⟩

end LogRouting.Router
