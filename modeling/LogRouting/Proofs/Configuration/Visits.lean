import LogRouting.Proofs.Configuration.Idempotence

namespace LogRouting

theorem TargetSet.remove_comm {α : Type} [DecidableEq α] (s : TargetSet α) (t u : α) :
    (s.remove t).remove u = (s.remove u).remove t :=
  congrArg TargetSet.mk (List.filter_comm ..)

namespace Router

/-- The same state, and a journal that tells the same things in an order of its own. -/
structure Shuffled (s s' : Router) : Prop where
  state : s' = s.withJournal s'.journal
  journal : s'.journal.Perm s.journal

def place (stays : Bool) (t : Target) (id : LoggerId) (s : Router) : Router :=
  if stays then s.addTarget id t else s.removeTarget id t

def placing (stays : Bool) (t : Target) : Option Logger → List Observation
  | none => []
  | some l =>
    if stays = decide (t ∈ l.targets.members) then []
    else [.noted (if stays then .targetAdded l.category t.name else .targetRemoved l.category t.name)]

def visit (stays : String → Bool) (t : Target) (order : List (String × LoggerId)) (s : Router) : Router :=
  order.foldl (fun s p => s.place (stays p.1) t p.2) s

def bindVisiting (order : List (String × LoggerId)) (t : Target) (categories : List String) (s : Router) : Router :=
  let b : Binding := ⟨t, categories⟩
  ((s.setRegistry fun r => { r with bindings := r.bindings.filter (!·.isFor t) ++ [b] }).visit b.covers t order).note
    (.targetBound t.name categories)

def unbindVisiting (order : List (String × LoggerId)) (t : Target) (s : Router) : Router :=
  ((s.setRegistry fun r => { r with bindings := r.bindings.filter (!·.isFor t) }).visit (fun _ => false) t order).note
    (.targetUnbound t.name)

def withConfigured (ps : List (String × Target)) (s : Router) : Router := { s with configured := some ps }

inductive Dropped : List (String × Target) → Router → Router → Prop
  | nil (s : Router) : Dropped [] s s
  | cons {p : String × Target} : order.Perm s.registry.loggers →
      Dropped ps ((s.withConfigured (s.configuredTargets.filter (·.1 ≠ p.1))).unbindVisiting order p.2) s' →
      Dropped (p :: ps) s s'

inductive Configured : List TargetSettings → Router → Router → Prop
  | nil (s : Router) : Configured [] s s
  | cons {settings : TargetSettings} : order.Perm s.registry.loggers →
      Configured ts ((s.prepared settings).bindVisiting order (s.chosen settings.name) settings.categories) s' →
      Configured (settings :: ts) s s'

/-- Puts settings into force: first the gate, then the targets that are not wanted any more, in any order, then the
others in the order of the settings. Each time a binding changes, the loggers are visited in any order. -/
def Applied (c : Settings) (s s' : Router) : Prop :=
  ∃ stale r, stale.Perm (s.configuredTargets.filter (·.1 ∉ c.targets.map (·.name))) ∧
    Dropped stale (s.setRegistryLevel c.level) r ∧ Configured c.targets r s'

variable {s s' s'' r : Router} {t u : Target} {id i : LoggerId} {stays : Bool} {holds : String → Bool}
  {order order' : List (String × LoggerId)} {categories wanted : List String} {f : Router → Router}
  {ps : List (String × Target)} {ts : List TargetSettings} {c : Settings}

theorem bindVisiting_loggers : s.bindVisiting s.registry.loggers t categories = s.bind t categories := rfl

theorem unbindVisiting_loggers : s.unbindVisiting s.registry.loggers t = s.unbind t := rfl

namespace Shuffled

theorem refl (s : Router) : Shuffled s s := ⟨rfl, .refl _⟩

theorem trans (first : Shuffled s s') (next : Shuffled s' s'') : Shuffled s s'' := by
  refine ⟨?_, next.journal.trans first.journal⟩
  rw [next.state, first.state]
  rfl

theorem registry (h : Shuffled s s') : s'.registry = s.registry := by
  rw [h.state]
  rfl

end Shuffled

theorem Quiet.shuffled (quiet : Quiet f) (h : Shuffled s s') : Shuffled (f s) (f s') := by
  obtain ⟨notes, -, adds⟩ := quiet s
  have before : (f s).journal = notes ++ s.journal := congrArg Router.journal (adds s.journal)
  have after : f s' = (f s).withJournal (notes ++ s'.journal) := by rw [h.state, adds]; rfl
  rw [after]
  refine ⟨rfl, ?_⟩
  rw [before]
  exact h.journal.append_left notes

theorem OnlyLoggers.place (stays : Bool) (t : Target) (id : LoggerId) (s : Router) :
    OnlyLoggers s (s.place stays t id) := by
  cases stays with
  | true => exact .addTarget id t s
  | false => exact .removeTarget id t s

theorem OnlyLoggers.visit (holds : String → Bool) (t : Target) (order : List (String × LoggerId)) (s : Router) :
    OnlyLoggers s (s.visit holds t order) :=
  .foldl (fun s (p : String × LoggerId) => .place (holds p.1) t p.2 s) order s

theorem logger?_place : (s.place stays t id).logger? i =
    if id = i then (s.logger? i).map (·.mapTargets fun ts => if stays then ts.add t else ts.remove t)
    else s.logger? i := by
  cases stays with
  | true => exact logger?_addTarget
  | false => exact logger?_removeTarget

theorem journal_place : (s.place stays t id).journal = placing stays t (s.logger? id) ++ s.journal := by
  cases stays with
  | true =>
    rw [place, if_pos rfl, addTarget]
    cases s.logger? id with
    | none => rfl
    | some l => by_cases held : t ∈ l.targets.members <;> simp [placing, held, note, observe, modifyLogger]
  | false =>
    rw [place, if_neg Bool.false_ne_true, removeTarget]
    cases s.logger? id with
    | none => rfl
    | some l => by_cases held : t ∈ l.targets.members <;> simp [placing, held, note, observe, modifyLogger]

theorem journal_visit (distinct : (order.map (·.2)).Nodup) : (s.visit holds t order).journal.Perm
    ((order.flatMap fun p => placing (holds p.1) t (s.logger? p.2)) ++ s.journal) := by
  induction order generalizing s with
  | nil => exact .refl _
  | cons p order ih =>
    rw [List.map_cons, List.nodup_cons] at distinct
    have others : (order.flatMap fun q => placing (holds q.1) t ((s.place (holds p.1) t p.2).logger? q.2)) =
        order.flatMap fun q => placing (holds q.1) t (s.logger? q.2) := by
      refine List.flatMap_congr fun q mem => ?_
      have other : p.2 ≠ q.2 := fun same => distinct.1 (same ▸ List.mem_map_of_mem mem)
      rw [logger?_place, if_neg other]
    have rest := ih (s := s.place (holds p.1) t p.2) distinct.2
    rw [others, journal_place] at rest
    rw [List.flatMap_cons, List.append_assoc]
    exact rest.trans (List.perm_append_comm_assoc ..)

theorem Shuffled.visit (perm : order'.Perm order) (distinct : (order.map (·.2)).Nodup) :
    Shuffled (s.visit holds t order) (s.visit holds t order') := by
  have distinct' : (order'.map (·.2)).Nodup := (perm.map _).nodup_iff.2 distinct
  have step (key : String) (id : LoggerId) (s : Router) (i : LoggerId) :
      (s.place (holds key) t id).logger? i = if id = i then (s.logger? i).map
        (·.mapTargets fun ts => if holds key then ts.add t else ts.remove t) else s.logger? i := logger?_place
  refine ⟨OnlyLoggers.eq_withJournal (.visit holds t order s) (.visit holds t order' s) fun i => ?_, ?_⟩
  · by_cases known : i ∈ order.map (·.2)
    · obtain ⟨p, mem, rfl⟩ := List.mem_map.1 known
      exact (logger?_foldl_of_mem step distinct' (perm.mem_iff.2 mem)).trans
        (logger?_foldl_of_mem step distinct mem).symm
    · have unknown : i ∉ order'.map (·.2) := fun mem => known ((perm.map _).mem_iff.1 mem)
      exact (logger?_foldl_of_not_mem step unknown).trans (logger?_foldl_of_not_mem step known).symm
  · exact (journal_visit distinct').trans (((perm.flatMap_right _).append_right _).trans (journal_visit distinct).symm)

theorem Shuffled.bind (perm : order.Perm s.registry.loggers) (distinct : (s.registry.loggers.map (·.2)).Nodup) :
    Shuffled (s.bind t categories) (s.bindVisiting order t categories) := by
  have told : Quiet (Router.note (.targetBound t.name categories)) := .note rfl
  rw [← bindVisiting_loggers]
  exact told.shuffled (.visit perm distinct)

theorem Shuffled.unbind (perm : order.Perm s.registry.loggers) (distinct : (s.registry.loggers.map (·.2)).Nodup) :
    Shuffled (s.unbind t) (s.unbindVisiting order t) := by
  have told : Quiet (Router.note (.targetUnbound t.name)) := .note rfl
  rw [← unbindVisiting_loggers]
  exact told.shuffled (.visit perm distinct)

def unbinding (t : Target) (s : Router) : List Observation :=
  .noted (.targetUnbound t.name) :: s.registry.loggers.flatMap fun p => placing false t (s.logger? p.2)

theorem nodup_ids_unbind (distinct : (s.registry.loggers.map (·.2)).Nodup) :
    ((s.unbind t).registry.loggers.map (·.2)).Nodup := by rwa [registry_unbind]

theorem journal_unbind (distinct : (s.registry.loggers.map (·.2)).Nodup) :
    (s.unbind t).journal.Perm (s.unbinding t ++ s.journal) := by
  rw [← unbindVisiting_loggers]
  exact (journal_visit distinct).cons _

theorem unbinding_unbind (distinct : (s.registry.loggers.map (·.2)).Nodup) (ne : u ≠ t) :
    (s.unbind t).unbinding u = s.unbinding u := by
  rw [unbinding, registry_unbind, unbinding]
  refine congrArg _ (List.flatMap_congr fun p mem => ?_)
  rw [logger?_unbind_of_mem distinct mem]
  cases s.logger? p.2 with
  | none => rfl
  | some l => simp [placing, Logger.mapTargets, TargetSet.mem_remove, ne]

theorem journal_unbind_unbind (distinct : (s.registry.loggers.map (·.2)).Nodup) (ne : u ≠ t) :
    ((s.unbind t).unbind u).journal.Perm (s.unbinding u ++ (s.unbinding t ++ s.journal)) := by
  refine (journal_unbind (nodup_ids_unbind distinct)).trans ?_
  rw [unbinding_unbind distinct ne]
  exact (journal_unbind distinct).append_left _

theorem logger?_unbind_comm (distinct : (s.registry.loggers.map (·.2)).Nodup) :
    ((s.unbind u).unbind t).logger? i = ((s.unbind t).unbind u).logger? i := by
  have same (t : Target) : (s.unbind t).registry.loggers = s.registry.loggers := by rw [registry_unbind]
  by_cases known : i ∈ s.registry.loggers.map (·.2)
  · obtain ⟨p, mem, rfl⟩ := List.mem_map.1 known
    rw [logger?_unbind_of_mem (nodup_ids_unbind distinct) ((same u).symm ▸ mem), logger?_unbind_of_mem distinct mem,
      logger?_unbind_of_mem (nodup_ids_unbind distinct) ((same t).symm ▸ mem), logger?_unbind_of_mem distinct mem,
      Option.map_map, Option.map_map]
    refine congrArg (Option.map · _) (funext fun l => ?_)
    exact congrArg (fun ts => { l with targets := ts }) (TargetSet.remove_comm ..)
  · rw [logger?_unbind_of_not_mem ((same u).symm ▸ known), logger?_unbind_of_not_mem known,
      logger?_unbind_of_not_mem ((same t).symm ▸ known), logger?_unbind_of_not_mem known]

theorem unbind_comm (distinct : (s.registry.loggers.map (·.2)).Nodup) (t u : Target) :
    Shuffled ((s.unbind t).unbind u) ((s.unbind u).unbind t) := by
  by_cases same : t = u
  · subst same
    exact .refl _
  have bindings : ((s.unbind u).unbind t).registry.bindings = ((s.unbind t).unbind u).registry.bindings := by
    simp only [registry_unbind]
    exact List.filter_comm ..
  have only : OnlyBound s ((s.unbind t).unbind u) := (OnlyBound.unbind t s).trans (.unbind u _)
  have only' : OnlyBound s ((s.unbind u).unbind t) := (OnlyBound.unbind u s).trans (.unbind t _)
  rw [OnlyBound, bindings] at only'
  refine ⟨OnlyLoggers.eq_withJournal only only' fun i => logger?_unbind_comm distinct, ?_⟩
  calc ((s.unbind u).unbind t).journal
    List.Perm _ (s.unbinding t ++ (s.unbinding u ++ s.journal)) := journal_unbind_unbind distinct same
    List.Perm _ (s.unbinding u ++ (s.unbinding t ++ s.journal)) := List.perm_append_comm_assoc ..
    List.Perm _ ((s.unbind t).unbind u).journal := (journal_unbind_unbind distinct (Ne.symm same)).symm

theorem Shuffled.foldl_unbind {ps qs : List (String × Target)} (perm : ps.Perm qs)
    (distinct : (s.registry.loggers.map (·.2)).Nodup) :
    Shuffled (ps.foldl (fun s p => s.unbind p.2) s) (qs.foldl (fun s p => s.unbind p.2) s) := by
  induction perm generalizing s with
  | nil => exact .refl s
  | cons p _ ih => exact ih (by rwa [registry_unbind])
  | swap p q ps => exact (Quiet.foldl (fun p => .unbind p.2) ps).shuffled (unbind_comm distinct q.2 p.2)
  | trans _ _ first next => exact (first distinct).trans (next distinct)

theorem visit_withConfigured :
    (s.withConfigured ps).visit holds t order = (s.visit holds t order).withConfigured ps := by
  have step (stays : Bool) (id : LoggerId) (s : Router) :
      (s.withConfigured ps).place stays t id = (s.place stays t id).withConfigured ps := by
    have same : (s.withConfigured ps).logger? id = s.logger? id := rfl
    rw [place, place, addTarget, addTarget, removeTarget, removeTarget, same]
    split <;> split <;> (try split) <;> rfl
  induction order generalizing s with
  | nil => rfl
  | cons p order ih => exact (congrArg (Router.visit holds t order) (step _ _ s)).trans ih

theorem unbindVisiting_withConfigured :
    (s.withConfigured ps).unbindVisiting order t = (s.unbindVisiting order t).withConfigured ps := by
  let unbound := s.setRegistry fun r => { r with bindings := r.bindings.filter (!·.isFor t) }
  exact congrArg (Router.note (.targetUnbound t.name)) (visit_withConfigured (s := unbound))

theorem registry_unbindVisiting_loggers : (s.unbindVisiting order t).registry.loggers = s.registry.loggers :=
  congrArg (·.loggers) (OnlyLoggers.visit (fun _ => false) t order _).registry

theorem registry_bindVisiting_loggers :
    (s.bindVisiting order t categories).registry.loggers = s.registry.loggers :=
  congrArg (·.loggers) (OnlyLoggers.visit _ t order _).registry

theorem Dropped.shuffled (dropped : Dropped ps s s') (distinct : (s.registry.loggers.map (·.2)).Nodup)
    (running : s.configured = some s.configuredTargets) :
    Shuffled (ps.foldl (fun s p => s.unbind p.2)
      (s.withConfigured (s.configuredTargets.filter (·.1 ∉ ps.map (·.1))))) s' := by
  induction dropped with
  | nil s =>
    have all : s.configuredTargets.filter (·.1 ∉ ([] : List (String × Target)).map (·.1)) = s.configuredTargets :=
      List.filter_eq_self.2 fun _ _ => rfl
    rw [all, withConfigured, ← running]
    exact .refl s
  | @cons ps s' s order p perm _ ih =>
    let left := s.configuredTargets.filter (·.1 ∉ (p :: ps).map (·.1))
    let r := (s.withConfigured (s.configuredTargets.filter (·.1 ≠ p.1))).unbindVisiting order p.2
    have configured : r.configured = some (s.configuredTargets.filter (·.1 ≠ p.1)) :=
      (OnlyLoggers.visit (fun _ => false) p.2 order _).configured
    have names : r.configuredTargets = s.configuredTargets.filter (·.1 ≠ p.1) := by
      rw [configuredTargets, configured, Option.getD_some]
    have first : r.withConfigured (r.configuredTargets.filter (·.1 ∉ ps.map (·.1))) =
        (s.withConfigured left).unbindVisiting order p.2 := by
      have rest : r.configuredTargets.filter (·.1 ∉ ps.map (·.1)) = left := by
        rw [names, List.filter_filter]
        refine List.filter_congr fun q _ => ?_
        simp only [List.map_cons, List.mem_cons]
        grind
      have same : r = (s.unbindVisiting order p.2).withConfigured _ := unbindVisiting_withConfigured
      rw [rest, unbindVisiting_withConfigured, same]
      rfl
    have later : Shuffled _ s' := ih (by rwa [registry_unbindVisiting_loggers]) (by rw [names, configured])
    rw [first] at later
    have now : Shuffled ((s.withConfigured left).unbind p.2) ((s.withConfigured left).unbindVisiting order p.2) :=
      .unbind perm distinct
    exact ((Quiet.foldl (fun p => .unbind p.2) ps).shuffled now).trans later

theorem Dropped.shuffled_dropTargets (dropped : Dropped ps s s') (distinct : (s.registry.loggers.map (·.2)).Nodup)
    (running : s.configured = some s.configuredTargets)
    (perm : ps.Perm (s.configuredTargets.filter (·.1 ∉ wanted))) : Shuffled (s.dropTargets wanted) s' := by
  have names : s.configuredTargets.filter (·.1 ∉ ps.map (·.1)) = s.configuredTargets.filter (·.1 ∈ wanted) := by
    refine List.filter_congr fun p mem => ?_
    rw [decide_eq_decide, (perm.map _).mem_iff]
    constructor
    · intro kept
      by_contra unwanted
      exact kept (List.mem_map_of_mem (List.mem_filter.2 ⟨mem, decide_eq_true unwanted⟩))
    · intro asked stale
      obtain ⟨q, stale, same⟩ := List.mem_map.1 stale
      exact of_decide_eq_true (List.mem_filter.1 stale).2 (same ▸ asked)
  have whole := dropped.shuffled distinct running
  rw [names] at whole
  exact (Shuffled.foldl_unbind (s := s.withConfigured _) perm.symm distinct).trans whole

theorem Configured.shuffled (configured : Configured ts s s') (distinct : (s.registry.loggers.map (·.2)).Nodup) :
    Shuffled (ts.foldl (fun s t => s.configureTarget t) s) s' := by
  induction configured with
  | nil s => exact .refl s
  | @cons ts s' s order settings perm _ ih =>
    have loggers : (s.prepared settings).registry.loggers = s.registry.loggers := by rw [registry_prepared]
    have first : Shuffled (s.configureTarget settings)
        ((s.prepared settings).bindVisiting order (s.chosen settings.name) settings.categories) := by
      rw [configureTarget_eq]
      exact .bind (loggers ▸ perm) (by rwa [loggers])
    have later := ih (by rwa [registry_bindVisiting_loggers, loggers])
    exact ((Quiet.foldl Quiet.configureTarget ts).shuffled first).trans later

theorem exists_dropped (ps : List (String × Target)) (s : Router) : ∃ s', Dropped ps s s' := by
  induction ps generalizing s with
  | nil => exact ⟨s, .nil s⟩
  | cons p ps ih =>
    obtain ⟨s', later⟩ := ih _
    exact ⟨s', .cons (.refl _) later⟩

theorem exists_configured (ts : List TargetSettings) (s : Router) : ∃ s', Configured ts s s' := by
  induction ts generalizing s with
  | nil => exact ⟨s, .nil s⟩
  | cons settings ts ih =>
    obtain ⟨s', later⟩ := ih _
    exact ⟨s', .cons (.refl _) later⟩

theorem Applied.shuffled (applied : Applied c s s') (distinct : (s.registry.loggers.map (·.2)).Nodup)
    (running : s.configured = some s.configuredTargets) : Shuffled (s.configure c) s' := by
  obtain ⟨stale, r, perm, dropped, configured⟩ := applied
  have names : (s.setRegistryLevel c.level).configuredTargets = s.configuredTargets :=
    configuredTargets_setRegistryLevel
  have pruned : Shuffled (s.pruned c) r := by
    refine dropped.shuffled_dropTargets (by rwa [registry_setRegistryLevel]) ?_ (by rwa [names])
    rw [names, configured_setRegistryLevel, running]
  have each : Quiet fun s => c.targets.foldl (fun s t => s.configureTarget t) s :=
    .foldl Quiet.configureTarget c.targets
  have loggers : r.registry.loggers = s.registry.loggers := by rw [pruned.registry, keys_pruned]
  rw [configure_eq]
  exact (each.shuffled pruned).trans (configured.shuffled (by rwa [loggers]))

/-- Neither the order in which loggers are visited when a target is bound or unbound, nor the one in which targets are
dropped, leaves a trace in the state. -/
theorem visits_leave_no_trace (s : Router) (arises : s.Arises) :
    (∀ order, order.Perm s.registry.loggers → ∀ t,
      (∀ categories, Shuffled (s.bind t categories) (s.bindVisiting order t categories)) ∧
        Shuffled (s.unbind t) (s.unbindVisiting order t)) ∧
    (∀ t u, Shuffled ((s.unbind t).unbind u) ((s.unbind u).unbind t)) ∧
    (∀ names, s.configured = some names → ∀ c, (∃ s', Applied c s s') ∧
      ∀ s', Applied c s s' → Shuffled (s.configure c) s') := by
  have distinct := arises.in_order.1.ids
  refine ⟨fun order perm t => ⟨fun categories => .bind perm distinct, .unbind perm distinct⟩, unbind_comm distinct,
    fun names configured c => ⟨?_, fun s' applied => applied.shuffled distinct ?_⟩⟩
  case refine_2 => rw [configuredTargets, configured, Option.getD_some]
  obtain ⟨r, dropped⟩ := exists_dropped (s.configuredTargets.filter (·.1 ∉ c.targets.map (·.name)))
    (s.setRegistryLevel c.level)
  obtain ⟨s', configured⟩ := exists_configured c.targets r
  exact ⟨s', _, r, .refl _, dropped, configured⟩

/-- Two targets are dropped, the latter first, and the loggers are visited backwards each time. It can be told from
the journal and from nothing else. -/
theorem visits_leave_no_trace_backwards :
    let before : Settings := { targets := [{ name := "a" }, { name := "b", categories := ["net"] }, { name := "d" }] }
    let s := [.start before, .lookup "net" "log", .lookup "db" "other"].foldl (fun s a => (s.run a).2) empty
    let d : TargetSettings := { name := "d", level := .warn, categories := ["db"] }
    let c : Settings := { level := .error, targets := [d] }
    let order := [("db", 1), ("net", 0)]
    let drop (s : Router) (p : String × Target) : Router :=
      (s.withConfigured (s.configuredTargets.filter (·.1 ≠ p.1))).unbindVisiting order p.2
    let r := drop (drop (s.setRegistryLevel c.level) ("b", ⟨1, "b"⟩)) ("a", ⟨0, "a"⟩)
    let s' := (r.prepared d).bindVisiting order ⟨2, "d"⟩ ["db"]
    s.Arises ∧ Applied c s s' ∧ Shuffled (s.configure c) s' ∧ s'.journal ≠ (s.configure c).journal ∧
    s'.targetsOf 0 = [] ∧ s'.targetsOf 1 = [⟨2, "d"⟩] := by
  intro before s d c order drop r s'
  obtain ⟨past, run⟩ := foldl_run_recorded [.start before, .lookup "net" "log", .lookup "db" "other"] empty
  have arises : s.Arises := run.arises .empty
  have chosen : r.chosen d.name = ⟨2, "d"⟩ := by decide +kernel
  have applied : Applied c s s' := by
    have backwards : order.Perm (s.setRegistryLevel c.level).registry.loggers := by decide +kernel
    have backwards' : order.Perm (drop (s.setRegistryLevel c.level) ("b", ⟨1, "b"⟩)).registry.loggers := by
      decide +kernel
    have backwards'' : order.Perm r.registry.loggers := by decide +kernel
    refine ⟨[("b", ⟨1, "b"⟩), ("a", ⟨0, "a"⟩)], r, by decide +kernel, .cons backwards (.cons backwards' (.nil r)),
      .cons backwards'' ?_⟩
    rw [chosen]
    exact .nil s'
  have running : s.configured = some s.configuredTargets := by decide +kernel
  exact ⟨arises, applied, ((visits_leave_no_trace s arises).2.2 _ running c).2 s' applied, by decide +kernel,
    by decide +kernel, by decide +kernel⟩

end Router
end LogRouting
