import LogRouting.Proofs.Registry.Order

namespace LogRouting.Router

def Operation.holds? : Operation → Option LoggerId
  | .rename id _ | .add id _ | .remove id _ => some id
  | _ => none

/-- A run of any operations but log calls, with a record of them: what targets did when they were called is among
the operations. Targets may change by themselves in between. -/
inductive Performed : List Operation → Router → Router → Prop
  | refl (s : Router) : Performed [] s s
  | silent : Performed ops s s' → SameRouting s' s'' → Performed ops s s''
  | step : Performed ops s s' → o.handler? = none → Performed (o :: ops) s (o.apply s')

/-- Identities that have been given out, and stand in the registry under no categories but these. -/
structure Reserved (categories : String → Prop) (id : LoggerId) (s : Router) : Prop where
  made : id < s.loggers.size
  under : ∀ key, (key, id) ∈ s.registry.loggers → categories key

structure SameListing (s s' : Router) : Prop where
  loggers : s'.registry.loggers = s.registry.loggers
  size : s'.loggers.size = s.loggers.size

variable {s s₀ s' s'' : Router} {o : Operation} {ops later : List Operation} {id i : LoggerId}
  {category key : String} {categories : String → Prop} {level : Level}

theorem Performed.preserves {P : Router → Prop} (run : Performed ops s s')
    (silent : ∀ s s', SameRouting s s' → P s → P s')
    (step : ∀ (o : Operation) s, o.handler? = none → P s → P (o.apply s)) (start : P s) : P s' := by
  induction run with
  | refl s => exact start
  | silent _ same ih => exact silent _ _ same (ih start)
  | step _ plain ih => exact step _ _ plain (ih start)

theorem Performed.trans (first : Performed ops s₀ s) (next : Performed later s s') :
    Performed (later ++ ops) s₀ s' := by
  induction next with
  | refl s => exact first
  | silent _ same ih => exact .silent (ih first) same
  | step _ plain ih => exact .step (ih first) plain

theorem Performed.dispatch {h : Handler} (nested : ∀ t e r, ∃ during, Performed during r (h t e r).2) (id : LoggerId)
    (call : Call) (s : Router) : ∃ during, Performed during s (s.dispatch h id call) := by
  refine dispatch_preserves (P := fun r => ∃ during, Performed during s r) ?_ ?_ ⟨[], .refl s⟩
  · rintro o r ⟨during, before⟩
    exact ⟨during, .silent before (.observe o r)⟩
  · rintro t e r ⟨during, before⟩
    obtain ⟨last, next⟩ := nested t e r
    exact ⟨last ++ during, before.trans next⟩

theorem Performed.foldr (ops : List Operation) (plain : ∀ o ∈ ops, o.handler? = none) (s : Router) :
    Performed ops s (ops.foldr Operation.apply s) := by
  induction ops with
  | nil => exact .refl s
  | cons o ops ih =>
    exact .step (ih fun o mem => plain o (List.mem_cons_of_mem _ mem)) (plain o List.mem_cons_self)

theorem Performed.in_order (run : Performed ops s s') (hs : s.Consistent ∧ s.Gated) : s'.Consistent ∧ s'.Gated :=
  run.preserves (P := fun s => s.Consistent ∧ s.Gated) (fun _ _ same hs => ⟨hs.1.silent same, hs.2.silent same⟩)
    (fun o _ plain hs => ⟨hs.1.apply o plain, hs.2.apply o plain hs.1⟩) hs

theorem SameListing.of_onlyLoggers (only : OnlyLoggers s s') : SameListing s s' :=
  ⟨congrArg (·.loggers) only.registry, only.size⟩

theorem Operation.listing (o : Operation) (plain : o.handler? = none) (s : Router) :
    (∃ category, o = .lookup category) ∨ (∃ category, o = .removeLogger category) ∨
      SameListing s (o.apply s) ∧ ∀ key ops, isKnown key (o :: ops) = isKnown key ops := by
  cases o with
  | lookup category => exact .inl ⟨category, rfl⟩
  | removeLogger category => exact .inr (.inl ⟨category, rfl⟩)
  | bind t categories =>
    refine .inr (.inr ⟨⟨?_, (OnlyLoggers.bind t categories s).size⟩, fun _ _ => rfl⟩)
    rw [Operation.apply, registry_bind]
  | unbind t =>
    refine .inr (.inr ⟨⟨?_, (OnlyLoggers.unbind t s).size⟩, fun _ _ => rfl⟩)
    rw [Operation.apply, registry_unbind]
  | setGate level =>
    refine .inr (.inr ⟨⟨congrArg (·.loggers) registry_setGate, ?_⟩, fun _ _ => rfl⟩)
    exact congrArg Array.size loggers_setGate
  | rename id label => exact .inr (.inr ⟨.of_onlyLoggers (.modifyLogger ..), fun _ _ => rfl⟩)
  | add id t => exact .inr (.inr ⟨.of_onlyLoggers (.addTarget ..), fun _ _ => rfl⟩)
  | remove id t => exact .inr (.inr ⟨.of_onlyLoggers (.removeTarget ..), fun _ _ => rfl⟩)
  | log h id call => cases plain

theorem registered?_congr (same : s'.registry.loggers = s.registry.loggers) :
    s'.registered? key = s.registered? key := by rw [registered?, same, registered?]

theorem isSome_registered?_apply (plain : o.handler? = none) (known : (s.registered? key).isSome = isKnown key ops) :
    ((o.apply s).registered? key).isSome = isKnown key (o :: ops) := by
  obtain ⟨category, rfl⟩ | ⟨category, rfl⟩ | ⟨same, forgets⟩ := o.listing plain s
  · by_cases here : category = key
    · rw [here, Operation.apply, registered?_lookup]
      simp [isKnown]
    · rw [Operation.apply, registered?_lookup_of_ne here, known]
      simp [isKnown, here]
  · rw [Operation.apply, registered?_removeLogger]
    by_cases here : category = key
    · simp [isKnown, here]
    · simp [isKnown, here, known]
  · rw [registered?_congr same.loggers, known, forgets]

theorem Performed.isSome_registered? (run : Performed ops s₀ s) (none : s₀.registry.loggers = []) :
    (s.registered? key).isSome = isKnown key ops := by
  induction run with
  | refl s => simp [registered?, none, isKnown]
  | silent _ same ih => rw [registered?_congr (congrArg (·.loggers) same.registry), ih none]
  | step _ plain ih => exact isSome_registered?_apply plain (ih none)

theorem isKnown_iff : isKnown key ops = true ↔
    ∃ since before, ops = since ++ .lookup key :: before ∧ Operation.removeLogger key ∉ since := by
  induction ops with
  | nil => simp [isKnown]
  | cons o ops ih =>
    constructor
    · intro known
      by_cases here : o = .lookup key
      · exact ⟨[], ops, by rw [here]; rfl, List.not_mem_nil⟩
      · have rest : isKnown key ops = true ∧ o ≠ .removeLogger key := by
          cases o <;> simp_all [isKnown]
        obtain ⟨since, before, whole, kept⟩ := ih.1 rest.1
        refine ⟨o :: since, before, by rw [whole]; rfl, ?_⟩
        rw [List.mem_cons, not_or]
        exact ⟨Ne.symm rest.2, kept⟩
    · rintro ⟨since, before, whole, kept⟩
      cases since with
      | nil =>
        cases whole
        simp [isKnown]
      | cons first since =>
        rw [List.cons_append, List.cons.injEq] at whole
        rw [List.mem_cons, not_or] at kept
        have rest := ih.2 ⟨since, before, whole.2, kept.2⟩
        have other : o ≠ .removeLogger key := fun same => kept.1 (same.symm.trans whole.1)
        cases o with
        | removeLogger category =>
          have other : category ≠ key := fun same => other (same ▸ rfl)
          simp [isKnown, rest, other]
        | _ => simp [isKnown, rest]

theorem mem_categories : key ∈ s.categories ↔ (s.registered? key).isSome = true := by
  rw [categories, List.mem_mergeSort, Option.isSome_iff_ne_none, Ne, registered?_eq_none, not_not]

theorem Consistent.sorted_categories (hs : s.Consistent) : s.categories.Pairwise (· < ·) := by
  have sorted : s.categories.Pairwise (· ≤ ·) := by
    have pairwise : s.categories.Pairwise fun a b => decide (a ≤ b) = true :=
      List.pairwise_mergeSort (by simpa using fun a b c => String.le_trans) (by simpa using String.le_total) _
    simpa using pairwise
  have distinct : s.categories.Nodup := (List.mergeSort_perm _ _).nodup_iff.2 hs.keys
  exact sorted.imp₂ (fun _ _ le ne => String.not_le.1 fun ge => ne (String.le_antisymm le ge)) distinct

theorem logger?_setRegistryLevel : (s.setRegistryLevel level).logger? i = s.logger? i := by
  rw [setRegistryLevel, logger?, loggers_setGate, logger?]

theorem Reserved.silent (h : Reserved categories id s) (same : SameRouting s s') : Reserved categories id s' :=
  ⟨by rw [same.loggers]; exact h.made, by rw [same.registry]; exact h.under⟩

theorem Reserved.apply (h : Reserved categories id s) (plain : o.handler? = none) :
    Reserved categories id (o.apply s) := by
  obtain ⟨category, rfl⟩ | ⟨category, rfl⟩ | ⟨same, -⟩ := o.listing plain s
  · cases known : s.registered? category with
    | some i => rwa [Operation.apply, lookup_of_some known]
    | none =>
      refine ⟨?_, fun key mem => ?_⟩
      · rw [Operation.apply, size_lookup_of_none known]
        exact Nat.lt_succ_of_lt h.made
      -- the new logger has an identity that is not given out yet
      · rw [Operation.apply, registry_lookup_of_none known, List.mem_append, List.mem_singleton] at mem
        rcases mem with mem | new
        · exact h.under key mem
        · exact absurd (congrArg Prod.snd new) h.made.ne
  · exact ⟨h.made, fun key mem => h.under key (List.mem_of_mem_filter mem)⟩
  · exact ⟨same.size ▸ h.made, same.loggers ▸ h.under⟩

theorem Performed.reserved (run : Performed ops s s') (h : Reserved categories id s) : Reserved categories id s' :=
  run.preserves (fun _ _ same h => h.silent same) (fun _ _ plain h => h.apply plain) h

theorem Reserved.lookup_ne (h : Reserved categories id s) (other : ¬ categories key) : (s.lookup key).1 ≠ id := by
  cases known : s.registered? key with
  | some i =>
    rw [lookup_of_some known]
    rintro rfl
    exact other (h.under key (mem_of_registered known))
  | none =>
    rw [lookup_of_none known]
    exact h.made.ne'

theorem Consistent.reserved (hs : s.Consistent) (known : s.registered? key = some id) : Reserved (· = key) id s := by
  have mem := mem_of_registered known
  refine ⟨hs.made _ mem, fun other mem' => ?_⟩
  exact congrArg Prod.fst (List.inj_on_of_nodup_map hs.ids mem' mem rfl)

theorem Reserved.removeLogger (h : Reserved (· = category) id s) :
    Reserved (fun _ => False) id (s.removeLogger category) := by
  refine ⟨h.made, fun key mem => ?_⟩
  have kept : key ≠ category := by simpa using (List.mem_filter.1 mem).2
  exact kept (h.under key (List.mem_of_mem_filter mem))

theorem Performed.registered? (run : Performed ops s s') (hs : s.Consistent) (known : s.registered? key = some id) :
    (.removeLogger key ∉ ops → s'.registered? key = some id) ∧
      (.removeLogger key ∈ ops → Reserved (fun _ => False) id s') := by
  induction run with
  | refl s => exact ⟨fun _ => known, fun removed => absurd removed List.not_mem_nil⟩
  | silent _ same ih =>
    obtain ⟨kept, gone⟩ := ih hs known
    refine ⟨fun none => ?_, fun removed => (gone removed).silent same⟩
    rw [registered?_congr (congrArg (·.loggers) same.registry), kept none]
  | @step ops s s' o run plain ih =>
    obtain ⟨kept, gone⟩ := ih hs known
    refine ⟨fun none => ?_, fun removed => ?_⟩
    · rw [List.mem_cons, not_or] at none
      have before := kept none.2
      obtain ⟨category, rfl⟩ | ⟨category, rfl⟩ | ⟨same, -⟩ := o.listing plain s'
      · by_cases here : category = key
        · rw [here, Operation.apply, lookup_of_some before, before]
        · rw [Operation.apply, registered?_lookup_of_ne here, before]
      · have here : category ≠ key := fun here => none.1 (here ▸ rfl)
        rw [Operation.apply, registered?_removeLogger, if_neg here, before]
      · rw [registered?_congr same.loggers, before]
    · rcases List.mem_cons.1 removed with now | before
      · subst now
        exact (run.reserved (hs.reserved known)).removeLogger
      · exact (gone before).apply plain

theorem Reserved.not_mem (h : Reserved (fun _ => False) id s) : id ∉ s.registry.loggers.map (·.2) := by
  intro mem
  obtain ⟨p, entry, rfl⟩ := List.mem_map.1 mem
  exact h.under p.1 entry

theorem Reserved.logger?_apply (h : Reserved (fun _ => False) id s) (hs : s.Consistent) (plain : o.handler? = none)
    (indirect : o.holds? ≠ some id) : (o.apply s).logger? id = s.logger? id := by
  cases o with
  | lookup category =>
    cases known : s.registered? category with
    | some i => rw [Operation.apply, lookup_of_some known]
    | none => rw [Operation.apply, logger?_lookup_of_none known hs.bound, if_neg h.made.ne]
  | removeLogger category => rfl
  | bind t categories => exact logger?_bind_of_not_mem h.not_mem
  | unbind t => exact logger?_unbind_of_not_mem h.not_mem
  | setGate level => exact logger?_setRegistryLevel
  | rename i label => exact logger?_rename.trans (if_neg fun same => indirect (congrArg some same))
  | add i t => exact logger?_addTarget.trans (if_neg fun same => indirect (congrArg some same))
  | remove i t => exact logger?_removeTarget.trans (if_neg fun same => indirect (congrArg some same))
  | log h id call => cases plain

theorem Performed.logger?_of_reserved (run : Performed ops s s') (hs : s.Consistent ∧ s.Gated)
    (h : Reserved (fun _ => False) id s) (indirect : ∀ o ∈ ops, o.holds? ≠ some id) :
    s'.logger? id = s.logger? id := by
  induction run with
  | refl s => rfl
  | silent _ same ih => rw [logger?, same.loggers, ← logger?, ih hs h indirect]
  | step run plain ih =>
    have before := ih hs h fun o mem => indirect o (List.mem_cons_of_mem _ mem)
    rw [(run.reserved h).logger?_apply (run.in_order hs).1 plain (indirect _ List.mem_cons_self), before]

theorem Operation.keeps_context (o : Operation) (plain : o.handler? = none) (hs : s.Consistent) :
    (o.apply s).registry.gate = s.registry.gate ∧
      ∀ id < s.loggers.size, ((o.apply s).logger? id).map (·.context) = (s.logger? id).map (·.context) := by
  cases o with
  | lookup category =>
    cases known : s.registered? category with
    | some i => rw [Operation.apply, lookup_of_some known]; exact ⟨rfl, fun _ _ => rfl⟩
    | none =>
      refine ⟨by rw [Operation.apply, registry_lookup_of_none known], fun id made => ?_⟩
      rw [Operation.apply, logger?_lookup_of_none known hs.bound, if_neg made.ne]
  | removeLogger category => exact ⟨rfl, fun _ _ => rfl⟩
  | bind t categories =>
    exact ⟨by rw [Operation.apply, registry_bind], fun id _ => (Evolves.bind t categories hs.ids).context id⟩
  | unbind t => exact ⟨by rw [Operation.apply, registry_unbind], fun id _ => (Evolves.unbind t hs.ids).context id⟩
  | setGate level => exact ⟨congrArg (·.gate) registry_setGate, fun _ _ => congrArg _ logger?_setRegistryLevel⟩
  | rename id label => exact ⟨rfl, fun i _ => (Evolves.rename id label s).context i⟩
  | add id t =>
    exact ⟨congrArg (·.gate) (OnlyLoggers.addTarget id t s).registry, fun i _ => (Evolves.addTarget id t s).context i⟩
  | remove id t =>
    exact ⟨congrArg (·.gate) (OnlyLoggers.removeTarget id t s).registry,
      fun i _ => (Evolves.removeTarget id t s).context i⟩
  | log h id call => cases plain

theorem Performed.keeps_context (run : Performed ops s s') (hs : s.Consistent ∧ s.Gated)
    (h : Reserved categories id s) :
    s'.registry.gate = s.registry.gate ∧ (s'.logger? id).map (·.context) = (s.logger? id).map (·.context) := by
  induction run with
  | refl s => exact ⟨rfl, rfl⟩
  | silent _ same ih =>
    obtain ⟨gate, context⟩ := ih hs h
    exact ⟨by rw [same.registry, gate], by rw [logger?, same.loggers, ← logger?, context]⟩
  | step run plain ih =>
    obtain ⟨gate, context⟩ := ih hs h
    obtain ⟨gate', context'⟩ := Operation.keeps_context _ plain (run.in_order hs).1
    exact ⟨gate'.trans gate, (context' id (run.reserved h).made).trans context⟩

theorem Performed.behind_gate (run : Performed ops s s') (hs : s.Consistent ∧ s.Gated)
    (known : s.registered? key = some id) :
    ∃ l, s'.logger? id = some l ∧ l.context.gate = .shared s'.registry.gate := by
  have mem := mem_of_registered known
  obtain ⟨gate, context⟩ := run.keeps_context hs (hs.1.reserved known)
  obtain ⟨l, found⟩ := Option.isSome_iff_exists.1 (logger?_isSome.2 (hs.1.made _ mem))
  have found' : (s'.logger? id).map (·.context) = some l.context := by rw [context, found, Option.map_some]
  obtain ⟨l', found', same⟩ := Option.map_eq_some_iff.1 found'
  exact ⟨l', found', by rw [same, gate]; exact hs.2.loggers _ mem l found⟩

theorem Performed.sees_gate (run : Performed ops s s') (hs : s.Consistent ∧ s.Gated)
    (known : s.registered? key = some id) : ∃ l, s'.logger? id = some l ∧ ∀ level,
      (s'.setRegistryLevel level).logger? id = some l ∧
        (s'.setRegistryLevel level).gateLevel l.context.gate = level := by
  obtain ⟨l, found, gate⟩ := run.behind_gate hs known
  refine ⟨l, found, fun level => ⟨logger?_setRegistryLevel.trans found, ?_⟩⟩
  rw [gate]
  exact gateLevel_setGate (run.in_order hs).2.index

theorem Unrolled.performed (run : Unrolled ops s s') : Performed ops s s' := by
  obtain ⟨run, plain⟩ := run
  induction run with
  | refl s => exact .refl s
  | silent _ same ih => exact .silent (ih plain) same
  | step _ _ ih => exact .step (ih fun o mem => plain o (List.mem_cons_of_mem _ mem)) (plain _ List.mem_cons_self)

/-- A category has one logger from the moment in which it is asked for until its logger is removed, and no other
category or later time has it, whatever its name. A removed logger is changed only by those who hold it. -/
theorem loggers_keep_identity (s₀ s : Router) (arises : s₀.Arises) (start : Level) (renderer : Renderer)
    (reporter : Reporter) (ops : List Operation) (run : Performed ops (s₀.newRegistry start renderer reporter) s)
    (category : String) :
    (∀ later s' category', Performed later (s.lookup category).2 s' →
      ((s'.lookup category').1 = (s.lookup category).1 ↔
        category' = category ∧ Operation.removeLogger category ∉ later)) ∧
    (s.categories.Pairwise (· < ·) ∧ ∀ key, key ∈ s.categories ↔
      ∃ since before, ops = since ++ .lookup key :: before ∧ Operation.removeLogger key ∉ since) ∧
    (∀ id, s.registered? category = some id → ∀ later s', Performed later (s.removeLogger category) s' →
      (∀ more s'', Performed more s' s'' → (∀ o ∈ more, o.holds? ≠ some id) → s''.logger? id = s'.logger? id) ∧
      ∃ l, s'.logger? id = some l ∧ ∀ level,
        let r := s'.setRegistryLevel level
        r.logger? id = some l ∧ r.gateLevel l.context.gate = level ∧ ∀ h call,
          (call.verified = true → call.level < level → r.dispatch h id call = r ∧ r.invocations h id call = []) ∧
          (level ≤ call.level → (r.isIdle l call = true ↔ l.targets.members = [])) ∧
          r.IsTrace h id call (r.invocations h id call)) ∧
    (∀ (r : Router) c, Performed (r.reconfiguration c) r (r.configure c)) ∧
    (∀ h, (∀ t e r, ∃ during, Performed during r (h t e r).2) →
      ∀ (r : Router) id call, ∃ during, Performed during r (r.dispatch h id call)) := by
  have start : (s₀.newRegistry start renderer reporter).Consistent ∧ (s₀.newRegistry start renderer reporter).Gated :=
    ⟨arises.in_order.1.newRegistry start renderer reporter, .newRegistry start renderer reporter s₀⟩
  have hs := run.in_order start
  refine ⟨fun later s' category' next => ?_, ⟨hs.1.sorted_categories, fun key => ?_⟩,
    fun id known later s' next => ⟨fun more s'' last indirect => ?_, ?_⟩, fun r c => ?_,
    fun h nested r id call => Performed.dispatch nested id call r⟩
  · have looked : (s.lookup category).2.Consistent := hs.1.lookup
    have known : (s.lookup category).2.registered? category = some (s.lookup category).1 := registered?_lookup
    by_cases same : category' = category
    · obtain ⟨kept, gone⟩ := next.registered? looked known
      rw [same, and_iff_right rfl]
      by_cases removed : .removeLogger category ∈ later
      · exact iff_of_false ((gone removed).lookup_ne not_false) (not_not.2 removed)
      · exact iff_of_true (by rw [lookup_of_some (kept removed)]) removed
    · exact iff_of_false ((next.reserved (looked.reserved known)).lookup_ne same) fun both => same both.1
  · rw [mem_categories, run.isSome_registered? rfl, isKnown_iff]
  · have gone := next.reserved (hs.1.reserved known).removeLogger
    exact last.logger?_of_reserved (next.in_order ⟨hs.1.removeLogger, hs.2.apply (.removeLogger category) rfl hs.1⟩)
      gone indirect
  · have whole : Performed (later ++ [.removeLogger category]) s s' := .trans (.step (.refl s) rfl) next
    obtain ⟨l, found, sees⟩ := whole.sees_gate hs known
    refine ⟨l, found, fun level => ?_⟩
    intro r
    obtain ⟨found', gate⟩ := sees level
    refine ⟨found', gate, fun h call => ⟨fun verified below => ?_, fun above => ?_, isTrace_invocations⟩⟩
    · have idle : r.isIdle l call = true := isIdle_iff.2 (.inr ⟨verified, gate ▸ below⟩)
      exact ⟨dispatch_of_idle found' idle, invocations_of_idle found' idle⟩
    · rw [isIdle_iff, gate]
      exact or_iff_left fun low => Level.not_lt.2 above low.2
  · have unrolled := (⟨.refl r, nofun⟩ : Unrolled [] r r).configure c
    rw [List.append_nil] at unrolled
    exact unrolled.performed

/-- A logger takes the name of another one's category, and then that one is removed and made anew. Its holder still
has the one that was removed, with the targets it had, and hears no more of it once the gate is raised. -/
theorem loggers_keep_identity_renamed :
    let a : Target := ⟨0, "a"⟩
    let b : Target := ⟨1, "b"⟩
    let ops := [.rename 1 "net", .lookup "db", .lookup "net", .bind a []]
    let s := ops.foldr Operation.apply (empty.newRegistry .all {} .noting)
    let removed := s.removeLogger "net"
    let s' := [.unbind a, .bind b ["net"], .lookup "net"].foldr Operation.apply removed
    let again := (s.lookup "net").2.lookup "db"
    s.categoryOf 0 = s.categoryOf 1 ∧ again.1 ≠ (s.lookup "net").1 ∧ "db" ∈ s.categories ∧
    (s'.lookup "net").1 = 2 ∧ s'.targetsOf 2 = [b] ∧ s'.logger? 0 = removed.logger? 0 ∧ s'.targetsOf 0 = [a] ∧
    ∀ h, (s'.setRegistryLevel .error).invocations h 0 ⟨.info, "up", {}, true⟩ = [] := by
  intro a b ops s removed s' again
  have run : Performed ops (empty.newRegistry .all {} .noting) s := .foldr ops (by simp [ops, Operation.handler?]) _
  obtain ⟨same, ⟨-, listed⟩, detached, -⟩ := loggers_keep_identity empty s .empty .all {} .noting ops run "net"
  have next : Performed [.unbind a, .bind b ["net"], .lookup "net"] removed s' :=
    .foldr _ (by simp [Operation.handler?]) _
  obtain ⟨kept, -⟩ := detached 0 (by decide +kernel) [] removed (.refl _)
  have left : s'.logger? 0 = removed.logger? 0 := kept _ s' next (by simp [Operation.holds?])
  obtain ⟨-, l, -, gated⟩ := detached 0 (by decide +kernel) _ s' next
  have asked : "db" ∈ s.categories := (listed "db").2 ⟨[.rename 1 "net"], [.lookup "net", .bind a []], rfl, by simp⟩
  have other : again.1 ≠ (s.lookup "net").1 := fun shared =>
    absurd ((same [] (s.lookup "net").2 "db" (.refl _)).1 shared).1 (by decide)
  have unheard (h : Handler) : (s'.setRegistryLevel .error).invocations h 0 ⟨.info, "up", {}, true⟩ = [] :=
    (((gated .error).2.2 h _).1 rfl (by decide)).2
  exact ⟨by decide +kernel, other, asked, by decide +kernel, by decide +kernel, left, by decide +kernel, unheard⟩

end LogRouting.Router
