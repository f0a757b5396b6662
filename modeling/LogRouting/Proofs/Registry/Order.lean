import LogRouting.Proofs.Arising

/-!
The order in which loggers deliver. A logger keeps its targets in the order in which they came to it, the bindings
are in the order in which they were made last, and a new logger takes its targets from the bindings. The two
orders differ in the targets that were bound anew while the logger held them, and in no others.
-/

namespace LogRouting.Router

def bound (key : String) (s : Router) : List Target :=
  (s.registry.bindings.filter (·.covers key)).map (·.target)

def isKnown (key : String) : List Operation → Bool
  | [] => false
  | .lookup category :: past => category = key || isKnown key past
  | .removeLogger category :: past => category ≠ key && isKnown key past
  | _ :: past => isKnown key past

def isBound (key : String) (t : Target) (ops : List Operation) : Bool :=
  (lastBinding t ops).any fun categories => (⟨t, categories⟩ : Binding).covers key

/-- Whether a target was bound to a category anew while the logger of the category held it, and has not left the
logger since. -/
def isRenewed (key : String) (t : Target) : List Operation → Bool
  | [] => false
  | .bind u categories :: past =>
    if u = t then (⟨u, categories⟩ : Binding).covers key && isKnown key past && isBound key t past
    else isRenewed key t past
  | .unbind u :: past => u ≠ t && isRenewed key t past
  | .removeLogger category :: past => category ≠ key && isRenewed key t past
  | _ :: past => isRenewed key t past

/-- A run of operations without log calls: what targets did when they were called is among the operations. -/
structure Unrolled (ops : List Operation) (s s' : Router) : Prop where
  run : Ran ops s s'
  plain : ∀ o ∈ ops, o.handler? = none

variable {s s₀ s' : Router} {t u : Target} {categories : List String} {category key : String} {id : LoggerId}
  {ops : List Operation} {o : Operation} {level : Level} {renderer : Renderer} {reporter : Reporter}

theorem targetsOf_bind (hs : s.Consistent) (mem : (key, id) ∈ s.registry.loggers) :
    (s.bind t categories).targetsOf id =
      if (⟨t, categories⟩ : Binding).covers key then
        if t ∈ s.targetsOf id then s.targetsOf id else s.targetsOf id ++ [t]
      else (s.targetsOf id).filter (· ≠ t) := by
  obtain ⟨l, found⟩ := Option.isSome_iff_exists.1 (logger?_isSome.2 (hs.made _ mem))
  have settled : (s.bind t categories).logger? id = (s.logger? id).map (Binding.settle ⟨t, categories⟩ key) :=
    logger?_bind_of_mem hs.ids mem
  rw [found, Option.map_some] at settled
  rw [targetsOf_eq settled, targetsOf_eq found, Binding.members_settle]

theorem map_target_filter_others (bs : List Binding) :
    ((bs.filter (!·.isFor t)).filter (·.covers key)).map (·.target) =
      ((bs.filter (·.covers key)).map (·.target)).filter (· ≠ t) := by
  rw [List.filter_map, List.filter_filter, List.filter_filter]
  refine congrArg _ (List.filter_congr fun b _ => ?_)
  simp [Binding.isFor, Bool.and_comm]

theorem bound_bind : (s.bind t categories).bound key =
    (s.bound key).filter (· ≠ t) ++ if (⟨t, categories⟩ : Binding).covers key then [t] else [] := by
  rw [bound, registry_bind, List.filter_append, List.map_append, map_target_filter_others, bound,
    List.filter_singleton]
  cases (⟨t, categories⟩ : Binding).covers key <;> rfl

theorem bound_unbind : (s.unbind t).bound key = (s.bound key).filter (· ≠ t) := by
  rw [bound, registry_unbind, map_target_filter_others, bound]

theorem bound_congr {s' : Router} (same : s'.registry.bindings = s.registry.bindings) :
    s'.bound key = s.bound key := by rw [bound, same, bound]

theorem mem_bound : t ∈ s.bound key ↔ s.routes t key = true := by
  rw [routes_iff, bound, List.mem_map]
  refine exists_congr fun b => ?_
  rw [List.mem_filter, and_assoc]
  exact and_congr_right fun _ => and_comm

theorem Consistent.nodup_bound (hs : s.Consistent) : (s.bound key).Nodup :=
  hs.bound.sublist (List.filter_sublist.map _)

theorem Recalls.isBound_eq {start : Level} (h : Recalls start ops s) : isBound key t ops = s.routes t key := by
  rw [Bool.eq_iff_iff, h.routes, isBound, Option.any_eq_true]
  simp [Binding.covers]

theorem filter_others {p q : Target → Bool} (agree : ∀ u, u ≠ t → p u = q u) (ts : List Target) :
    (ts.filter (· ≠ t)).filter p = (ts.filter q).filter (· ≠ t) := by
  rw [List.filter_filter, List.filter_filter]
  refine List.filter_congr fun u _ => ?_
  by_cases same : u = t
  · simp [same]
  · simp [same, agree u same]

theorem filter_of_not {p : Target → Bool} (not : p t = false) (ts : List Target) :
    (ts.filter (· ≠ t)).filter p = ts.filter p := by
  rw [List.filter_filter]
  refine List.filter_congr fun u _ => ?_
  by_cases same : u = t
  · simp [same, not]
  · simp [same]

structure Aligned (key : String) (ops : List Operation) (s : Router) : Prop where
  known : (s.registered? key).isSome = isKnown key ops
  order : ∀ id, s.registered? key = some id →
    (s.targetsOf id).filter (!isRenewed key · ops) = (s.bound key).filter (!isRenewed key · ops)

theorem Aligned.of_same {s' : Router} {ops' : List Operation} (h : Aligned key ops s)
    (known : isKnown key ops' = isKnown key ops) (renewed : ∀ t, isRenewed key t ops' = isRenewed key t ops)
    (registry : s'.registered? key = s.registered? key) (bindings : s'.bound key = s.bound key)
    (held : ∀ id, s.registered? key = some id → s'.targetsOf id = s.targetsOf id) : Aligned key ops' s' where
  known := by rw [registry, known, h.known]
  order id registered := by
    rw [registry] at registered
    simp only [renewed]
    rw [held id registered, bindings]
    exact h.order id registered

theorem Aligned.bind {start : Level} (hs : s.Settled) (recalls : Recalls start ops s) (h : Aligned key ops s) :
    Aligned key (.bind t categories :: ops) (s.bind t categories) where
  known := by
    rw [registered?, registry_bind]
    exact h.known
  order id registered := by
    rw [registered?, registry_bind] at registered
    have known : s.registered? key = some id := registered
    have mem := mem_of_registered known
    have held_iff : t ∈ s.targetsOf id ↔ isBound key t ops = true := by
      rw [recalls.isBound_eq]
      exact hs.agrees t _ mem
    have agree (u : Target) (ne : u ≠ t) :
        (!isRenewed key u (.bind t categories :: ops)) = !isRenewed key u ops := by
      rw [isRenewed, if_neg (Ne.symm ne)]
    have others := (filter_others agree (s.targetsOf id)).trans
      ((congrArg _ (h.order id known)).trans (filter_others agree (s.bound key)).symm)
    rw [targetsOf_bind hs.consistent mem, bound_bind]
    by_cases covers : (⟨t, categories⟩ : Binding).covers key = true
    · rw [if_pos covers, if_pos covers]
      have renewed : isRenewed key t (.bind t categories :: ops) = isBound key t ops := by
        rw [isRenewed, if_pos rfl, covers, ← h.known, known]
        simp
      by_cases held : t ∈ s.targetsOf id
      -- the target stays where it is in the logger, and is now the last to be bound
      · have anew : (!isRenewed key t (.bind t categories :: ops)) = false := by
          rw [renewed, held_iff.1 held]
          rfl
        rw [if_pos held, List.filter_append, ← others, filter_of_not anew, List.filter_singleton, anew]
        exact (List.append_nil _).symm
      · have new : isRenewed key t (.bind t categories :: ops) = false :=
          renewed.trans (by simpa using mt held_iff.2 held)
        have without : (s.targetsOf id).filter (· ≠ t) = s.targetsOf id := by
          refine List.filter_eq_self.2 fun u mem => ?_
          simpa using fun same : u = t => held (same ▸ mem)
        rw [if_neg held, List.filter_append, List.filter_append, ← others, without]
    · rw [if_neg covers, if_neg covers, List.append_nil]
      exact others

theorem Aligned.unbind (hs : s.Consistent) (h : Aligned key ops s) :
    Aligned key (.unbind t :: ops) (s.unbind t) where
  known := by
    rw [registered?, registry_unbind]
    exact h.known
  order id registered := by
    rw [registered?, registry_unbind] at registered
    have agree (u : Target) (ne : u ≠ t) : (!isRenewed key u (.unbind t :: ops)) = !isRenewed key u ops := by
      simp [isRenewed, Ne.symm ne]
    rw [targetsOf_unbind hs.ids (mem_of_registered registered), bound_unbind, filter_others agree, filter_others agree,
      h.order id registered]

theorem registered?_lookup_of_ne (ne : category ≠ key) :
    (s.lookup category).2.registered? key = s.registered? key := by
  cases known : s.registered? category with
  | some id => rw [lookup_of_some known]
  | none =>
    rw [registered?, registry_lookup_of_none known, List.lookup_append]
    have other : [(category, s.loggers.size)].lookup key = none := by simp [List.lookup_eq_none_iff, Ne.symm ne]
    rw [other, Option.or_none, registered?]

theorem bound_lookup : (s.lookup category).2.bound key = s.bound key := by
  cases known : s.registered? category with
  | some id => rw [lookup_of_some known]
  | none => exact bound_congr (by rw [registry_lookup_of_none known])

theorem Aligned.lookup (hs : s.Consistent) (h : Aligned key ops s) :
    Aligned key (.lookup category :: ops) (s.lookup category).2 := by
  cases known : s.registered? category with
  | some id =>
    rw [lookup_of_some known]
    refine h.of_same ?_ (fun _ => rfl) rfl rfl fun _ _ => rfl
    by_cases same : category = key
    · rw [isKnown, ← h.known, ← same, known]
      simp
    · simp [isKnown, same]
  | none =>
    by_cases same : category = key
    -- a new logger has been filled in the order of the bindings
    · subst same
      refine ⟨?_, fun id registered => ?_⟩
      · rw [registered?_lookup]
        simp [isKnown]
      · rw [registered?_lookup, lookup_of_none known] at registered
        cases registered
        rw [targetsOf_lookup_of_none hs known, if_pos rfl, bound_lookup, bound]
    · refine h.of_same ?_ (fun _ => rfl) (registered?_lookup_of_ne same) bound_lookup fun id registered => ?_
      · simp [isKnown, same]
      · rw [targetsOf_lookup_of_none hs known, if_neg (hs.made _ (mem_of_registered registered)).ne]

theorem registered?_removeLogger :
    (s.removeLogger category).registered? key = if category = key then none else s.registered? key := by
  refine (lookup_filter_fst (fun name => name ≠ category) s.registry.loggers).trans ?_
  by_cases same : category = key
  · simp [same]
  · simp [same, Ne.symm same, registered?]

theorem Aligned.removeLogger (h : Aligned key ops s) :
    Aligned key (.removeLogger category :: ops) (s.removeLogger category) := by
  by_cases same : category = key
  · have gone : (s.removeLogger category).registered? key = none := by rw [registered?_removeLogger, if_pos same]
    refine ⟨?_, fun id registered => ?_⟩
    · rw [gone]
      simp [isKnown, same]
    · rw [gone] at registered
      cases registered
  · refine h.of_same ?_ (fun t => ?_) ?_ rfl fun _ _ => rfl
    · simp [isKnown, same]
    · simp [isRenewed, same]
    · rw [registered?_removeLogger, if_neg same]

theorem Aligned.silent (h : Aligned key ops s) (same : SameRouting s s') : Aligned key ops s' := by
  refine h.of_same rfl (fun _ => rfl) ?_ (bound_congr (by rw [same.registry])) fun id _ => targetsOf_congr ?_
  · rw [registered?, same.registry, registered?]
  · rw [logger?, same.loggers, logger?]

theorem Ran.aligned {start : Level} (run : Ran ops s₀ s) (plain : ∀ o ∈ ops, o.handler? = none)
    (hs : s₀.Settled) (recalls : Recalls start [] s₀) (none : s₀.registry.loggers = []) : Aligned key ops s := by
  induction run with
  | refl s =>
    have unknown : s.registered? key = Option.none := by simp [registered?, none]
    exact ⟨by simp [unknown, isKnown], by simp [unknown]⟩
  | silent _ same ih => exact (ih plain hs recalls none).silent same
  | @step ops _ s o run restrained ih =>
    have h := ih (fun o mem => plain o (List.mem_cons_of_mem _ mem)) hs recalls none
    have settled := run.settled hs
    cases o with
    | lookup category => exact h.lookup settled.consistent
    | removeLogger category => exact h.removeLogger
    | bind t categories => exact h.bind settled (run.recalls hs recalls)
    | unbind t => exact h.unbind settled.consistent
    | setGate level =>
      refine h.of_same rfl (fun _ => rfl) ?_ (bound_congr ?_) fun id _ => targetsOf_congr ?_
      · rw [registered?, Operation.apply, registry_setRegistryLevel, registered?]
      · rw [Operation.apply, registry_setRegistryLevel]
      · rw [Operation.apply, logger?, setRegistryLevel, loggers_setGate, logger?]
    | rename id label => exact h.of_same rfl (fun _ => rfl) rfl rfl fun _ _ => targetsOf_rename
    | add id t => cases restrained.1
    | remove id t => cases restrained.1
    | log h id call => cases plain _ List.mem_cons_self

theorem Unrolled.trans {later : List Operation} (first : Unrolled ops s₀ s) (next : Unrolled later s s') :
    Unrolled (later ++ ops) s₀ s' := by
  obtain ⟨run, plain⟩ := first
  obtain ⟨run', plain'⟩ := next
  refine ⟨?_, fun o mem => (List.mem_append.1 mem).elim (plain' o) (plain o)⟩
  clear plain plain'
  induction run' with
  | refl s => exact run
  | silent _ same ih => exact .silent (ih run) same
  | step _ restrained ih => exact .step (ih run) restrained

theorem Unrolled.dispatch {h : Handler} (run : Unrolled ops s₀ s)
    (nested : ∀ t e r, ∃ later, Unrolled later r (h t e r).2) (id : LoggerId) (call : Call) :
    ∃ later, Unrolled (later ++ ops) s₀ (s.dispatch h id call) := by
  refine dispatch_preserves (P := fun r => ∃ later, Unrolled (later ++ ops) s₀ r) ?_ ?_ ⟨[], run⟩
  · rintro o r ⟨later, before⟩
    exact ⟨later, .silent before.run (.observe o r), before.plain⟩
  · rintro t e r ⟨later, before⟩
    obtain ⟨last, during⟩ := nested t e r
    exact ⟨last ++ later, List.append_assoc .. ▸ before.trans during⟩

theorem plain_reconfiguration (c : Settings) (s : Router) : ∀ o ∈ s.reconfiguration c, o.handler? = none := by
  have rebound (ts : List TargetSettings) (s : Router) : ∀ o ∈ rebindings ts s, o.handler? = none := by
    induction ts generalizing s with
    | nil => exact nofun
    | cons t ts ih =>
      intro o mem
      rcases List.mem_append.1 mem with later | last
      · exact ih _ o later
      · rw [List.mem_singleton.1 last]
        rfl
  intro o mem
  rcases List.mem_append.1 mem with mem | last
  · rcases List.mem_append.1 mem with bound | dropped
    · exact rebound _ _ o bound
    · obtain ⟨p, -, rfl⟩ := List.mem_map.1 (List.mem_reverse.1 dropped)
      rfl
  · rw [List.mem_singleton.1 last]
    rfl

theorem Unrolled.configure (run : Unrolled ops s₀ s) (c : Settings) :
    Unrolled (s.reconfiguration c ++ ops) s₀ (s.configure c) :=
  ⟨run.run.configure c, fun o mem => (List.mem_append.1 mem).elim (plain_reconfiguration c s o) (run.plain o)⟩

theorem Unrolled.start (c : Settings) (s : Router) : Unrolled ((s.cleared c).reconfiguration c)
    (s.newRegistry c.level ⟨c.printer.maxLen, false⟩ .tracing) (s.start c) := by
  have began : Unrolled [] (s.newRegistry c.level ⟨c.printer.maxLen, false⟩ .tracing) (s.cleared c) :=
    ⟨.silent (.refl _) ⟨rfl, rfl, rfl⟩, nofun⟩
  obtain ⟨run, plain⟩ := began.configure c
  rw [List.append_nil] at run plain
  exact ⟨.silent run (.observe _ _), plain⟩

theorem called_sublist {h : Handler} {verified : Bool} {e : Event} (ts : List Target) (s : Router) :
    ((invocationsFrom h reporter verified e ts s).map (·.target)).Sublist ts := by
  induction ts generalizing s with
  | nil => exact .slnil
  | cons t ts ih =>
    rw [invocationsFrom]
    split
    · exact (ih _).cons_cons t
    · exact (ih _).cons t

theorem targets_invocations_sublist {h : Handler} {call : Call} :
    ((s.invocations h id call).map (·.target)).Sublist (s.targetsOf id) := by
  rw [invocations]
  cases found : s.logger? id with
  | none => exact List.nil_sublist _
  | some l =>
    rw [targetsOf_eq found]
    dsimp only
    split
    · exact List.nil_sublist _
    · exact called_sublist _ _

theorem targets_invocations_of_forced {h : Handler} {call : Call} (forced : call.verified = false) :
    (s.invocations h id call).map (·.target) = s.targetsOf id := by
  cases found : s.logger? id with
  | none => simp [invocations_of_none found, targetsOf, found]
  | some l =>
    have admitted (r : Router) (t : Target) : r.admits call.verified (l.event call) t = true := by
      rw [admits, forced]
      rfl
    rw [targets_invocations found fun i _ t _ => by rw [admitted, admitted], if_pos (.inl forced),
      targetsOf_eq found]
    exact List.filter_eq_self.2 fun t _ => admitted s t

theorem targetsOf_new (hs : s.Consistent) :
    ((s.removeLogger key).lookup key).2.targetsOf ((s.removeLogger key).lookup key).1 = s.bound key := by
  have unknown : (s.removeLogger key).registered? key = none := by rw [registered?_removeLogger, if_pos rfl]
  exact targetsOf_lookup_new unknown hs.bound

/-- A logger holds what one made for its category in this moment would hold, in the order of the bindings but for the
targets that were bound anew while it held them. Those keep their place in the logger and are last of the bindings. -/
theorem order_agrees_but_for_renewed (s₀ s : Router) (arises : s₀.Arises) (level : Level) (renderer : Renderer)
    (reporter : Reporter) (ops : List Operation) (run : Unrolled ops (s₀.newRegistry level renderer reporter) s)
    (key : String) (id : LoggerId) (known : s.registered? key = some id) :
    let held := s.targetsOf id
    let made := (s.removeLogger key).lookup key
    made.2.targetsOf made.1 = s.bound key ∧ held.Perm (s.bound key) ∧
    held.filter (!isRenewed key · ops) = (s.bound key).filter (!isRenewed key · ops) ∧
    ((∀ t ∈ held, isRenewed key t ops = false) → held = s.bound key) ∧
    (∀ t ∈ held, ∀ categories, (⟨t, categories⟩ : Binding).covers key = true →
      (s.bind t categories).targetsOf id = held ∧
        (s.bind t categories).bound key = (s.bound key).filter (· ≠ t) ++ [t]) ∧
    (∀ (r : Router) id h call, ((r.invocations h id call).map (·.target)).Sublist (r.targetsOf id) ∧
      (call.verified = false → (r.invocations h id call).map (·.target) = r.targetsOf id) ∧
      r.IsTrace h id call (r.invocations h id call)) ∧
    (∀ c, Unrolled ((s₀.cleared c).reconfiguration c)
      (s₀.newRegistry c.level ⟨c.printer.maxLen, false⟩ .tracing) (s₀.start c)) ∧
    (∀ c, Unrolled (s.reconfiguration c ++ ops) (s₀.newRegistry level renderer reporter) (s.configure c)) ∧
    (∀ h id call, (∀ t e r, ∃ later, Unrolled later r (h t e r).2) →
      ∃ later, Unrolled (later ++ ops) (s₀.newRegistry level renderer reporter) (s.dispatch h id call)) := by
  intro held made
  have settled₀ : (s₀.newRegistry level renderer reporter).Settled :=
    ⟨arises.in_order.1.newRegistry level renderer reporter, fun _ => nofun, .newRegistry level renderer reporter s₀⟩
  have settled := run.run.settled settled₀
  have mem := mem_of_registered known
  have aligned : Aligned key ops s := run.run.aligned run.plain settled₀ (.newRegistry level renderer reporter s₀) rfl
  have order := aligned.order id known
  have perm : held.Perm (s.bound key) := by
    rw [List.perm_ext_iff_of_nodup settled.consistent.nodup_targetsOf settled.consistent.nodup_bound]
    exact fun t => (settled.agrees t _ mem).trans mem_bound.symm
  refine ⟨targetsOf_new settled.consistent, perm, order, fun none => ?_, fun t held' categories covers => ⟨?_, ?_⟩,
    fun r id h call => ⟨targets_invocations_sublist, targets_invocations_of_forced, isTrace_invocations⟩,
    fun c => .start c s₀, run.configure, fun h id call nested => run.dispatch nested id call⟩
  · have all : held.filter (!isRenewed key · ops) = held := List.filter_eq_self.2 fun t mem => by rw [none t mem]; rfl
    have all' : (s.bound key).filter (!isRenewed key · ops) = s.bound key :=
      List.filter_eq_self.2 fun t mem => by rw [none t (perm.mem_iff.2 mem)]; rfl
    rw [← all, order, all']
  · rw [targetsOf_bind settled.consistent mem, if_pos covers, if_pos held']
  · rw [bound_bind, if_pos covers]

/-- A target is bound anew, which moves it behind the other one in the bindings; the logger that is made after
that has them in this order. -/
theorem order_agrees_when_remade :
    let a : Target := ⟨0, "a"⟩
    let b : Target := ⟨1, "b"⟩
    let ops := [.lookup "net", .removeLogger "net", .bind a [], .bind b ["net"], .lookup "net", .bind a ["net"]]
    let s := ops.foldr Operation.apply (empty.newRegistry .all {} .noting)
    s.registered? "net" = some 1 ∧ s.targetsOf 1 = s.bound "net" ∧ s.targetsOf 1 = [b, a] ∧
    s.targetsOf 0 = [a, b] := by
  intro a b ops s
  have run : Unrolled ops (empty.newRegistry .all {} .noting) s := by
    refine ⟨.foldr ops ?_ _, by simp [ops, Operation.handler?]⟩
    simp [ops, Operation.Restrained, Operation.direct?, Operation.handler?]
  have known : s.registered? "net" = some 1 := by decide
  have same := (order_agrees_but_for_renewed empty s .empty .all {} .noting ops run "net" 1 known).2.2.2.1
  exact ⟨known, same (by decide), by decide, by decide⟩

/-- A target is bound anew, on a registry and by settings with the same targets in another order. The logger that
was there delivers in the old order, a new one in the new order. -/
theorem order_differs_when_rebound :
    let a : Target := ⟨0, "a"⟩
    let b : Target := ⟨1, "b"⟩
    let made (s : Router) : List Target :=
      ((s.removeLogger "net").lookup "net").2.targetsOf ((s.removeLogger "net").lookup "net").1
    let bound := [.bind a [], .lookup "net", .bind b [], .bind a []].foldr Operation.apply
      (empty.newRegistry .all {} .noting)
    let settings (names : List String) : Settings := { targets := names.map fun name => ⟨name, .all, []⟩ }
    let applied := ((empty.start (settings ["a", "b"])).lookup "net").2.configure (settings ["b", "a"])
    bound.targetsOf 0 = [a, b] ∧ made bound = [b, a] ∧
    applied.targetsOf 0 = [a, b] ∧ made applied = [b, a] ∧
    (bound.invocations (handler 0) 0 ⟨.warn, "up", {}, false⟩).map (·.target) = [a, b] := by
  decide +kernel

end LogRouting.Router
