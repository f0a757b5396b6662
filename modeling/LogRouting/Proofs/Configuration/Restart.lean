import LogRouting.Proofs.Dispatch.Forwarding
import LogRouting.Proofs.Settings.Validation

namespace LogRouting.Router

inductive Request
  | offer (document : String)
  | lookup (category : String)
  | removeLogger (category : String)
  | log (logger : LoggerId) (call : Call)

namespace Request

def apply : Request → Router → Router
  | .offer document, s =>
    match Settings.read document with
    | .ok c => s.configure c
    | .error _ => s
  | .lookup category, s => (s.lookup category).2
  | .removeLogger category, s => s.removeLogger category
  | .log id call, s => s.log id call

def accepted? : Request → Option Settings
  | .offer document => (Settings.read document).toOption
  | _ => none

end Request

def serve (requests : List Request) (s : Router) : Router := requests.foldl (fun s r => r.apply s) s

def accepted (requests : List Request) : List Settings := requests.filterMap Request.accepted?

def lastAccepted (initial : Settings) (requests : List Request) : Settings :=
  (accepted requests).getLastD initial

/-- Targets of this name, if there are any, have been made after so many others. -/
structure Renewed (name : String) (n : Nat) (s : Router) : Prop where
  size : n ≤ s.targets.size
  later : ∀ t, s.targetFor name = some t → n ≤ t.serial

variable {s : Router} {t : Target} {c next : Settings} {r : Request} {requests : List Request} {name : String}
  {n : Nat}

theorem Request.apply_cases (h : s.Follows c) (r : Request) :
    (∃ next, r.accepted? = some next ∧ next.defects = [] ∧ r.apply s = s.configure next) ∨
    (r.accepted? = none ∧ (r.apply s).Follows c ∧ (r.apply s).targets = s.targets ∧
      (r.apply s).configured = s.configured) := by
  cases r with
  | offer document =>
    cases read : Settings.read document with
    | ok next =>
      refine .inl ⟨next, ?_, (Settings.read_eq_ok read).2, ?_⟩
      · rw [Request.accepted?, read]; rfl
      · rw [Request.apply, read]
    | error e =>
      have same : (Request.offer document).apply s = s := by rw [Request.apply, read]
      refine .inr ⟨?_, ?_⟩
      · rw [Request.accepted?, read]; rfl
      · rw [same]; exact ⟨h, rfl, rfl⟩
  | lookup category => exact .inr ⟨rfl, h.lookup category, targets_lookup, configured_lookup⟩
  | removeLogger category => exact .inr ⟨rfl, h.removeLogger category, rfl, rfl⟩
  | log id call =>
    refine .inr ⟨rfl, h.log id call, ?_⟩
    rw [Request.apply, h.managed.log_eq]
    exact ⟨rfl, rfl⟩

theorem Follows.apply (h : s.Follows c) (r : Request) : (r.apply s).Follows (r.accepted?.getD c) := by
  rcases r.apply_cases h with ⟨next, accepted, valid, eq⟩ | ⟨passed, kept, -⟩
  · rw [eq, accepted]
    exact h.managed.follows_configure (Settings.nodup_names valid)
  · rw [passed]
    exact kept

theorem Follows.serve (h : s.Follows c) (requests : List Request) :
    (serve requests s).Follows (lastAccepted c requests) := by
  induction requests generalizing s c with
  | nil => exact h
  | cons r requests ih =>
    have rest := ih (h.apply r)
    rw [lastAccepted, accepted, List.filterMap_cons]
    cases first : r.accepted? with
    | none => rw [first] at rest; exact rest
    | some next => rw [first] at rest; rwa [List.getLastD_cons]

theorem valid_lastAccepted (valid : c.defects = []) (requests : List Request) :
    (lastAccepted c requests).defects = [] := by
  refine Settings.defects_getLastD valid fun next mem => ?_
  obtain ⟨r, -, accepted⟩ := List.mem_filterMap.1 mem
  cases r with
  | offer document =>
    cases read : Settings.read document with
    | ok settings =>
      rw [Request.accepted?, read] at accepted
      cases accepted
      exact (Settings.read_eq_ok read).2
    | error e => rw [Request.accepted?, read] at accepted; cases accepted
  | _ => cases accepted

theorem targetFor_congr {s' : Router} (configured : s'.configured = s.configured) :
    s'.targetFor name = s.targetFor name := by
  rw [targetFor, configuredTargets, configured, targetFor, configuredTargets]

theorem targetFor_serve (h : s.Follows c) (known : s.targetFor name = some t)
    (wanted : ∀ next ∈ accepted requests, name ∈ next.targets.map (·.name)) :
    (serve requests s).targetFor name = some t := by
  induction requests generalizing s c with
  | nil => exact known
  | cons r requests ih =>
    rw [accepted, List.filterMap_cons] at wanted
    have first : (r.apply s).targetFor name = some t := by
      rcases r.apply_cases h with ⟨next, accepted, -, eq⟩ | ⟨-, -, -, same⟩
      · rw [accepted] at wanted
        rw [eq]
        exact targetFor_configure_of_some known (wanted next List.mem_cons_self)
      · rw [targetFor_congr same, known]
    refine ih (h.apply r) first ?_
    split at wanted
    · exact wanted
    · exact fun next mem => wanted next (List.mem_cons_of_mem _ mem)

theorem size_configure : s.targets.size ≤ (s.configure next).targets.size := by
  have begun : ((s.setRegistryLevel next.level).dropTargets (next.targets.map (·.name))).targets.size =
      s.targets.size := by rw [targets_dropTargets, targets_setRegistryLevel]
  refine List.foldlRecOn (motive := fun s' : Router => s.targets.size ≤ s'.targets.size) _ _ begun.ge ?_
  exact fun _ size _ _ => size.trans size_configureTarget

theorem Renewed.configure (h : s.Follows c) (distinct : (next.targets.map (·.name)).Nodup)
    (new : Renewed name n s) : Renewed name n (s.configure next) where
  size := new.size.trans size_configure
  later := by
    intro t given
    have follows : (s.configure next).Follows next := h.managed.follows_configure distinct
    have wanted := (follows.names name).1 (Option.isSome_of_eq_some given)
    cases before : s.targetFor name with
    | some u =>
      rw [targetFor_configure_of_some before wanted] at given
      exact Option.some.inj given ▸ new.later u before
    | none => exact new.size.trans (targetFor_configure_of_none before given)

theorem Renewed.apply (h : s.Follows c) (new : Renewed name n s) (r : Request) :
    Renewed name n (r.apply s) := by
  rcases r.apply_cases h with ⟨next, -, valid, eq⟩ | ⟨-, -, targets, configured⟩
  · rw [eq]
    exact new.configure h (Settings.nodup_names valid)
  · constructor
    · rw [targets]; exact new.size
    · intro t given
      exact new.later t ((targetFor_congr configured).symm.trans given)

theorem Renewed.serve (h : s.Follows c) (new : Renewed name n s) (requests : List Request) :
    Renewed name n (serve requests s) := by
  induction requests generalizing s c with
  | nil => exact new
  | cons r requests ih => exact ih (h.apply r) (new.apply h r)

theorem renewed_of_absent (h : s.Follows c) (size : n ≤ s.targets.size) (mem : next ∈ accepted requests)
    (absent : name ∉ next.targets.map (·.name)) : Renewed name n (serve requests s) := by
  induction requests generalizing s c with
  | nil => cases mem
  | cons r requests ih =>
    rw [accepted, List.filterMap_cons] at mem
    rcases r.apply_cases h with ⟨first, accepted, valid, eq⟩ | ⟨passed, -, targets, -⟩
    · rw [accepted, List.mem_cons] at mem
      have size' : n ≤ (r.apply s).targets.size := by rw [eq]; exact size.trans size_configure
      rcases mem with rfl | later
      · have follows := h.managed.follows_configure (Settings.nodup_names valid)
        rw [← eq] at follows
        refine Renewed.serve (h.apply r) ⟨size', fun t given => ?_⟩ requests
        exact absurd ((follows.names name).1 (Option.isSome_of_eq_some given)) absent
      · exact ih (h.apply r) size' later
    · rw [passed] at mem
      exact ih (h.apply r) (targets ▸ size) mem

theorem target?_eq_none : s.target? t = none ↔ s.targets.size ≤ t.serial := by
  rw [target?, Array.getElem?_eq_none_iff]

theorem Follows.target?_ne_none (h : s.Follows c) (known : s.targetFor name = some t) : s.target? t ≠ none :=
  fun none => (h.managed.enrolled.made_of_targetFor known).not_ge (target?_eq_none.1 none)

theorem targetFor_serve_cases (h : s.Follows c) (given : (serve requests s).targetFor name = some t) :
    (s.targetFor name = some t ∧ ∀ next ∈ accepted requests, name ∈ next.targets.map (·.name)) ∨
      s.target? t = none := by
  by_cases wanted : ∀ next ∈ accepted requests, name ∈ next.targets.map (·.name)
  · cases before : s.targetFor name with
    | some u =>
      rw [targetFor_serve h before wanted] at given
      exact .inl ⟨given, wanted⟩
    | none =>
      have new : Renewed name s.targets.size s := ⟨Nat.le_refl _, by simp [before]⟩
      exact .inr (target?_eq_none.2 ((new.serve h requests).later t given))
  · push Not at wanted
    obtain ⟨next, mem, absent⟩ := wanted
    have new := renewed_of_absent h (Nat.le_refl _) mem absent
    exact .inr (target?_eq_none.2 (new.later t given))

/-- After any requests a router routes as one that has just started under the settings accepted last. A name keeps its
target if and only if all settings accepted since have it. -/
theorem serve_equals_restart (initial : Settings) (valid : initial.defects = []) (before after : List Request) :
    let earlier := serve before (empty.start initial)
    let now := serve after earlier
    let current := lastAccepted initial (before ++ after)
    let restarted := empty.start current
    now.registryLevel = restarted.registryLevel ∧
    now.configuredNames = restarted.configuredNames ∧
    (∀ name, (now.targetFor name).map now.levelOf = (restarted.targetFor name).map restarted.levelOf) ∧
    (∀ category,
      let (id, s) := now.lookup category
      let (id', s') := restarted.lookup category
      (s.targetNames id).Perm (s'.targetNames id') ∧
      ∀ depth depth' call, call.verified = true →
        let called := s.invocations (handler depth) id call
        let called' := s'.invocations (handler depth') id' call
        (called.map fun i => i.target.name).Perm (called'.map fun i => i.target.name) ∧
          s.IsTrace (handler depth) id call called ∧ s'.IsTrace (handler depth') id' call called') ∧
    (∀ document e, Settings.read document = .error e → (Request.offer document).apply now = now) ∧
    (∀ name t, earlier.targetFor name = some t → earlier.target? t ≠ none ∧
      (now.targetFor name = some t ↔ ∀ next ∈ accepted after, name ∈ next.targets.map (·.name))) ∧
    (∀ name t, now.targetFor name = some t → earlier.targetFor name = some t ∨ earlier.target? t = none) := by
  intro earlier now current restarted
  have blank : SameRouting empty empty := ⟨rfl, rfl, rfl⟩
  have began : (empty.start initial).Follows initial := follows_start blank rfl (Settings.nodup_names valid)
  have distinct : (current.targets.map (·.name)).Nodup := Settings.nodup_names (valid_lastAccepted valid _)
  have before' : earlier.Follows (lastAccepted initial before) := began.serve before
  have follows : now.Follows current := by
    have whole : now = serve (before ++ after) (empty.start initial) := (List.foldl_append ..).symm
    rw [whole]
    exact began.serve _
  have fresh : restarted.Follows current := follows_start blank rfl distinct
  refine ⟨follows.level.trans fresh.level.symm, fresh.configuredNames_eq follows, fun name => ?_,
    fun category => ⟨?_, fun depth depth' call verified => ?_⟩, fun document e refused => ?_,
    fun name t known => ⟨before'.target?_ne_none known, fun given => ?_, targetFor_serve before' known⟩,
    fun name t given => ?_⟩
  · rw [follows.levels, fresh.levels]
  · exact ((follows.lookup category).targetNames_perm distinct registered?_lookup).trans
      ((fresh.lookup category).targetNames_perm distinct registered?_lookup).symm
  · have called := (follows.lookup category).invocations_perm distinct registered?_lookup verified depth
    have called' := (fresh.lookup category).invocations_perm distinct registered?_lookup verified depth'
    exact ⟨called.trans called'.symm, isTrace_invocations, isTrace_invocations⟩
  · rw [Request.apply, refused]
  · rcases targetFor_serve_cases before' given with ⟨-, wanted⟩ | new
    · exact wanted
    · exact absurd new (before'.target?_ne_none known)
  · exact (targetFor_serve_cases before' given).imp_left And.left

/-- A target is dropped and its name comes back; a document in between is no document at all. -/
theorem serve_equals_restart_renewed :
    let before : List Request := [.lookup "net", .offer "[[targets]]\nname = \"stdout\"\nlevel = \"warn\""]
    let after : List Request := [.log 0 ⟨.error, "up", {}, true⟩, .offer "targets = []", .offer "level = ",
      .removeLogger "net", .offer "level = \"error\""]
    let earlier := serve before (empty.start {})
    let now := serve after earlier
    ({} : Settings).defects = [] ∧
    now.registryLevel = (empty.start { level := .error }).registryLevel ∧
    earlier.targetFor "stdout" = some ⟨0, "stdout"⟩ ∧ now.targetFor "stdout" ≠ some ⟨0, "stdout"⟩ := by
  intro before after earlier now
  have last : lastAccepted {} (before ++ after) = { level := .error } := by decide +kernel
  have without : { targets := [] } ∈ accepted after := by decide +kernel
  have known : earlier.targetFor "stdout" = some ⟨0, "stdout"⟩ := by decide +kernel
  obtain ⟨level, -, -, -, -, kept, -⟩ := serve_equals_restart {} (by decide) before after
  refine ⟨by decide, last ▸ level, known, fun same => ?_⟩
  exact List.not_mem_nil (((kept "stdout" _ known).2.1 same) _ without)

end LogRouting.Router
