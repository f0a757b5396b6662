import LogRouting.Proofs.Registry.Effects
import LogRouting.Router.Configuration

namespace LogRouting

def Notice.isOwn : Notice → Bool
  | .forwarded _ | .deliveryFailed .. => false
  | _ => true

namespace Router

/-- Nothing but notices of an operation's own has come to the journal. -/
def Notes (s s' : Router) : Prop :=
  ∃ ns : List Notice, (∀ n ∈ ns, n.isOwn = true) ∧ s'.journal = ns.map .noted ++ s.journal

namespace Notes

variable {s s' s'' : Router} {n : Notice}

theorem of_journal (same : s'.journal = s.journal) : Notes s s' := ⟨[], nofun, same⟩

theorem refl (s : Router) : Notes s s := of_journal rfl

theorem trans (h : Notes s s') (h' : Notes s' s'') : Notes s s'' := by
  obtain ⟨ns, own, journal⟩ := h
  obtain ⟨ns', own', journal'⟩ := h'
  refine ⟨ns' ++ ns, fun n mem => (List.mem_append.1 mem).elim (own' n) (own n), ?_⟩
  rw [journal', journal, List.map_append, List.append_assoc]

theorem note (h : Notes s s') (own : n.isOwn = true) : Notes s (s'.note n) :=
  h.trans ⟨[n], by simpa using own, rfl⟩

theorem foldl {α : Type} {f : Router → α → Router} (h : Notes s s') (each : ∀ s x, Notes s (f s x))
    (xs : List α) : Notes s (xs.foldl f s') := by
  induction xs generalizing s' with
  | nil => exact h
  | cons x xs ih => exact ih (h.trans (each s' x))

theorem addTarget (id : LoggerId) (t : Target) (s : Router) : Notes s (s.addTarget id t) := by
  rw [Router.addTarget]
  split
  · exact refl s
  · split
    · exact note (of_journal rfl) rfl
    · exact refl s

theorem removeTarget (id : LoggerId) (t : Target) (s : Router) : Notes s (s.removeTarget id t) := by
  rw [Router.removeTarget]
  split
  · exact refl s
  · split
    · exact note (of_journal rfl) rfl
    · exact refl s

theorem setGate (index : Nat) (level : Level) (s : Router) : Notes s (s.setGate index level) := by
  simp only [Router.setGate]
  split
  · exact of_journal rfl
  · exact note (of_journal rfl) rfl

theorem bind (t : Target) (categories : List String) (s : Router) : Notes s (s.bind t categories) := by
  refine note (foldl (of_journal rfl) (fun s p => ?_) _) rfl
  dsimp only
  split
  · exact addTarget p.2 t s
  · exact removeTarget p.2 t s

theorem unbind (t : Target) (s : Router) : Notes s (s.unbind t) :=
  note (foldl (of_journal rfl) (fun s (p : String × LoggerId) => removeTarget p.2 t s) _) rfl

theorem lookup (category : String) (s : Router) : Notes s (s.lookup category).2 := by
  cases known : s.registered? category with
  | some id => rw [lookup_of_some known]; exact refl s
  | none =>
    rw [lookup_of_none known]
    have furnished : Notes s (s.furnish category) :=
      foldl (of_journal rfl) (fun s' (b : Binding) => addTarget s.loggers.size b.target s') _
    exact furnished.note rfl

theorem dropTargets (wanted : List String) (s : Router) : Notes s (s.dropTargets wanted) :=
  foldl (of_journal rfl) (fun s (p : String × Target) => unbind p.2 s) _

theorem configuredTarget (name : String) (level : Level) (s : Router) :
    Notes s (s.configuredTarget name level).2 := by
  rw [Router.configuredTarget]
  split
  · exact refl s
  · exact of_journal rfl

theorem configureTarget (settings : TargetSettings) (s : Router) : Notes s (s.configureTarget settings) :=
  ((configuredTarget settings.name settings.level s).trans (of_journal rfl)).trans (bind _ _ (setLevel _ _ _))

theorem configure (c : Settings) (s : Router) : Notes s (s.configure c) := by
  have gated : Notes s (s.setRegistryLevel c.level) := setGate s.registry.gate c.level s
  exact foldl (gated.trans (dropTargets _ _)) (fun s t => configureTarget t s) c.targets

theorem start (c : Settings) (s : Router) : Notes s (s.start c) := by
  let made := s.newRegistry c.level ⟨c.printer.maxLen, false⟩ .tracing
  have began : Notes s { made with configured := some [] } := of_journal rfl
  exact (began.trans (configure c _)).note rfl

end Notes
end Router
end LogRouting
