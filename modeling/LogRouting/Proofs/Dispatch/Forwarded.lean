import LogRouting.Proofs.Dispatch.Forwarding
import LogRouting.Proofs.Notices

namespace LogRouting

def Observation.forwarded? : Observation → Option Event
  | .noted (.forwarded e) => some e
  | _ => none

namespace Router

def forwarded (s : Router) : List Event := s.journal.reverse.filterMap Observation.forwarded?

variable {s s' : Router} {id : LoggerId} {l : Logger} {call : Call} {t : Target} {e : Event} {reporter : Reporter}
  {verified : Bool} {c : Settings} {category : String}

theorem forwarded_observe {o : Observation} : (s.observe o).forwarded = s.forwarded ++ o.forwarded?.toList := by
  rw [forwarded, observe, List.reverse_cons, List.filterMap_append, forwarded]
  cases handed : o.forwarded? <;> simp [handed]

theorem Notes.forwarded (notes : Notes s s') : s'.forwarded = s.forwarded := by
  obtain ⟨ns, own, journal⟩ := notes
  have none : (ns.map Observation.noted).reverse.filterMap Observation.forwarded? = [] := by
    refine List.filterMap_eq_nil_iff.2 fun o mem => ?_
    obtain ⟨n, listed, rfl⟩ := List.mem_map.1 (List.mem_reverse.1 mem)
    cases n with
    | forwarded e => cases own _ listed
    | _ => rfl
  rw [Router.forwarded, journal, List.reverse_append, List.filterMap_append, none, List.append_nil]
  rfl

theorem forwarded_begun : (s.begun l call).forwarded = s.forwarded := by
  have rendered : ((l.renderings call).foldl (fun s r => s.observe (.rendered r)) s).forwarded = s.forwarded := by
    refine List.foldlRecOn (motive := fun s' : Router => s'.forwarded = s.forwarded) _ _ rfl fun s' same r _ => ?_
    rw [forwarded_observe, same]
    exact List.append_nil _
  rw [begun, count, forwarded_observe, rendered]
  exact List.append_nil _

theorem deliver_forward (made : (s.target? t).isSome) : s.deliver forward reporter e t = s.note (.forwarded e) := by
  rw [deliver, forward, if_pos made]
  rfl

theorem forwarded_turns (ts : List Target) (s : Router)
    (made : ∀ i ∈ invocationsFrom forward reporter verified e ts s, (s.target? i.target).isSome) :
    (ts.foldl (turn forward reporter verified e) s).forwarded =
      s.forwarded ++ List.replicate (invocationsFrom forward reporter verified e ts s).length e := by
  induction ts generalizing s with
  | nil => exact (List.append_nil _).symm
  | cons t ts ih =>
    rw [invocationsFrom] at made ⊢
    rw [List.foldl_cons]
    by_cases admitted : s.admits verified e t = true
    · rw [if_pos admitted] at made ⊢
      have handed : s.turn forward reporter verified e t = s.note (.forwarded e) := by
        rw [turn_of_admits admitted, deliver_forward (made _ List.mem_cons_self)]
      rw [handed] at made ⊢
      rw [ih (s.note (.forwarded e)) fun i mem => made i (List.mem_cons_of_mem _ mem), note, forwarded_observe,
        List.length_cons, List.replicate_succ, List.append_assoc]
      rfl
    · rw [if_neg admitted] at made ⊢
      rw [turn_of_not_admits admitted] at made ⊢
      exact ih s made

theorem forwarded_dispatch (found : s.logger? id = some l)
    (made : ∀ i ∈ s.invocations forward id call, (s.target? i.target).isSome) :
    (s.dispatch forward id call).forwarded =
      s.forwarded ++ List.replicate (s.invocations forward id call).length (l.event call) := by
  by_cases idle : s.isIdle l call = true
  · rw [dispatch_of_idle found idle, invocations_of_idle found idle]
    exact (List.append_nil _).symm
  · have same : (s.begun l call).targets = s.targets :=
      begun_preserves (P := fun r => r.targets = s.targets) (fun _ _ same => same) rfl
    rw [invocations_of_busy found idle] at made ⊢
    rw [dispatch_of_busy found idle, forwarded_turns _ _ fun i mem => by rw [target?, same]; exact made i mem,
      forwarded_begun]

theorem Follows.forwarded_log (h : s.Follows c) (distinct : (c.targets.map (·.name)).Nodup)
    (known : s.registered? category = some id) (found : s.logger? id = some l) (verified : call.verified = true) :
    (s.log id call).forwarded =
      s.forwarded ++ List.replicate (c.reached category call.level).length (l.event call) := by
  obtain ⟨dispatched, called⟩ : s.dispatch (handler s.weight) id call = s.dispatch forward id call ∧
      s.invocations (handler s.weight) id call = s.invocations forward id call := h.managed.dispatch_eq s.weight
  have count := (h.invocations_perm distinct known verified s.weight).length_eq
  rw [List.length_map, called] at count
  rw [Router.log, dispatched, forwarded_dispatch found, count]
  intro i mem
  rw [← called] at mem
  have made := h.managed.enrolled.made_of_targetFor (h.configured_of_invoked known verified _ mem)
  rw [target?, Array.getElem?_eq_getElem made]
  rfl

end Router
end LogRouting
