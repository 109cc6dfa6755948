import Inclusion.Proofs.Monitor.Run

/-!
# What is kept for a registration

As long as a registration is neither completed nor removed it stays pending, whatever is registered
and removed besides. Its hash stays watched meanwhile, so that the poller recorded for it is the
same one throughout, and nobody asks for its stopwatch to be stopped.
-/

namespace Inclusion.Monitor

variable {Watcher : Type} {start final monitor : Monitor Watcher} {entries : List (Entry Watcher)}
  {now id : Nat} {event : Event Watcher} {turn : Turn Watcher} {bundle : Hash}
  {registration : Registration Watcher}

/-- The poller recorded for a watched hash stays recorded. The one that retires is that of another
hash, and the one that ends has been recorded no longer. -/
theorem Move.recorded (sound : monitor.Sound) (move : Move now monitor event turn)
    (watched : monitor.isWatching bundle = true) (known : (bundle, id) ∈ monitor.records) :
    (bundle, id) ∈ turn.1.records := by
  cases move with
  | register =>
    unfold Monitor.register
    split
    · exact known
    · exact List.mem_append_left _ known
  | @cancelRegistration other number =>
    exact (trimmed_cancelRegistration monitor other number).frame.1 ▸ known
  | @cancelPolling other => exact (trimmed_cancelPolling monitor other).frame.1 ▸ known
  | @notifyConfirmed other => exact (trimmed_complete monitor other).frame.1 ▸ known
  | @confirmed poller => exact (trimmed_complete monitor poller.bundle).frame.1 ▸ known
  | @retired poller found stands unwatched =>
    refine List.mem_filter.mpr ⟨known, decide_eq_true fun own => ?_⟩
    obtain ⟨rfl, -⟩ := Prod.mk.inj own
    exact Bool.false_ne_true (unwatched.symm.trans watched)
  | @left poller found stands =>
    refine List.mem_filter.mpr ⟨known, decide_eq_true fun own => ?_⟩
    obtain ⟨rfl, rfl⟩ := Prod.mk.inj own
    obtain ⟨other, alive, -, same⟩ := sound.mem_records.mp known
    obtain ⟨there, lives⟩ := mem_live.mp alive
    obtain rfl := sound.poller_unique (poller?_eq_some found).2 there same
    simp [Poller.isLive, stands] at lives
  | _ => exact known

/-- Whoever waits for a hash whose stopwatch is to be stopped is completed. -/
theorem Move.stopped_inv (tidy : Tidy monitor.entries) (move : Move now monitor event turn)
    (stops : bundle ∈ stopped turn.2) (pending : registration ∈ monitor.pending bundle) :
    (bundle, registration) ∈ completed turn.2 := by
  have within : ∀ {turn : Turn Watcher} {found : Account Watcher}, account turn = found →
      bundle ∈ stopped turn.2 → bundle ∈ found.stopped := by
    rintro turn _ rfl member
    exact member
  have completes : ∀ {other : Hash}, bundle ∈ (if monitor.pending other = [] then [] else [other]) →
      (bundle, registration) ∈ (monitor.pending other).map (other, ·) := by
    intro other member
    split at member
    · cases member
    · obtain rfl := List.mem_singleton.mp member
      exact List.mem_map_of_mem pending
  cases move with
  | register => cases within (account_register ..) stops
  | cancelRegistration => cases within (account_cancelRegistration ..) stops
  | cancelPolling => cases within (account_cancelPolling tidy _) stops
  | @notifyConfirmed other =>
    have account := account_notifyConfirmed tidy other
    have done : completed (monitor.notifyConfirmed other).2 = _ :=
      congrArg Account.completed account
    exact done ▸ completes (within account stops)
  | @confirmed poller =>
    have account := account_complete tidy poller.bundle
    have done : completed (monitor.complete poller.bundle).2 = _ :=
      congrArg Account.completed account
    have stops : bundle ∈ stopped (monitor.complete poller.bundle).2 := stops
    show _ ∈ completed (monitor.complete poller.bundle).2
    exact done ▸ completes (within account stops)
  | _ => simp [stopped, rest, leave] at stops

/-- A registration that a step neither completes nor removes stays pending. -/
theorem Move.pending (sound : monitor.Sound) (move : Move now monitor event turn)
    (waits : registration ∈ monitor.pending bundle)
    (uncompleted : (bundle, registration) ∉ completed turn.2)
    (unremoved : (bundle, registration) ∉ removed turn.2) :
    registration ∈ turn.1.pending bundle := by
  have before : (bundle, registration) ∈ monitor.waiting := (mem_waiting sound.tidy).mpr waits
  have after := (move.accounts sound).mem_iff.mp (List.mem_append_left _ before)
  obtain pending | gone := List.mem_append.mp after
  · exact (mem_waiting (sound.step move).tidy).mp pending
  · obtain done | gone := List.mem_append.mp gone
    · exact absurd done uncompleted
    · exact absurd gone unremoved

/-- As long as a registration is neither completed nor removed it stays pending, the poller of its
hash stays the same one, and the stopwatch of its hash is not to be stopped. -/
theorem Run.kept (run : Run start entries final) (sound : start.Sound)
    (waits : registration ∈ start.pending bundle)
    (uncompleted : (bundle, registration) ∉ completed (seen entries))
    (unremoved : (bundle, registration) ∉ removed (seen entries)) :
    registration ∈ final.pending bundle ∧
      (∀ id, (bundle, id) ∈ start.records → (bundle, id) ∈ final.records) ∧
      bundle ∉ stopped (seen entries) := by
  induction run with
  | refl => exact ⟨waits, fun _ known => known, List.not_mem_nil⟩
  | @step entries monitor now event next effects prior move inductionHypothesis =>
    rw [seen_append, seen_single, completed_append, List.mem_append, not_or] at uncompleted
    rw [seen_append, seen_single, removed_append, List.mem_append, not_or] at unremoved
    obtain ⟨pending, recorded, unstopped⟩ := inductionHypothesis uncompleted.1 unremoved.1
    have present := prior.sound sound
    have watched := (isWatching_iff present.tidy).mpr (List.ne_nil_of_mem pending)
    refine ⟨move.pending present pending uncompleted.2 unremoved.2,
      fun id known => move.recorded present watched (recorded id known), ?_⟩
    rw [seen_append, seen_single, stopped_append, List.mem_append, not_or]
    exact ⟨unstopped, fun stops =>
      uncompleted.2 (move.stopped_inv present.tidy stops pending)⟩

end Inclusion.Monitor
