import Inclusion.Proofs.Monitor.Fates

/-!
# Runs of a monitor

A run is any finite sequence of steps that a monitor can take, whatever the callers ask and in
whatever order the pollers act. A run from a monitor that nobody has used accounts for all
registrations: each has a number of its own and is pending, completed or removed.
-/

namespace Inclusion.Monitor

variable {Watcher : Type}

/-- A step of a run. -/
structure Entry (Watcher : Type) where
  before : Monitor Watcher
  now : Nat
  event : Event Watcher
  effects : List (Effect Watcher)

/-- Zero or more steps of a monitor. -/
inductive Run : Monitor Watcher → List (Entry Watcher) → Monitor Watcher → Prop where
  | refl {monitor} : Run monitor [] monitor
  | step {start entries monitor now event next effects} (prior : Run start entries monitor)
      (move : Move now monitor event (next, effects)) :
      Run start (entries ++ [⟨monitor, now, event, effects⟩]) next

/-- All that was seen of a run, in order. -/
def seen (entries : List (Entry Watcher)) : List (Effect Watcher) :=
  entries.flatMap Entry.effects

@[simp] theorem seen_nil : seen ([] : List (Entry Watcher)) = [] := rfl

@[simp] theorem seen_append (first second : List (Entry Watcher)) :
    seen (first ++ second) = seen first ++ seen second :=
  List.flatMap_append

@[simp] theorem seen_single (entry : Entry Watcher) : seen [entry] = entry.effects := by
  simp [seen]

variable {start middle final : Monitor Watcher} {entries : List (Entry Watcher)}
  {monitor : Monitor Watcher} {now : Nat} {event : Event Watcher} {turn : Turn Watcher}

/-- A run goes on where another has ended. -/
theorem Run.trans {first second : List (Entry Watcher)} (before : Run start first middle)
    (after : Run middle second final) : Run start (first ++ second) final := by
  induction after with
  | refl => simpa using before
  | step prior move inductionHypothesis =>
    simpa [List.append_assoc] using Run.step inductionHypothesis move

/-- A single step is a run. -/
theorem Move.run (move : Move now monitor event turn) :
    Run monitor [⟨monitor, now, event, turn.2⟩] turn.1 :=
  Run.step .refl move

/-- The run of given events at one time, if they can happen one after another. -/
def replay (now : Nat) (monitor : Monitor Watcher) :
    List (Event Watcher) → Option (List (Entry Watcher) × Monitor Watcher)
  | [] => some ([], monitor)
  | event :: rest =>
    match monitor.step now event with
    | none => none
    | some (next, effects) =>
      (replay now next rest).map fun (entries, final) =>
        (⟨monitor, now, event, effects⟩ :: entries, final)

theorem run_of_replay {events : List (Event Watcher)}
    (replayed : start.replay now events = some (entries, final)) : Run start entries final := by
  induction events generalizing start entries with
  | nil =>
    obtain ⟨rfl, rfl⟩ := Prod.mk.inj (Option.some.inj replayed)
    exact .refl
  | cons event rest inductionHypothesis =>
    simp only [replay] at replayed
    split at replayed
    · cases replayed
    · next next effects stepped =>
      obtain ⟨⟨later, last⟩, after, same⟩ := Option.map_eq_some_iff.mp replayed
      obtain ⟨rfl, rfl⟩ := Prod.mk.inj same
      exact (step_eq_some_iff.mp stepped).run.trans (inductionHypothesis after)

/-- A run with what was found out about it by replaying it. -/
theorem exists_run {events : List (Event Watcher)} {check : Monitor Watcher → Bool}
    (checked : (start.replay 0 events).any (fun (_, final) => check final) = true) :
    ∃ entries final, Run start entries final ∧ check final = true := by
  obtain ⟨⟨entries, final⟩, replayed, checked⟩ := (Option.any_eq_true ..).mp checked
  exact ⟨entries, final, run_of_replay replayed, checked⟩

/-- Every entry of a run is a step of the monitor. -/
theorem Run.moved (run : Run start entries final) {entry : Entry Watcher}
    (member : entry ∈ entries) : ∃ next, Move entry.now entry.before entry.event
      (next, entry.effects) := by
  induction run with
  | refl => cases member
  | @step entries monitor now event next effects prior move inductionHypothesis =>
    obtain earlier | last := List.mem_append.mp member
    · exact inductionHypothesis earlier
    · obtain rfl := List.mem_singleton.mp last
      exact ⟨next, move⟩

/-- A sound monitor stays sound. -/
theorem Run.sound (run : Run start entries final) (sound : start.Sound) : final.Sound := by
  induction run with
  | refl => exact sound
  | step prior move inductionHypothesis => exact inductionHypothesis.step move

/-- What is seen of a run is seen of one of its steps. -/
theorem mem_seen {effect : Effect Watcher} :
    effect ∈ seen entries ↔ ∃ entry ∈ entries, effect ∈ entry.effects :=
  List.mem_flatMap

/-- What is completed in a run is confirmed at one of its steps. -/
theorem Run.completed_inv (run : Run start entries final) (sound : start.Sound)
    {item : Hash × Registration Watcher} (done : item ∈ completed (seen entries)) :
    ∃ entry ∈ entries, Confirms entry.before entry.event item.1 := by
  induction run with
  | refl => cases done
  | @step entries monitor now event next effects prior move inductionHypothesis =>
    rw [seen_append, completed_append, seen_single, List.mem_append] at done
    obtain earlier | last := done
    · obtain ⟨entry, member, confirms⟩ := inductionHypothesis earlier
      exact ⟨entry, List.mem_append_left _ member, confirms⟩
    · exact ⟨_, List.mem_append_right _ (List.mem_singleton_self _),
        move.completed_inv (prior.sound sound).tidy last⟩

/-- What is removed in a run is removed by a request to cancel. -/
theorem Run.removed_inv (run : Run start entries final) (sound : start.Sound)
    {item : Hash × Registration Watcher} (gone : item ∈ removed (seen entries)) :
    ∃ entry ∈ entries, entry.event = .cancelRegistration item.1 item.2.id ∨
      entry.event = .cancelPolling item.1 := by
  induction run with
  | refl => cases gone
  | @step entries monitor now event next effects prior move inductionHypothesis =>
    rw [seen_append, removed_append, seen_single, List.mem_append] at gone
    obtain earlier | last := gone
    · obtain ⟨entry, member, asked⟩ := inductionHypothesis earlier
      exact ⟨entry, List.mem_append_left _ member, asked⟩
    · exact ⟨_, List.mem_append_right _ (List.mem_singleton_self _),
        (move.removed_inv (prior.sound sound).tidy last).2⟩

/-! ## All registrations -/

/-- A registration gets the next number, and no other step gives one. -/
theorem Move.numbers (move : Move now monitor event turn) :
    (made turn.2 = [] ∧ turn.1.nextId = monitor.nextId) ∨
      ∃ bundle watcher, event = .register bundle watcher ∧
        made turn.2 = [(bundle, ⟨monitor.nextId, watcher⟩)] ∧
        turn.1.nextId = monitor.nextId + 1 := by
  cases move with
  | register =>
    refine .inr ⟨_, _, rfl, congrArg Account.made (account_register ..), ?_⟩
    unfold Monitor.register
    split <;> rfl
  | cancelRegistration =>
    exact .inl ⟨congrArg Account.made (account_cancelRegistration ..),
      (trimmed_cancelRegistration ..).frame.2⟩
  | @cancelPolling bundle =>
    refine .inl ⟨?_, (trimmed_cancelPolling monitor bundle).frame.2⟩
    unfold Monitor.cancelPolling
    split <;> rfl
  | @notifyConfirmed bundle =>
    refine .inl ⟨?_, (trimmed_complete monitor bundle).frame.2⟩
    simp only [Monitor.notifyConfirmed, complete]
    split <;> rfl
  | @confirmed poller =>
    refine .inl ⟨?_, (trimmed_complete monitor poller.bundle).frame.2⟩
    simp only [confirm, complete]
    split <;> rfl
  | _ => exact .inl ⟨rfl, rfl⟩

/-- What is made in a run is asked for at one of its steps. -/
theorem Run.made_inv (run : Run start entries final) {item : Hash × Registration Watcher}
    (makes : item ∈ made (seen entries)) :
    ∃ entry ∈ entries, entry.event = .register item.1 item.2.watcher := by
  induction run with
  | refl => cases makes
  | @step entries monitor now event next effects prior move inductionHypothesis =>
    rw [seen_append, made_append, seen_single, List.mem_append] at makes
    obtain earlier | last := makes
    · obtain ⟨entry, member, asked⟩ := inductionHypothesis earlier
      exact ⟨entry, List.mem_append_left _ member, asked⟩
    · refine ⟨_, List.mem_append_right _ (List.mem_singleton_self _), ?_⟩
      obtain ⟨unmade, -⟩ | ⟨bundle, watcher, asked, single, -⟩ := move.numbers
      · exact absurd (unmade ▸ last) List.not_mem_nil
      · obtain rfl := List.mem_singleton.mp (single ▸ last)
        exact asked

/-- In a run from the beginning every registration gets a number of its own, and is in the end
pending, completed or removed. -/
theorem Run.accounts (run : Run start entries final) (new : start.IsNew) :
    ((made (seen entries)).map fun item => item.2.id).Nodup ∧
      (∀ item ∈ made (seen entries), item.2.id < final.nextId) ∧
      (made (seen entries)).Perm
        (final.waiting ++ (completed (seen entries) ++ removed (seen entries))) := by
  induction run with
  | refl => simp [made, completed, removed, waiting, new.entries]
  | @step entries monitor now event next effects prior move inductionHypothesis =>
    obtain ⟨distinct, below, accounted⟩ := inductionHypothesis
    rw [seen_append, seen_single, made_append, completed_append, removed_append]
    refine ⟨?_, ?_, ?_⟩
    · obtain ⟨unmade, -⟩ | ⟨bundle, watcher, -, makes, -⟩ := move.numbers
      · rwa [unmade, List.append_nil]
      · have unused : monitor.nextId ∉ (made (seen entries)).map fun item => item.2.id := by
          intro used
          obtain ⟨item, member, same⟩ := List.mem_map.mp used
          exact Nat.lt_irrefl _ (same ▸ below item member)
        rw [makes, List.map_append]
        simpa using distinct.concat unused
    · intro item member
      obtain ⟨unmade, same⟩ | ⟨bundle, watcher, -, makes, same⟩ := move.numbers
      · rw [unmade, List.append_nil] at member
        exact same ▸ below item member
      · rw [makes] at member
        rw [same]
        obtain earlier | last := List.mem_append.mp member
        · exact Nat.lt_succ_of_lt (below item earlier)
        · obtain rfl := List.mem_singleton.mp last
          exact Nat.lt_succ_self _
    · have step := move.accounts (prior.sound new.sound)
      classical
      refine List.perm_iff_count.mpr fun item => ?_
      have before := accounted.count_eq item
      have after := step.count_eq item
      simp only [List.count_append] at before after ⊢
      omega

end Inclusion.Monitor
