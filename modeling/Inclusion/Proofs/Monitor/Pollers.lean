import Inclusion.Proofs.Monitor.Polls

/-!
# Who serves a hash

However registrations come and go, and in whatever order pollers act, a hash has one live poller at
most, and has one if anybody waits for it. A poller may outlive the last registration of its hash
and be adopted by the next one, and it may be on its way out while another one has taken its place:
then it asks the nodes nothing any more, and what it does at its end leaves the record of its
successor alone.
-/

namespace Inclusion.Monitor

variable {Watcher : Type} {start final : Monitor Watcher} {entries : List (Entry Watcher)}

/-- In every run of a monitor, every hash has one live poller at most, which is the one recorded for
it. Only a live poller asks the nodes. Every hash with a pending registration has one. No entry is
empty, so a hash is watched exactly if it has registrations, and as many pollers count as active as
are live. -/
theorem Run.one_live_poller (run : Run start entries final) (new : start.IsNew) :
    (∀ poller ∈ final.pollers, ∀ other ∈ final.pollers, poller.isLive = true →
        other.isLive = true → other.bundle = poller.bundle → other = poller) ∧
      (∀ poller ∈ final.pollers,
        poller.isLive = true ↔ final.records.lookup poller.bundle = some poller.id) ∧
      (∀ now event turn id request, Move now final event turn → .query id request ∈ turn.2 →
        ∃ poller ∈ final.pollers, poller.id = id ∧ poller.isLive = true) ∧
      (∀ bundle, final.pending bundle ≠ [] → ∃ poller ∈ final.pollers, poller.bundle = bundle ∧
        poller.isLive = true ∧ final.records.lookup bundle = some poller.id) ∧
      (∀ entry ∈ final.entries, entry.2 ≠ []) ∧
      (∀ bundle, final.isWatching bundle = true ↔ 0 < final.registrations bundle) ∧
      final.activePollers = final.live.length := by
  have sound := run.sound new.sound
  refine ⟨?_, ?_, ?_, ?_, sound.tidy.nonempty, ?_, ?_⟩
  · intro poller here other there alive lives same
    exact sound.live_unique (mem_live.mpr ⟨here, alive⟩) (mem_live.mpr ⟨there, lives⟩) same
  · intro poller member
    constructor
    · intro alive
      exact sound.recorded (mem_live.mpr ⟨member, alive⟩)
    · intro recorded
      have record := (lookup_eq_some_iff_mem sound.single).mp recorded
      obtain ⟨other, alive, -, same⟩ := sound.mem_records.mp record
      obtain ⟨there, alive⟩ := mem_live.mp alive
      obtain rfl := sound.poller_unique member there same
      exact alive
  · intro now event turn id request move asks
    have asks : request ∈ queries id turn.2 := List.mem_filterMap.mpr ⟨_, asks, by simp⟩
    obtain ⟨poller, found, alive, -⟩ := move.queries_inv asks
    obtain ⟨same, member⟩ := poller?_eq_some found
    exact ⟨poller, member, same, alive⟩
  · intro bundle waits
    have watched := (isWatching_iff sound.tidy).mpr waits
    obtain ⟨poller, alive, rfl⟩ := sound.exists_live watched
    obtain ⟨member, lives⟩ := mem_live.mp alive
    exact ⟨poller, member, rfl, lives, sound.recorded alive⟩
  · intro bundle
    rw [isWatching_iff sound.tidy, registrations, List.length_pos_iff]
  · rw [activePollers, sound.records, List.length_map]

/-- A monitor that nobody has used. -/
def unused : Monitor Nat :=
  { config := {} }

theorem isNew_unused : unused.IsNew :=
  ⟨rfl, rfl, rfl⟩

/-- A registration is cancelled, its poller retires, and before that has ended the hash is watched
again. -/
def watchedAgain : List (Event Nat) :=
  [.register .null 7, .pollerEntered 1, .cancelRegistration .null 1, .pollerWoken 1,
    .pollerLooked 1, .register .null 8]

/-- Then the old poller and its successor are both at work, and only the successor is live. When the
old one ends, the record of the successor stays. -/
theorem one_live_poller_watchedAgain : ∃ entries final, Run unused entries final ∧
    final.pollers.map Poller.id = [1, 2] ∧
      (∀ poller ∈ final.pollers, poller.isLive = true ↔
        final.records.lookup poller.bundle = some poller.id) ∧
      final.records = [(.null, 2)] ∧
      ∃ after, Move 0 final (.pollerLeft 1) after ∧ after.1.records = [(.null, 2)] := by
  obtain ⟨entries, final, run, checked⟩ : ∃ entries final, Run unused entries final ∧
      decide (final.pollers.map Poller.id = [1, 2] ∧ final.records = [(.null, 2)] ∧
        (final.step 0 (.pollerLeft 1)).map (fun after => after.1.records) =
          some [(.null, 2)]) = true :=
    @exists_run _ _ watchedAgain _ (by decide)
  obtain ⟨pollers, records, left⟩ := of_decide_eq_true checked
  obtain ⟨after, stepped, same⟩ := Option.map_eq_some_iff.mp left
  obtain ⟨-, recorded, -⟩ := run.one_live_poller isNew_unused
  exact ⟨entries, final, run, pollers, recorded, records, after, step_eq_some_iff.mp stepped, same⟩

end Inclusion.Monitor
