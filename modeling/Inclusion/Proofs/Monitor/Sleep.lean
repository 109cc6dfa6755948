import Inclusion.Proofs.Monitor.Pollers

/-!
# How long pollers sleep

A poller goes to sleep for the longer interval if the feed is connected, and for the usual one if it
is not. That is settled when it lies down. The feed wakes nobody when it goes down, so a poller that
lay down while it was up sleeps on, for as long as was settled then: the usual interval is kept
again only when the feed has been down for the difference of the two intervals.
-/

namespace Inclusion.Monitor

variable {Watcher : Type} {start monitor final : Monitor Watcher} {entries : List (Entry Watcher)}
  {now id wake : Nat} {poller after : Poller} {event : Event Watcher} {turn : Turn Watcher}

/-- The nanoseconds between two queries for one hash. -/
def interval (monitor : Monitor Watcher) (connected : Bool) : Nat :=
  (monitor.config.pollInterval connected).nanoseconds

/-- The events at which a poller may lie down: its beginning, and the return of its node call. -/
inductive Event.LaysDown (id : Nat) : Event Watcher → Prop where
  | entered : LaysDown id (.pollerEntered id)
  | answered {verdict} : LaysDown id (.pollerAnswered id verdict)

/-- A poller after a change of one of them is that one, changed, or has stayed as it was. -/
theorem poller?_modifyPoller_inv {change : Poller → Poller} {number : Nat}
    (kept : ∀ poller, (change poller).id = poller.id)
    (there : (monitor.modifyPoller number change).poller? id = some after) :
    (id = number ∧ ∃ poller, after = change poller) ∨ monitor.poller? id = some after := by
  rw [poller?_modifyPoller kept] at there
  split at there
  · next own =>
    obtain ⟨poller, -, same⟩ := Option.map_eq_some_iff.mp there
    exact .inl ⟨own, poller, same.symm⟩
  · exact .inr there

theorem Trimmed.config {bundle : Hash} {next : Monitor Watcher}
    (trimmed : Trimmed monitor bundle next) : next.config = monitor.config := by
  cases trimmed with
  | same | kept => rfl
  | cleared =>
    unfold wake
    split <;> rfl

/-- The settings are never changed. -/
theorem Move.config (move : Move now monitor event turn) : turn.1.config = monitor.config := by
  cases move with
  | register =>
    unfold Monitor.register
    split <;> rfl
  | cancelRegistration => exact (trimmed_cancelRegistration ..).config
  | cancelPolling => exact (trimmed_cancelPolling ..).config
  | notifyConfirmed => exact (trimmed_complete ..).config
  | @confirmed poller => exact (trimmed_complete monitor poller.bundle).config
  | _ => rfl

theorem Run.config (run : Run start entries final) : final.config = start.config := by
  induction run with
  | refl => rfl
  | step _ move inductionHypothesis => exact move.config.trans inductionHypothesis

/-! ## Lying down -/

/-- Where registrations are taken out nobody lies down. -/
theorem Trimmed.asleep {bundle : Hash} {next : Monitor Watcher}
    (trimmed : Trimmed monitor bundle next) (there : next.poller? id = some after)
    (asleep : after.position = .asleep wake) :
    ∃ poller, monitor.poller? id = some poller ∧ poller.position = .asleep wake := by
  obtain ⟨heard, same⟩ := trimmed.poller? id
  rw [same] at there
  obtain ⟨poller, found, rfl⟩ := Option.map_eq_some_iff.mp there
  exact ⟨poller, found, asleep⟩

/-- A poller that gets up is not the one that sleeps. -/
theorem poller?_of_awake {change : Poller → Poller} {number : Nat}
    (kept : ∀ poller, (change poller).id = poller.id)
    (awake : ∀ poller, (change poller).position ≠ .asleep wake)
    (there : (monitor.modifyPoller number change).poller? id = some after)
    (asleep : after.position = .asleep wake) : monitor.poller? id = some after := by
  obtain ⟨-, poller, rfl⟩ | same := poller?_modifyPoller_inv kept there
  · exact absurd asleep (awake poller)
  · exact same

theorem rest_sleeps (there : (monitor.rest now poller).1.poller? id = some after)
    (asleep : after.position = .asleep wake) :
    monitor.poller? id = some after ∨
      id = poller.id ∧ wake = Clock.waitUntil now (monitor.interval monitor.pushConnected) := by
  obtain ⟨own, other, rfl⟩ | same := poller?_modifyPoller_inv (by simp) there
  · exact .inr ⟨own, (PollerPosition.asleep.inj asleep).symm⟩
  · exact .inl same

/-- A poller that sleeps after a step has slept before it, until the same moment, or has lain down
in this step, for as long as the feed gives reason to at that moment. -/
theorem Move.sleeps (move : Move now monitor event turn)
    (there : turn.1.poller? id = some after) (asleep : after.position = .asleep wake) :
    (∃ poller, monitor.poller? id = some poller ∧ poller.position = .asleep wake) ∨
      event.LaysDown id ∧ wake = Clock.waitUntil now (monitor.interval monitor.pushConnected) := by
  cases move with
  | @register bundle watcher =>
    obtain same | ⟨-, -, new⟩ := poller?_register monitor bundle watcher id
    · exact .inl ⟨after, same.symm.trans there, asleep⟩
    · obtain rfl := Option.some.inj (new.symm.trans there)
      cases asleep
  | cancelRegistration => exact .inl ((trimmed_cancelRegistration ..).asleep there asleep)
  | cancelPolling => exact .inl ((trimmed_cancelPolling ..).asleep there asleep)
  | notifyConfirmed => exact .inl ((trimmed_complete ..).asleep there asleep)
  | feedChanged => exact .inl ⟨after, there, asleep⟩
  | entered =>
    obtain same | ⟨rfl, until_then⟩ := rest_sleeps there asleep
    · exact .inl ⟨after, same, asleep⟩
    · exact .inr ⟨.entered, until_then⟩
  | failed | unknown | unconfirmed =>
    obtain same | ⟨rfl, until_then⟩ := rest_sleeps there asleep
    · exact .inl ⟨after, same, asleep⟩
    · exact .inr ⟨.answered, until_then⟩
  | elapsed | roused | asked | retired | known =>
    exact .inl ⟨after, poller?_of_awake (by simp) (by simp) there asleep, asleep⟩
  | @left poller =>
    rw [poller?_leave] at there
    split at there
    · cases there
    · exact .inl ⟨after, there, asleep⟩
  | @confirmed poller =>
    have before := poller?_of_awake (by simp) (by simp) there asleep
    exact .inl ((trimmed_complete monitor poller.bundle).asleep before asleep)

/-- Whoever sleeps has lain down at some step of the run. -/
theorem Run.lay_down (run : Run start entries final) (new : start.IsNew)
    (found : final.poller? id = some poller) (asleep : poller.position = .asleep wake) :
    ∃ entry ∈ entries, entry.event.LaysDown id ∧
      wake = Clock.waitUntil entry.now (final.interval entry.before.pushConnected) := by
  induction run generalizing poller with
  | refl =>
    rw [poller?, new.pollers] at found
    cases found
  | @step entries monitor now event next effects prior move inductionHypothesis =>
    have settings (connected : Bool) : next.interval connected = monitor.interval connected := by
      rw [interval, interval, move.config]
    obtain ⟨before, earlier, slept⟩ | ⟨lays, until_then⟩ := move.sleeps found asleep
    · obtain ⟨entry, member, lays, until_then⟩ := inductionHypothesis earlier slept
      exact ⟨entry, List.mem_append_left _ member, lays, by rw [settings, until_then]⟩
    · exact ⟨_, List.mem_append_right _ (List.mem_singleton_self _), lays,
        by rw [settings, until_then]⟩

/-- A poller sleeps as long as was settled when it lay down: for the longer interval if the feed was
connected then, and else for the usual one. Only a poller that lay down while the feed was connected
can sleep longer than the usual interval from now on, and none does any more when the feed has been
down for the difference of the two intervals. -/
theorem Run.sleeps_by_feed (run : Run start entries final) (new : start.IsNew)
    (past : ∀ entry ∈ entries, entry.now ≤ now) :
    (∀ poller ∈ final.pollers, ∀ wake, poller.position = .asleep wake →
      ∃ entry ∈ entries, entry.event.LaysDown poller.id ∧
        wake = Clock.waitUntil entry.now (final.interval entry.before.pushConnected) ∧
        (now + final.interval false < wake → entry.before.pushConnected = true ∧
          now + final.interval false < entry.now + final.interval true)) ∧
    ((∀ entry ∈ entries, entry.before.pushConnected = true →
        entry.now + final.interval true ≤ now + final.interval false) →
      ∀ poller ∈ final.pollers, ∀ wake, poller.position = .asleep wake →
        wake ≤ now + final.interval false) := by
  have bounded : ∀ poller ∈ final.pollers, ∀ wake, poller.position = .asleep wake →
      ∃ entry ∈ entries, entry.event.LaysDown poller.id ∧
        wake = Clock.waitUntil entry.now (final.interval entry.before.pushConnected) ∧
        (now + final.interval false < wake → entry.before.pushConnected = true ∧
          now + final.interval false < entry.now + final.interval true) := by
    intro poller member wake asleep
    have found := (run.sound new.sound).poller?_eq member
    obtain ⟨entry, there, lays, until_then⟩ := run.lay_down new found asleep
    refine ⟨entry, there, lays, until_then, fun late => ?_⟩
    have gone := past entry there
    cases connected : entry.before.pushConnected with
    | true =>
      rw [until_then, connected, Clock.waitUntil] at late
      exact ⟨rfl, by omega⟩
    | false =>
      rw [until_then, connected, Clock.waitUntil] at late
      omega
  refine ⟨bounded, fun ended poller member wake asleep => ?_⟩
  obtain ⟨entry, there, -, -, late⟩ := bounded poller member wake asleep
  by_contra longer
  obtain ⟨connected, still⟩ := late (Nat.lt_of_not_le longer)
  have := ended entry there connected
  omega

/-! ## A feed that goes down -/

/-- A poller lies down while the feed is connected, and the feed goes down. -/
def feedLost : List (Event Nat) :=
  [.feedChanged true, .register .null 7, .pollerEntered 1, .feedChanged false]

theorem now_of_replay {events : List (Event Watcher)}
    (replayed : start.replay now events = some (entries, final)) :
    ∀ entry ∈ entries, entry.now = now := by
  induction events generalizing start entries with
  | nil =>
    obtain ⟨rfl, -⟩ := Prod.mk.inj (Option.some.inj replayed)
    simp
  | cons event rest inductionHypothesis =>
    simp only [replay] at replayed
    split at replayed
    · cases replayed
    · obtain ⟨⟨later, last⟩, after, same⟩ := Option.map_eq_some_iff.mp replayed
      obtain ⟨rfl, rfl⟩ := Prod.mk.inj same
      exact List.forall_mem_cons.mpr ⟨rfl, inductionHypothesis after⟩

theorem replay_feedLost : ∃ entries final, unused.replay 0 feedLost = some (entries, final) ∧
    final.pollers = [⟨1, .null, false, .asleep 300_000_000_000⟩] ∧ final.pushConnected = false ∧
    final.interval false = 30_000_000_000 ∧ final.interval true = 300_000_000_000 := by
  have checked : (unused.replay 0 feedLost).any (fun (_, final) =>
      final.pollers = [⟨1, .null, false, .asleep 300_000_000_000⟩] ∧ final.pushConnected = false ∧
        final.interval false = 30_000_000_000 ∧ final.interval true = 300_000_000_000) = true := by
    decide
  obtain ⟨⟨entries, final⟩, replayed, checked⟩ := (Option.any_eq_true ..).mp checked
  exact ⟨entries, final, replayed, of_decide_eq_true checked⟩

/-- The poller sleeps on for five minutes, and not for half a minute. -/
theorem asleep_without_feed : ∃ entries final, Run unused entries final ∧
    (∀ entry ∈ entries, entry.now = 0) ∧ final.pushConnected = false ∧
    final.interval false ≤ final.interval true ∧
    ∃ poller ∈ final.pollers, ∃ wake, poller.position = .asleep wake ∧
      0 + final.interval false < wake := by
  obtain ⟨entries, final, replayed, pollers, down, usual, longer⟩ := replay_feedLost
  have member : ⟨1, .null, false, .asleep 300_000_000_000⟩ ∈ final.pollers :=
    pollers ▸ List.mem_singleton_self _
  have ordered : final.interval false ≤ final.interval true := by omega
  have late : 0 + final.interval false < 300_000_000_000 := by omega
  exact ⟨entries, final, run_of_replay replayed, now_of_replay replayed, down, ordered, _, member,
    _, rfl, late⟩

/-- When the feed has been down for four and a half minutes nobody sleeps longer than the half
minute that is usual. -/
theorem sleeps_by_feed_feedLost : ∃ entries final, Run unused entries final ∧
    ∀ poller ∈ final.pollers, ∀ wake, poller.position = .asleep wake →
      wake ≤ 270_000_000_000 + final.interval false := by
  obtain ⟨entries, final, replayed, -, -, usual, longer⟩ := replay_feedLost
  have moments := now_of_replay replayed
  have past : ∀ entry ∈ entries, entry.now ≤ 270_000_000_000 := by
    intro entry member
    rw [moments entry member]
    exact Nat.zero_le 270_000_000_000
  have ended : ∀ entry ∈ entries, entry.before.pushConnected = true →
      entry.now + final.interval true ≤ 270_000_000_000 + final.interval false := by
    intro entry member _
    have moment := moments entry member
    omega
  have run := run_of_replay replayed
  obtain ⟨-, settled⟩ := run.sleeps_by_feed isNew_unused past
  exact ⟨entries, final, run, settled ended⟩

end Inclusion.Monitor
