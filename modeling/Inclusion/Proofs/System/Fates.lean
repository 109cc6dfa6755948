import Mathlib.Data.List.Perm.Basic
import Inclusion.Proofs.System.Attending
import Inclusion.Proofs.System.Updates

/-!
# The fates of registrations in the run of a system

In a run of a system the monitor makes a run of its own, so that every registration is pending,
completed or removed. Whoever has a completed registration stands in line and is told of the
confirmation once; whoever has waited for a removed one learns that it was cancelled. What those
outside learn is accounted for by that, without loss and without repetition.
-/

namespace Inclusion

namespace Monitor

variable {Watcher : Type}

/-- What the requests to a monitor come to, whatever registrations are pending. A request or a poll
takes out registrations of its own hash, and only those that it is about. -/
structure Handles (monitor : Monitor Watcher) : Prop where
  registered : ∀ bundle watcher, account (monitor.register bundle watcher) =
    { pending := Function.update monitor.pending bundle
        (monitor.pending bundle ++ [⟨monitor.nextId, watcher⟩])
      made := [(bundle, ⟨monitor.nextId, watcher⟩)] }
  notified : ∀ bundle, account (monitor.notifyConfirmed bundle) =
    { pending := Function.update monitor.pending bundle []
      completed := (monitor.pending bundle).map (bundle, ·)
      stopped := if monitor.pending bundle = [] then [] else [bundle]
      answers := [!(monitor.pending bundle).isEmpty] }
  /-- A poll that finds the hash confirmed. -/
  polled : ∀ now id verdict turn bundle, Move now monitor (.pollerAnswered id verdict) turn →
    Confirms monitor (.pollerAnswered id verdict) bundle → account turn =
      { pending := Function.update monitor.pending bundle []
        completed := (monitor.pending bundle).map (bundle, ·)
        stopped := if monitor.pending bundle = [] then [] else [bundle] }
  cancelled : ∀ bundle id, account (monitor.cancelRegistration bundle id) =
    { pending := Function.update monitor.pending bundle
        ((monitor.pending bundle).filter fun registration => registration.id ≠ id)
      removed := ((monitor.pending bundle).filter fun registration => registration.id = id).map
        (bundle, ·)
      answers := [(monitor.pending bundle).any fun registration => registration.id = id] }
  /-- No other registration is pending under the number of a cancelled one. -/
  alone : ∀ bundle, ∀ registration ∈ monitor.pending bundle,
    (monitor.pending bundle).filter (fun other => other.id = registration.id) = [registration]
  cleared : ∀ bundle, account (monitor.cancelPolling bundle) =
    { pending := Function.update monitor.pending bundle []
      removed := (monitor.pending bundle).map (bundle, ·)
      answers := [!(monitor.pending bundle).isEmpty] }
  /-- Nothing comes of a request about a hash that nobody watches. -/
  unwatched : ∀ bundle, monitor.isWatching bundle = false →
    account (monitor.notifyConfirmed bundle) = { pending := monitor.pending, answers := [false] } ∧
      account (monitor.cancelPolling bundle) = { pending := monitor.pending, answers := [false] } ∧
      ∀ id, account (monitor.cancelRegistration bundle id) =
        { pending := monitor.pending, answers := [false] }
  /-- Nothing else takes out a registration. -/
  kept : ∀ now event turn, Move now monitor event turn → event.isAnswered = false →
    (∀ bundle watcher, event ≠ .register bundle watcher) →
      (∀ bundle, ¬Confirms monitor event bundle) → account turn = { pending := monitor.pending }

/-- Requests come to that in a sound monitor whose pending registrations have different numbers. -/
theorem Sound.handles {monitor : Monitor Watcher} (sound : monitor.Sound)
    (distinct : (monitor.waiting.map fun item => item.2.id).Nodup) : monitor.Handles where
  registered := account_register monitor
  notified := account_notifyConfirmed sound.tidy
  polled := fun _ _ _ _ _ move confirms => move.account_polled sound.tidy confirms
  cancelled := account_cancelRegistration monitor
  alone := by
    intro bundle registration pending
    have within := (waiting_forget_pending sound.tidy bundle).map fun item => item.2.id
    rw [List.map_append, List.map_map] at within
    have numbers : ((monitor.pending bundle).map Registration.id).Nodup :=
      (within.nodup_iff.mp distinct).of_append_right
    obtain ⟨earlier, later, split⟩ := List.append_of_mem pending
    rw [split, List.map_append, List.map_cons, List.nodup_middle, List.nodup_cons,
      ← List.map_append] at numbers
    have others : ∀ other ∈ earlier ++ later, other.id ≠ registration.id :=
      fun other member same => numbers.1 (List.mem_map.mpr ⟨other, member, same⟩)
    have nobody : ∀ part : List (Registration Watcher), part ⊆ earlier ++ later →
        part.filter (fun other => other.id = registration.id) = [] := by
      intro part within
      refine List.filter_eq_nil_iff.mpr fun other member => ?_
      simpa using others other (within member)
    rw [split, List.filter_append, List.filter_cons_of_pos (by simp),
      nobody earlier (List.subset_append_left ..), nobody later (List.subset_append_right ..)]
    rfl
  cleared := account_cancelPolling sound.tidy
  unwatched := by
    intro bundle unwatched
    have absent : monitor.entries.lookup bundle = none := by simpa [isWatching] using unwatched
    have nobody := pending_of_unwatched absent
    rw [account_notifyConfirmed sound.tidy, account_cancelPolling sound.tidy, nobody,
      update_pending_nil absent]
    refine ⟨rfl, rfl, fun id => ?_⟩
    rw [account_cancelRegistration, nobody, List.filter_nil, update_pending_nil absent]
    rfl
  kept := fun _ _ _ move unasked unmade unconfirmed =>
    move.account_kept unasked unmade unconfirmed

end Monitor

namespace System

/-- What was seen of the monitor in a run. -/
def observed (trace : List Moment) : List (Monitor.Effect Watcher) :=
  trace.flatMap fun moment => monitorEffects moment.effects

/-- The registrations that were made in a run, each with its hash. -/
def made (trace : List Moment) : List (Hash × Registration Watcher) :=
  Monitor.made (observed trace)

/-- The registrations that were completed. -/
def completed (trace : List Moment) : List (Hash × Registration Watcher) :=
  Monitor.completed (observed trace)

/-- The registrations that were removed. -/
def removed (trace : List Moment) : List (Hash × Registration Watcher) :=
  Monitor.removed (observed trace)

/-- The registration whose owner is told of the confirmation at a moment, if it is such a moment. -/
def Moment.told (moment : Moment) : List (Hash × Registration Watcher) :=
  match moment.event with
  | .callbackRun place => moment.before.callbacks[place]?.toList
  | _ => []

/-- The registrations whose owners were told of the confirmation. -/
def told (trace : List Moment) : List (Hash × Registration Watcher) :=
  trace.flatMap Moment.told

@[simp] theorem observed_append (first second : List Moment) :
    observed (first ++ second) = observed first ++ observed second :=
  List.flatMap_append

@[simp] theorem observed_single (moment : Moment) :
    observed [moment] = monitorEffects moment.effects := by
  simp [observed]

theorem made_concat (trace : List Moment) (moment : Moment) :
    made (trace ++ [moment]) = made trace ++ Monitor.made (monitorEffects moment.effects) := by
  rw [made, observed_append, observed_single, Monitor.made_append]
  rfl

theorem completed_concat (trace : List Moment) (moment : Moment) :
    completed (trace ++ [moment]) =
      completed trace ++ Monitor.completed (monitorEffects moment.effects) := by
  rw [completed, observed_append, observed_single, Monitor.completed_append]
  rfl

theorem removed_concat (trace : List Moment) (moment : Moment) :
    removed (trace ++ [moment]) =
      removed trace ++ Monitor.removed (monitorEffects moment.effects) := by
  rw [removed, observed_append, observed_single, Monitor.removed_append]
  rfl

@[simp] theorem told_append (first second : List Moment) :
    told (first ++ second) = told first ++ told second :=
  List.flatMap_append

@[simp] theorem told_single (moment : Moment) : told [moment] = moment.told := by
  simp [told]

/-- Who is told of the confirmation outside. -/
def callback? (item : Hash × Registration Watcher) : Option Nat :=
  match item.2.watcher with
  | .callback name => some name
  | _ => none

/-- Who has waited for a registration that is completed. -/
def confirmedWait? (item : Hash × Registration Watcher) :
    Option (Nat × Except MonitorError Unit) :=
  match item.2.watcher with
  | .waiter name => some (name, .ok ())
  | _ => none

variable {start final system : System} {trace : List Moment} {event : Event} {turn : Turn}

/-- To tell somebody of a confirmation leaves the monitor and the line alone. -/
theorem frame_tellConfirmed (system : System) (item : Hash × Registration Watcher) :
    ((system.tellConfirmed item.2).1.monitor = system.monitor ∧
      (system.tellConfirmed item.2).1.callbacks = system.callbacks ∧
      (system.tellConfirmed item.2).1.calls = system.calls ∧
      (system.tellConfirmed item.2).1.nextCall = system.nextCall) ∧
      monitorEffects (system.tellConfirmed item.2).2 = [] ∧
      fires (system.tellConfirmed item.2).2 = (callback? item).toList ∧
      waits (system.tellConfirmed item.2).2 = (confirmedWait? item).toList := by
  obtain ⟨bundle, id, watcher⟩ := item
  cases watcher with
  | supervisor task =>
    obtain ⟨callbacks, calls, nextCall, monitor⟩ := frame_signal system task id .fired
    exact ⟨⟨monitor, callbacks, calls, nextCall⟩, rfl, rfl, rfl⟩
  | callback | waiter => exact ⟨⟨rfl, rfl, rfl, rfl⟩, rfl, rfl, rfl⟩

/-- The monitor moves by the steps that a step of the system commissions. -/
theorem Attended.monitored (attended : Attended system event turn) :
    ∃ entries, Monitor.Run system.monitor entries turn.1.monitor ∧
      Monitor.seen entries = monitorEffects turn.2 ∧
      ∀ entry ∈ entries, Commissions system event entry.event := by
  cases attended with
  | tended elsewhere tends => exact tends.moves
  | returned begin found owner decided stepped =>
    obtain ⟨entries, run, seen, events⟩ := (tends_stepMonitor stepped).moves
    rw [(frame_setCall ..).2.2.1] at run
    refine ⟨entries, run, seen, fun entry member => ?_⟩
    rw [events entry member, begin]
    exact .returned found owner decided
  | ended found opened begin after =>
    refine ⟨[], ?_, ?_, by simp⟩
    · rw [after, endLeg, (frame_setCall ..).2.2.1]
      exact .refl
    · rw [after]
      rfl
  | @told place bundle registration begin found after =>
    obtain ⟨⟨monitor, -⟩, unseen, -⟩ := frame_tellConfirmed { system with
      callbacks := system.callbacks.eraseIdx place } (bundle, registration)
    refine ⟨[], ?_, ?_, by simp⟩
    · rw [after, monitor]
      exact .refl
    · rw [after, unseen]
      rfl

/-- Of a run of a system the monitor makes a run of its own. -/
theorem Run.monitored (run : Run start trace final) :
    ∃ entries, Monitor.Run start.monitor entries final.monitor ∧
      Monitor.seen entries = observed trace ∧
      ∀ entry ∈ entries, ∃ moment ∈ trace, Commissions moment.before moment.event entry.event := by
  induction run with
  | refl => exact ⟨[], .refl, rfl, by simp⟩
  | @step trace system event next effects prior stepped inductionHypothesis =>
    obtain ⟨entries, run, seen, commissioned⟩ := inductionHypothesis
    obtain ⟨more, further, seen_more, events⟩ := (attended stepped).monitored
    refine ⟨entries ++ more, run.trans further, ?_, ?_⟩
    · rw [Monitor.seen_append, seen, seen_more]
      simp [observed]
    · intro entry member
      obtain earlier | last := List.mem_append.mp member
      · obtain ⟨moment, there, commissions⟩ := commissioned entry earlier
        exact ⟨moment, List.mem_append_left _ there, commissions⟩
      · exact ⟨_, List.mem_append_right _ (List.mem_singleton_self _), events entry last⟩

/-- What a step adds to the line and takes out of it, and what those outside learn. -/
theorem Attended.line (attended : Attended system event turn) :
    (turn.1.callbacks ++ Moment.told ⟨system, event, turn.2⟩).Perm
        (system.callbacks ++ Monitor.completed (monitorEffects turn.2)) ∧
      fires turn.2 = (Moment.told ⟨system, event, turn.2⟩).filterMap callback? ∧
      waits turn.2 = (Moment.told ⟨system, event, turn.2⟩).filterMap confirmedWait? ++
        (Monitor.removed (monitorEffects turn.2)).filterMap cancelledWait? := by
  -- Where nobody is told, the line only grows.
  have grows : ∀ {before : System}, before.callbacks = system.callbacks → before.Attends turn →
      Moment.told ⟨system, event, turn.2⟩ = [] →
        (turn.1.callbacks ++ Moment.told ⟨system, event, turn.2⟩).Perm
            (system.callbacks ++ Monitor.completed (monitorEffects turn.2)) ∧
          fires turn.2 = (Moment.told ⟨system, event, turn.2⟩).filterMap callback? ∧
          waits turn.2 = (Moment.told ⟨system, event, turn.2⟩).filterMap confirmedWait? ++
            (Monitor.removed (monitorEffects turn.2)).filterMap cancelledWait? := by
    intro before same attends untold
    rw [untold, List.append_nil, attends.callbacks, same]
    exact ⟨.refl _, attends.fires, attends.waits⟩
  cases attended with
  | tended elsewhere tends =>
    refine grows rfl tends.attends ?_
    unfold Moment.told
    split
    · next place begin => exact absurd begin (elsewhere.untold place)
    · rfl
  | returned begin found owner decided stepped =>
    refine grows (frame_setCall ..).2.1 (tends_stepMonitor stepped).attends ?_
    rw [begin]
    rfl
  | @ended call record leg outcome found opened begin after =>
    have untold : Moment.told ⟨system, event, turn.2⟩ = [] := by
      rcases begin with rfl | ⟨rfl, -⟩ <;> rfl
    have line : turn.1.callbacks = system.callbacks := by
      rw [after, endLeg, (frame_setCall ..).2.1]
    rw [untold, line, after]
    exact ⟨.refl _, rfl, rfl⟩
  | @told place bundle registration begin found after =>
    let left := { system with callbacks := system.callbacks.eraseIdx place }
    obtain ⟨⟨-, line, -⟩, unseen, fired, waited⟩ :=
      frame_tellConfirmed left (bundle, registration)
    have one : Moment.told ⟨system, event, turn.2⟩ = [(bundle, registration)] := by
      rw [Moment.told, begin]
      simp [found]
    have waits_one : [(bundle, registration)].filterMap confirmedWait? =
        (confirmedWait? (bundle, registration)).toList := by
      cases same : confirmedWait? (bundle, registration) <;> simp [same]
    have fires_one : [(bundle, registration)].filterMap callback? =
        (callback? (bundle, registration)).toList := by
      cases same : callback? (bundle, registration) <;> simp [same]
    rw [one, after, unseen, line, fired, waited, waits_one, fires_one]
    refine ⟨?_, rfl, (List.append_nil _).symm⟩
    obtain ⟨within, item⟩ := List.getElem?_eq_some_iff.mp found
    have taken := List.getElem_cons_eraseIdx_perm within
    rw [item] at taken
    exact (List.append_nil system.callbacks).symm ▸ List.perm_append_comm.trans taken

/-- In a run everybody whose registration is completed stands in line and is told in the end, once,
and those outside learn nothing else. -/
theorem Run.line (run : Run start trace final) :
    (final.callbacks ++ told trace).Perm (start.callbacks ++ completed trace) ∧
      trace.flatMap (fun moment => fires moment.effects) = (told trace).filterMap callback? ∧
      (trace.flatMap fun moment => waits moment.effects).Perm
        ((told trace).filterMap confirmedWait? ++ (removed trace).filterMap cancelledWait?) := by
  induction run with
  | refl => exact ⟨.refl _, rfl, .refl _⟩
  | @step trace system event next effects prior stepped inductionHypothesis =>
    obtain ⟨line, fired, waited⟩ := inductionHypothesis
    obtain ⟨line_next, fired_next, waited_next⟩ := (attended stepped).line
    rw [told_append, told_single, completed_concat, removed_concat, List.flatMap_append,
      List.flatMap_append, List.flatMap_singleton, List.flatMap_singleton, List.filterMap_append,
      List.filterMap_append, List.filterMap_append]
    classical
    refine ⟨List.perm_iff_count.mpr fun item => ?_, ?_, List.perm_iff_count.mpr fun wait => ?_⟩
    · have before := line.count_eq item
      have after := line_next.count_eq item
      simp only [List.count_append] at before after ⊢
      omega
    · rw [fired, fired_next]
    · have before := waited.count_eq wait
      have after := congrArg (List.count wait) waited_next
      simp only [List.count_append] at before after ⊢
      omega

/-! ## The stopwatch -/

/-- To tell the owners of removed registrations leaves the stopwatch and the clock alone. -/
theorem stopwatch_tellRemoved (bundle : Hash) (system : System)
    (registrations : List (Registration Watcher)) :
    (carryOut (tellRemoved bundle) system registrations).1.stopwatch = system.stopwatch ∧
      (carryOut (tellRemoved bundle) system registrations).1.now = system.now := by
  induction registrations generalizing system with
  | nil => exact ⟨rfl, rfl⟩
  | cons first rest inductionHypothesis =>
    obtain ⟨stopwatch, now⟩ := inductionHypothesis (tellRemoved bundle system first).1
    have kept : (tellRemoved bundle system first).1.stopwatch = system.stopwatch ∧
        (tellRemoved bundle system first).1.now = system.now := by
      unfold tellRemoved signal
      split
      · split
        · exact ⟨rfl, rfl⟩
        · split <;> exact ⟨rfl, rfl⟩
      · exact ⟨rfl, rfl⟩
      · exact ⟨rfl, rfl⟩
    exact ⟨stopwatch.trans kept.1, now.trans kept.2⟩

/-- Of all that the monitor asks for, the stopwatch is concerned by one thing only. -/
theorem stopwatch_serveMonitor (system : System) (effect : Monitor.Effect Watcher) :
    (system.serveMonitor effect).1.stopwatch = (Monitor.stopped [effect]).foldl
        (fun watch bundle => (watch.stop bundle.text system.now).1) system.stopwatch ∧
      (system.serveMonitor effect).1.now = system.now := by
  cases effect with
  | removed bundle registrations => exact stopwatch_tellRemoved bundle system registrations
  | query poller request =>
    show (system.beginCall _ _ _).1.stopwatch = _ ∧ (system.beginCall _ _ _).1.now = _
    unfold beginCall
    split <;> exact ⟨rfl, rfl⟩
  | _ => exact ⟨rfl, rfl⟩

/-- The stopwatches that the monitor wants stopped are stopped, and no other is touched. -/
theorem stopwatch_afterMonitor (system : System) (after : Monitor.Turn Watcher) :
    (system.afterMonitor after).1.stopwatch = (Monitor.stopped after.2).foldl
      (fun watch bundle => (watch.stop bundle.text system.now).1) system.stopwatch := by
  obtain ⟨monitor, effects⟩ := after
  suffices served : ∀ system : System, (carryOut serveMonitor system effects).1.stopwatch =
      (Monitor.stopped effects).foldl
        (fun watch bundle => (watch.stop bundle.text system.now).1) system.stopwatch from
    served { system with monitor }
  intro system
  induction effects generalizing system with
  | nil => rfl
  | cons first rest inductionHypothesis =>
    obtain ⟨stopwatch, now⟩ := stopwatch_serveMonitor system first
    have split : Monitor.stopped (first :: rest) =
        Monitor.stopped [first] ++ Monitor.stopped rest := by
      rw [← List.singleton_append, Monitor.stopped_append]
    rw [carryOut_cons, inductionHypothesis, stopwatch, now, split, List.foldl_append]

/-! ## One fate -/

/-- What becomes of the registrations of a run, and of requests at its end. -/
structure Fates (trace : List Moment) (final : System) : Prop where
  /-- No number is given twice. -/
  distinct : ((made trace).map fun item => item.2.id).Nodup
  /-- Each registration is pending, completed or removed, once and only one of the three. -/
  fate : (made trace).Perm (final.monitor.waiting ++ (completed trace ++ removed trace))
  pending : ∀ bundle registration,
    (bundle, registration) ∈ final.monitor.waiting ↔ registration ∈ final.monitor.pending bundle
  /-- The owner of each completed registration has been told once, or stands in line once. -/
  served : (completed trace).Perm (told trace ++ final.callbacks)
  /-- Whoever stands in line can be told now, -/
  ready : ∀ place, place < final.callbacks.length →
    (final.step (.callbackRun place)).isSome = true
  /-- and is told before the system settles. -/
  settled : final.isSettled = true → final.callbacks = []
  fired : trace.flatMap (fun moment => fires moment.effects) = (told trace).filterMap callback?
  /-- A wait ends well for a registration that is completed, and in vain for one that is removed. -/
  waited : (trace.flatMap fun moment => waits moment.effects).Perm
    ((told trace).filterMap confirmedWait? ++ (removed trace).filterMap cancelledWait?)
  requests : final.monitor.Handles
  stopwatch : ∀ turn, (final.afterMonitor turn).1.stopwatch = (Monitor.stopped turn.2).foldl
    (fun watch bundle => (watch.stop bundle.text final.now).1) final.stopwatch

theorem ready_of_callbacks {place : Nat} (within : place < system.callbacks.length) :
    (system.step (.callbackRun place)).isSome = true := by
  simp [step, List.getElem?_eq_getElem within]

theorem no_callbacks_of_settled (settled : system.isSettled = true) : system.callbacks = [] := by
  simp only [isSettled, nextEvent?, Bool.and_eq_true, Option.isNone_iff_eq_none,
    Option.or_eq_none_iff] at settled
  by_contra waiting
  simp [waiting] at settled

/-- In every run from a system whose monitor nobody has used, every registration has one fate. -/
theorem Run.one_fate (run : Run start trace final) (new : start.monitor.IsNew)
    (nobody : start.callbacks = []) : Fates trace final := by
  obtain ⟨entries, monitored, seen, -⟩ := run.monitored
  obtain ⟨distinct, -, fate⟩ := monitored.accounts new
  have sound := monitored.sound new.sound
  obtain ⟨line, fired, waited⟩ := run.line
  rw [seen] at distinct fate
  rw [nobody, List.nil_append] at line
  have waiting : (final.monitor.waiting.map fun item => item.2.id).Nodup := by
    have numbers := (fate.map fun item => item.2.id).nodup_iff.mp distinct
    rw [List.map_append] at numbers
    exact numbers.of_append_left
  exact {
    distinct
    fate
    pending := fun bundle registration => Monitor.mem_waiting sound.tidy
    served := line.symm.trans List.perm_append_comm
    ready := fun place => ready_of_callbacks
    settled := no_callbacks_of_settled
    fired
    waited
    requests := sound.handles waiting
    stopwatch := stopwatch_afterMonitor final }

/-- A hash other than the one that the small system works on. -/
def otherHash : Hash :=
  .ofTrytes [.ofTrits .plus .zero .zero]

/-- Of five registrations one is cancelled, one is removed with all of its hash, and two are
completed, of which the later one is told first. The fifth is made when that is over. -/
def allFates : List Event :=
  [.register .null (.waiter 1), .register .null (.waiter 2), .register otherHash (.waiter 3),
    .register .null (.callback 4), .cancelRegistration .null 1, .notifyConfirmed .null,
    .cancelPolling otherHash, .callbackRun 1, .register .null (.waiter 5)]

/-- Nobody has used the monitor of the small system. -/
theorem isNew_monitor_small (config : ConfirmerConfig) (forced : Nat) :
    (small config forced).monitor.IsNew :=
  ⟨rfl, rfl, rfl⟩

/-- The waiter of the first registration has waited in vain, as has that of the third. The callback
of the fourth has been told. The second waiter is the only one in line. -/
theorem one_fate_allFates : ∃ trace final, Run (small quickTicks 0) trace final ∧
    Fates trace final ∧
      (made trace).map (fun item => item.2.id) = [1, 2, 3, 4, 5] ∧
      (removed trace).map (fun item => item.2.id) = [1, 3] ∧
      (told trace).map (fun item => item.2.id) = [4] ∧
      final.callbacks.map (fun item => item.2.id) = [2] ∧
      final.monitor.waiting.map (fun item => item.2.id) = [5] := by
  obtain ⟨trace, final, task, run, -, checked⟩ :
      ∃ trace final task, Run (small quickTicks 0) trace final ∧ final.task? 0 = some task ∧
        decide ((made trace).map (fun item => item.2.id) = [1, 2, 3, 4, 5] ∧
          (removed trace).map (fun item => item.2.id) = [1, 3] ∧
          (told trace).map (fun item => item.2.id) = [4] ∧
          final.callbacks.map (fun item => item.2.id) = [2] ∧
          final.monitor.waiting.map (fun item => item.2.id) = [5]) = true :=
    @exists_run allFates _ _ _ (by decide)
  exact ⟨trace, final, run, run.one_fate (isNew_monitor_small _ _) rfl, of_decide_eq_true checked⟩

end System

end Inclusion
