import Inclusion.Proofs.Monitor.Keeping
import Inclusion.Proofs.System.Gauges
import Inclusion.Proofs.System.Teardown
import Inclusion.Proofs.System.Withdrawal

/-!
# What tasks on one bundle share

Tasks on one bundle share the poller of its hash and its stopwatch. The poller serves a registration
until somebody withdraws it or the bundle is confirmed, whatever becomes of the other tasks. The
watch belongs to no task in particular. A task that is cancelled takes it away when its supervisor
comes to the lock, also from the others, and it comes back when the next task on the bundle is
started.
-/

namespace Inclusion.System

/-- A task on a bundle is started at a moment, and the watch of the bundle with it. -/
def Moment.startsWatch (moment : Moment) (bundle : Hash) : Bool :=
  moment.effects.any fun
    | .started _ _ => moment.event.begun? = some bundle
    | _ => false

/-- A task on a bundle takes the watch of the bundle away at a moment. -/
def Moment.forgetsWatch (moment : Moment) (bundle : Hash) : Bool :=
  moment.effects.any fun
    | .task id .forgetStopwatch => moment.before.bundle? id = some bundle
    | _ => false

variable {start middle final system : System} {before after : List Moment} {event : Event}
  {turn : Turn} {bundle : Hash} {effects : List Effect} {begun? : Option Hash}
  {bundle? : Nat → Option Hash}

/-! ## The words on a watch -/

/-- It is for starting a task that a watch is started. -/
theorem startsWatch_iff : true ∈ words event.begun? system.bundle? bundle effects ↔
    Moment.startsWatch ⟨system, event, effects⟩ bundle = true := by
  simp only [words, List.mem_filterMap, Moment.startsWatch, List.any_eq_true]
  refine exists_congr fun effect => and_congr_right fun _ => ?_
  unfold Effect.word?
  split <;> simp

/-- A watch that the monitor leaves alone ends only by being taken away. -/
theorem forgetsWatch_iff (unstopped : .monitor (.stopWatch bundle) ∉ effects) :
    false ∈ words event.begun? system.bundle? bundle effects ↔
      Moment.forgetsWatch ⟨system, event, effects⟩ bundle = true := by
  simp only [words, List.mem_filterMap, Moment.forgetsWatch, List.any_eq_true]
  refine exists_congr fun effect => and_congr_right fun member => ?_
  unfold Effect.word?
  split
  · simp
  · simp
  · next other =>
    have others : other ≠ bundle := by
      rintro rfl
      exact unstopped member
    simp [others]
  · simp

/-- Only a cancelled task whose supervisor has come to the lock takes the watch away. -/
theorem forgetsWatch_inv (stepped : system.step event = some turn)
    (forgets : Moment.forgetsWatch ⟨system, event, turn.2⟩ bundle = true) :
    ∃ id task, event = .task id (.granted .supervisor) ∧ system.task? id = some task ∧
      task.supervisor = .queuedToCancel ∧ task.setup.bundle = bundle := by
  obtain ⟨id, member, own⟩ : ∃ id, .task id .forgetStopwatch ∈ turn.2 ∧
      system.bundle? id = some bundle := by
    obtain ⟨effect, member, own⟩ := List.any_eq_true.mp forgets
    split at own
    · exact ⟨_, member, of_decide_eq_true own⟩
    · cases own
  obtain ⟨task, present, rfl⟩ := Option.map_eq_some_iff.mp own
  have seen : .forgetStopwatch ∈ taskEffects id turn.2 :=
    List.mem_filterMap.mpr ⟨_, member, if_pos rfl⟩
  obtain ⟨taskEvent, next, effects, heard, carries, carried, -⟩ | ⟨silent, -⟩ :=
    (touch stepped).takes present
  · rw [carried.seen, if_pos rfl] at seen
    obtain ⟨rfl, stands⟩ := carried.move.forgets_inv seen
    cases carries with
    | own => exact ⟨id, task, rfl, present, stands, rfl⟩
  · rw [silent] at seen
    cases seen

/-! ## Whether a watch runs -/

/-- A watch that the monitor leaves alone runs after a step if it is started then, or has run before
and is not taken away. -/
theorem isRunning_step (stepped : system.step event = some turn) (alone : event.isWatchOp = false)
    (unstopped : .monitor (.stopWatch bundle) ∉ turn.2) :
    turn.1.stopwatch.isRunning bundle.text = true ↔
      Moment.startsWatch ⟨system, event, turn.2⟩ bundle = true ∨
        system.stopwatch.isRunning bundle.text = true ∧
          Moment.forgetsWatch ⟨system, event, turn.2⟩ bundle = false := by
  have either : Moment.forgetsWatch ⟨system, event, turn.2⟩ bundle = true →
      Moment.startsWatch ⟨system, event, turn.2⟩ bundle = false := by
    intro forgets
    obtain ⟨id, task, rfl, -⟩ := forgetsWatch_inv stepped forgets
    refine List.any_eq_false.mpr fun effect _ => ?_
    split <;> simp [Event.begun?]
  rw [(step_gauged stepped alone).watch bundle]
  cases last : (words event.begun? system.bundle? bundle turn.2).getLast? with
  | none =>
    have unsaid := List.getLast?_eq_none_iff.mp last
    have unstarted := (not_congr startsWatch_iff).mp (unsaid ▸ List.not_mem_nil)
    have unforgotten := (not_congr (forgetsWatch_iff unstopped)).mp (unsaid ▸ List.not_mem_nil)
    simp [unstarted, unforgotten]
  | some word =>
    have member := List.mem_of_getLast? last
    cases word with
    | false =>
      have forgets := (forgetsWatch_iff unstopped).mp member
      simp [forgets, either forgets]
    | true => simp [startsWatch_iff.mp member]

/-- A watch that the monitor leaves alone runs at the end of a run if it has run at the beginning
and is never taken away, or if it is started at some moment and not taken away after that. -/
theorem Run.isRunning_iff (run : Run middle after final)
    (alone : ∀ moment ∈ after, moment.event.isWatchOp = false)
    (unstopped : ∀ moment ∈ after, .monitor (.stopWatch bundle) ∉ moment.effects) :
    final.stopwatch.isRunning bundle.text = true ↔
      (middle.stopwatch.isRunning bundle.text = true ∧
          ∀ moment ∈ after, moment.forgetsWatch bundle = false) ∨
        ∃ earlier moment later, after = earlier ++ moment :: later ∧
          moment.startsWatch bundle = true ∧
          ∀ other ∈ later, other.forgetsWatch bundle = false := by
  induction run with
  | refl => simp
  | @step after system event next effects prior stepped inductionHypothesis =>
    rw [List.forall_mem_append, List.forall_mem_singleton] at alone unstopped
    rw [isRunning_step stepped alone.2 unstopped.2, inductionHypothesis alone.1 unstopped.1]
    simp only [List.forall_mem_append, List.forall_mem_singleton]
    constructor
    · rintro (starts | ⟨⟨ran, spared⟩ | ⟨earlier, moment, later, rfl, starts, spared⟩, spares⟩)
      · exact .inr ⟨_, _, [], rfl, starts, List.forall_mem_nil _⟩
      · exact .inl ⟨ran, spared, spares⟩
      · refine .inr ⟨earlier, moment, later ++ [⟨system, event, effects⟩], by simp, starts, ?_⟩
        rw [List.forall_mem_append, List.forall_mem_singleton]
        exact ⟨spared, spares⟩
    · rintro (⟨ran, spared, spares⟩ | ⟨earlier, moment, later, split, starts, spared⟩)
      · exact .inr ⟨.inl ⟨ran, spared⟩, spares⟩
      · obtain rfl | ⟨rest, last, rfl⟩ := later.eq_nil_or_concat
        · obtain ⟨-, same⟩ := List.append_inj' split rfl
          obtain rfl := List.singleton_inj.mp same
          exact .inl starts
        · rw [List.concat_eq_append, ← List.cons_append, ← List.append_assoc] at split
          obtain ⟨rfl, same⟩ := List.append_inj' split rfl
          obtain rfl := List.singleton_inj.mp same
          rw [List.concat_eq_append, List.forall_mem_append, List.forall_mem_singleton] at spared
          exact .inr ⟨.inr ⟨earlier, moment, rest, rfl, starts, spared.1⟩, spared.2⟩

/-! ## What the others keep -/

/-- The supervisor whose registration is pending waits for the confirmation of its bundle. -/
theorem Accounts.watching (accounts : system.Accounts) {id ticket : Nat}
    (waits : ⟨ticket, .supervisor id⟩ ∈ system.monitor.pending bundle) :
    ∃ task, system.task? id = some task ∧ task.setup.bundle = bundle ∧
      task.supervisor = .watching ticket none := by
  have waiting : (bundle, ⟨ticket, .supervisor id⟩) ∈ ofTask id system.monitor.waiting :=
    mem_ofTask.mpr ⟨(Monitor.mem_waiting accounts.sound.tidy).mpr waits, rfl⟩
  have owns := accounts.enrolled id
  generalize ofTask id system.monitor.waiting = registrations at owns waiting
  generalize ofTask id system.callbacks = untold at owns
  generalize system.task? id = found at owns ⊢
  cases owns with
  | @pending task number stands =>
    obtain ⟨rfl, same⟩ := Prod.mk.inj (List.mem_singleton.mp waiting)
    obtain ⟨rfl, -⟩ := Registration.mk.inj same
    exact ⟨task, rfl, rfl, stands⟩
  | absent | starting | untold | told | ending => cases waiting

/-- What the monitor asks for is seen of the step. -/
theorem stopped_observed (unstopped : bundle ∉ Monitor.stopped (observed after)) :
    ∀ moment ∈ after, .monitor (.stopWatch bundle) ∉ moment.effects := by
  intro moment member stops
  have seen : .stopWatch bundle ∈ observed after :=
    List.mem_flatMap.mpr ⟨moment, member, List.mem_filterMap.mpr ⟨_, stops, rfl⟩⟩
  exact unstopped (List.mem_filterMap.mpr ⟨_, seen, rfl⟩)

/-- Whatever becomes of the other tasks on its bundle, and whoever of them is cancelled, a task
whose registration is pending is served as it was, as long as the bundle is not confirmed and nobody
withdraws this registration: the registration stays pending, the supervisor goes on waiting, and the
poller of the hash is the same live one. Not so the watch of the bundle. If nobody outside operates
the stopwatch, it runs if no task has taken it away since it ran last or was started last, and
whoever takes it away is a cancelled task on the bundle whose supervisor has come to the lock. -/
theorem Run.others_go_on (prior : Run start before middle) (new : start.IsNew)
    (unused : start.monitor.IsNew) (nobody : start.callbacks = []) (run : Run middle after final)
    (alone : ∀ moment ∈ after, moment.event.isWatchOp = false) {other ticket : Nat}
    (waits : ⟨ticket, .supervisor other⟩ ∈ middle.monitor.pending bundle)
    (unconfirmed : (bundle, ⟨ticket, .supervisor other⟩) ∉ completed after)
    (kept : ∀ moment ∈ after, ¬moment.Withdraws (bundle, ⟨ticket, .supervisor other⟩)) :
    ⟨ticket, .supervisor other⟩ ∈ final.monitor.pending bundle ∧
      (∃ task, final.task? other = some task ∧ task.setup.bundle = bundle ∧
        task.supervisor = .watching ticket none) ∧
      (∃ poller ∈ final.monitor.pollers, poller.isLive = true ∧ poller.bundle = bundle ∧
        middle.monitor.records.lookup bundle = some poller.id ∧
        final.monitor.records.lookup bundle = some poller.id) ∧
      (final.stopwatch.isRunning bundle.text = true ↔
        (middle.stopwatch.isRunning bundle.text = true ∧
            ∀ moment ∈ after, moment.forgetsWatch bundle = false) ∨
          ∃ earlier moment later, after = earlier ++ moment :: later ∧
          moment.startsWatch bundle = true ∧
            ∀ other ∈ later, other.forgetsWatch bundle = false) ∧
      ∀ moment ∈ after, moment.forgetsWatch bundle = true →
        ∃ id task, moment.event = .task id (.granted .supervisor) ∧
          moment.before.task? id = some task ∧ task.cancel = true ∧
          task.setup.bundle = bundle := by
  have sound := (prior.accounts new unused nobody).sound
  have accounts := (prior.trans run).accounts new unused nobody
  obtain ⟨entries, moves, seen, -⟩ := run.monitored
  have unremoved : (bundle, ⟨ticket, .supervisor other⟩) ∉ removed after := by
    intro gone
    obtain ⟨moment, member, withdraws⟩ := prior.withdrawn new unused nobody run gone
    exact kept moment member withdraws
  obtain ⟨pending, recorded, unstopped⟩ :=
    moves.kept sound waits (seen.symm ▸ unconfirmed) (seen.symm ▸ unremoved)
  -- The poller that was recorded for the hash is recorded still, and so it is live.
  obtain ⟨poller, alive, rfl⟩ :=
    sound.exists_live ((Monitor.isWatching_iff sound.tidy).mpr (List.ne_nil_of_mem waits))
  have known := (lookup_eq_some_iff_mem sound.single).mp (sound.recorded alive)
  obtain ⟨still, lives, hash, number⟩ := accounts.sound.mem_records.mp (recorded _ known)
  obtain ⟨member, live⟩ := Monitor.mem_live.mp lives
  refine ⟨pending, accounts.watching pending, ⟨still, member, live, hash, ?_, ?_⟩, ?_, ?_⟩
  · rw [number]
    exact sound.recorded alive
  · rw [← hash]
    exact accounts.sound.recorded lives
  · exact run.isRunning_iff alone (stopped_observed (seen ▸ unstopped))
  · intro moment member forgets
    obtain ⟨earlier, later, rfl⟩ := List.append_of_mem member
    obtain ⟨upto, next, stepped⟩ := run.split
    obtain ⟨id, task, event, present, stands, own⟩ := forgetsWatch_inv stepped forgets
    have course := ((prior.trans upto).sound new present).course
    simp only [Task.Course.Consistent, Task.course, stands] at course
    exact ⟨id, task, event, present, course.2.2, own⟩

/-! ## Two engines on one bundle -/

/-- A system with two engines of the same settings. -/
def pair (config : ConfirmerConfig) : System :=
  { idle config with engines := [soleEngine config, soleEngine config] }

/-- The system after both have started a task for a bundle with the given tail. -/
def engagedPair (config : ConfirmerConfig) (force : Nat) (tail : Transaction)
    (trytes : List String) : System :=
  let engine : Engine := { soleEngine config with
    running := true
    activeLoops := 4
    bundle := some tail.bundle }
  let task := Task.start ⟨tail.bundle, .null, config, force⟩ tail trytes 0 force
  let first : Stopwatch := ⟨[(tail.bundle.text, ⟨0, none⟩)]⟩
  { pair config with
    stopwatch := ((first.erase tail.bundle.text).start tail.bundle.text 0).1
    engines := [engine, engine]
    tasks := [⟨0, task⟩, ⟨1, task⟩] }

/-- Both engines start a task if the time of the first forced reattachment exists. -/
theorem run_engagedPair {config : ConfirmerConfig} {force : Duration} {tail : Transaction}
    {trytes : List String} (read : tailOf trytes = .ok tail)
    (exists_force : config.forceReattachAfter? = some force)
    (exists_time : Clock.moment? 0 force.nanoseconds = some force.nanoseconds) :
    ∃ trace, Run (pair config) trace (engagedPair config force.nanoseconds tail trytes) ∧
      trace.map Moment.event = [.start 0 trytes, .start 1 trytes] := by
  have made : (soleEngine config).task? tail trytes 0 = some (.start
      ⟨tail.bundle, .null, config, force.nanoseconds⟩ tail trytes 0 force.nanoseconds) := by
    simp [Engine.task?, soleEngine, exists_force, exists_time]
  have first := Run.step .refl (step_eq_some_iff.mpr
    (@Move.started (pair config) 0 trytes (soleEngine config) tail _ rfl read rfl made))
  have second := Run.step first (step_eq_some_iff.mpr
    (@Move.started _ 1 trytes (soleEngine config) tail _ rfl read rfl made))
  exact ⟨_, second, rfl⟩

/-- Both supervisors of the pair register. -/
def bothRegister : List Event :=
  [.task 0 (.entered .supervisor), .task 1 (.entered .supervisor)]

/-- A run of the pair in which both tasks are started and registered, and one that follows it, with
what was found out by replaying both. -/
theorem exists_pair_runs {events : List Event} {check : System → List Moment → System → Bool}
    (checked : ((engagedPair quickTicks 900_000_000_000 (.blank transactionLength)
      blankBundle).replay bothRegister).any (fun (_, middle) =>
        (middle.replay events).any fun (after, final) => check middle after final) = true) :
    ∃ before middle after final, Run (pair quickTicks) before middle ∧ Run middle after final ∧
      before.map Moment.event = [.start 0 blankBundle, .start 1 blankBundle] ++ bothRegister ∧
      after.map Moment.event = events ∧ check middle after final = true := by
  obtain ⟨starts, started, begin⟩ :=
    @run_engagedPair quickTicks (.ofSeconds 900) _ _ tailOf_blankBundle (by decide) (by decide)
  obtain ⟨⟨trace, middle⟩, replayed, checked⟩ := (Option.any_eq_true ..).mp checked
  obtain ⟨⟨after, final⟩, again, checked⟩ := (Option.any_eq_true ..).mp checked
  refine ⟨starts ++ trace, middle, after, final, started.trans (run_of_replay replayed),
    run_of_replay again, ?_, events_of_replay again, checked⟩
  rw [List.map_append, begin, events_of_replay replayed]

/-- The first task is cancelled, and its supervisor withdraws. -/
def firstWithdraws : List Event :=
  [.cancel 0, .task 0 .cancelSeen]

/-- The second task is served as it was, and the watch still runs. -/
theorem others_go_on_withdrawn : ∃ before middle after final,
    Run (pair quickTicks) before middle ∧ Run middle after final ∧
      removed after = [(.null, ⟨1, .supervisor 0⟩)] ∧
      ⟨2, .supervisor 1⟩ ∈ final.monitor.pending .null ∧
      (∃ poller ∈ final.monitor.pollers, poller.isLive = true ∧ poller.bundle = .null) ∧
      final.stopwatch.isRunning Hash.null.text = true := by
  obtain ⟨before, middle, after, final, prior, run, -, events, checked⟩ :
      ∃ before middle after final, Run (pair quickTicks) before middle ∧ Run middle after final ∧
        before.map Moment.event = [.start 0 blankBundle, .start 1 blankBundle] ++ bothRegister ∧
        after.map Moment.event = firstWithdraws ∧ decide (
          ⟨2, .supervisor 1⟩ ∈ middle.monitor.pending .null ∧ completed after = [] ∧
          removed after = [(.null, ⟨1, .supervisor 0⟩)] ∧
          middle.stopwatch.isRunning Hash.null.text = true ∧
          ∀ moment ∈ after, moment.forgetsWatch .null = false) = true :=
    @exists_pair_runs firstWithdraws _ (by decide +kernel)
  obtain ⟨waits, uncompleted, removed, ran, spared⟩ := of_decide_eq_true checked
  have happens : ∀ moment ∈ after,
      moment.event = .cancel 0 ∨ moment.event = .task 0 .cancelSeen := by
    intro moment member
    have listed : moment.event ∈ firstWithdraws := events ▸ List.mem_map_of_mem member
    simpa [firstWithdraws] using listed
  have alone : ∀ moment ∈ after, moment.event.isWatchOp = false := by
    intro moment member
    obtain event | event := happens moment member <;> rw [event] <;> rfl
  have kept : ∀ moment ∈ after, ¬moment.Withdraws (.null, ⟨2, .supervisor 1⟩) := by
    intro moment member withdraws
    obtain same | same := happens moment member
    · cases withdraws with
      | cancelled event | cleared event | own event => exact nomatch same.symm.trans event
    · cases withdraws with
      | cancelled event | cleared event => exact nomatch same.symm.trans event
      | own event watcher =>
        obtain ⟨rfl, -⟩ := Event.task.inj (same.symm.trans event)
        cases watcher
  obtain ⟨pending, -, ⟨poller, member, live, same, -⟩, watch, -⟩ := prior.others_go_on ⟨rfl, rfl⟩
    ⟨rfl, rfl, rfl⟩ rfl run alone waits (by simp [uncompleted]) kept
  exact ⟨before, middle, after, final, prior, run, removed, pending, ⟨poller, member, live, same⟩,
    watch.mpr (.inl ⟨ran, spared⟩)⟩

/-- As soon as its supervisor comes to the lock the first task takes the watch away, which has run
for both, and although nobody outside has operated the stopwatch. The second task still waits for
the confirmation, and its registration is pending. -/
theorem watch_taken_from_others : ∃ before middle after final other,
    Run (pair quickTicks) before middle ∧ Run middle after final ∧
      (∀ moment ∈ before ++ after, moment.event.isWatchOp = false) ∧
      after.map Moment.event = firstWithdraws ++ [.task 0 (.granted .supervisor)] ∧
      middle.monitor.pending .null = [⟨1, .supervisor 0⟩, ⟨2, .supervisor 1⟩] ∧
      middle.stopwatch.isRunning Hash.null.text = true ∧ completed after = [] ∧
      final.task? 1 = some other ∧ other.setup.bundle = .null ∧ other.phase = .running ∧
      other.cancel = false ∧ other.supervisor = .watching 2 none ∧
      final.monitor.pending .null = [⟨2, .supervisor 1⟩] ∧
      final.stopwatch.find? Hash.null.text = none := by
  obtain ⟨before, middle, after, final, prior, run, begin, events, checked⟩ :
      ∃ before middle after final, Run (pair quickTicks) before middle ∧ Run middle after final ∧
        before.map Moment.event = [.start 0 blankBundle, .start 1 blankBundle] ++ bothRegister ∧
        after.map Moment.event = firstWithdraws ++ [.task 0 (.granted .supervisor)] ∧ decide (
          middle.monitor.pending .null = [⟨1, .supervisor 0⟩, ⟨2, .supervisor 1⟩] ∧
          middle.stopwatch.isRunning Hash.null.text = true ∧ completed after = [] ∧
          (final.task? 1).any (fun other => other.setup.bundle = .null ∧ other.phase = .running ∧
            other.cancel = false ∧ other.supervisor = .watching 2 none) = true ∧
          final.monitor.pending .null = [⟨2, .supervisor 1⟩] ∧
          final.stopwatch.find? Hash.null.text = none) = true :=
    @exists_pair_runs (firstWithdraws ++ [.task 0 (.granted .supervisor)]) _ (by decide +kernel)
  obtain ⟨waits, ran, unconfirmed, task, pending, taken⟩ := of_decide_eq_true checked
  obtain ⟨other, present, course⟩ := (Option.any_eq_true ..).mp task
  obtain ⟨bundle, running, uncancelled, stands⟩ := of_decide_eq_true course
  have alone : ∀ moment ∈ before ++ after, moment.event.isWatchOp = false := by
    intro moment member
    have listed := List.mem_map_of_mem (f := Moment.event) member
    rw [List.map_append, begin, events] at listed
    simp only [bothRegister, firstWithdraws, List.cons_append, List.nil_append, List.mem_cons,
      List.not_mem_nil, or_false] at listed
    rcases listed with same | same | same | same | same | same | same <;> rw [same] <;> rfl
  exact ⟨before, middle, after, final, other, prior, run, alone, events, waits, ran, unconfirmed,
    present, bundle, running, uncancelled, stands, pending, taken⟩

end Inclusion.System
