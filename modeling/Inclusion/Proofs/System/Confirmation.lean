import Inclusion.Proofs.System.Polls

/-!
# What a confirmation rests on

A hash counts as confirmed if somebody has said so, or if in one poll of it the nodes have named
transactions and have then called one of those included. Nobody is told of a confirmation without
that: not those who have registered, in whatever order they come out of the line, and not the
consumer of a task, whose last update is put on its way only when the supervisor has been told.
-/

namespace Inclusion.System

/-- Somebody says that a hash is confirmed, or the feed does. -/
inductive Moment.Notifies (moment : Moment) (bundle : Hash) : Prop where
  | called (event : moment.event = .notifyConfirmed bundle)
  | noticed {text line} (event : moment.event = .feedSpoke text) (member : line ∈ Text.lines text)
      (notice : noticedBundle? line = some bundle)

/-- In one poll of a hash nodes have named transactions, and have called one of them included. -/
inductive Polled (trace : List Moment) (bundle : Hash) : Prop where
  | intro {earlier answer later poller judge hashes flags}
      (split : trace = earlier ++ answer :: later)
      (found : Found earlier poller bundle hashes judge)
      (answers : answer.Answers judge (.poller poller) (.getInclusionStates hashes) (.flags flags))
      (included : true ∈ flags)

/-- What the confirmation of a hash may rest on. -/
def Confirmed (trace : List Moment) (bundle : Hash) : Prop :=
  (∃ moment ∈ trace, moment.Notifies bundle) ∨ Polled trace bundle

variable {start final system : System} {trace : List Moment} {id : Nat} {event : Event}
  {turn : Turn} {bundle : Hash}

theorem Confirmed.mono (confirmed : Confirmed trace bundle) (more : List Moment) :
    Confirmed (trace ++ more) bundle := by
  obtain ⟨moment, member, notifies⟩ | ⟨split, found, answers, included⟩ := confirmed
  · exact .inl ⟨moment, List.mem_append_left _ member, notifies⟩
  · exact .inr ⟨by rw [split, List.append_assoc, List.cons_append], found, answers, included⟩

/-! ## What is completed -/

/-- A poller that confirms its hash has been told so by nodes. -/
theorem Polls.polled (polls : Polls trace system id) {call : Nat} {record : CallRecord}
    (found : system.call? call = some record) (owned : record.owner = some (.poller id))
    {verdict : Verdict} (decided : record.call.verdict = some verdict)
    (confirms : Monitor.Confirms system.monitor (.pollerAnswered id verdict) bundle) :
    Polled trace bundle := by
  cases confirms with
  | @polled _ poller hashes flags endpoint elapsed there stands included =>
    obtain ⟨bundle, asks, evident⟩ :=
      polls.evident record (mem_asked.mpr ⟨(mem_of_call? found).1, owned⟩)
    rw [Monitor.asking, there] at asks
    have own : (poller.bundle, Request.getInclusionStates hashes) =
        (bundle, record.call.request) := by
      simpa [Poller.inquiry?, stands] using asks
    obtain ⟨rfl, request⟩ := Prod.mk.inj own
    obtain ⟨earlier, answer, later, split, begun, answers⟩ := evident.answered _ decided
    exact ⟨split, begun hashes request.symm, request ▸ answers, included⟩

/-- What is completed at a step is confirmed. -/
theorem Attended.confirmed (attended : Attended system event turn)
    (polls : ∀ id, Polls trace system id) (sound : system.monitor.Sound)
    {item : Hash × Registration Watcher}
    (done : item ∈ Monitor.completed (monitorEffects turn.2)) :
    Confirmed (trace ++ [⟨system, event, turn.2⟩]) item.1 := by
  have notified : ∀ {moment : Moment} {bundle : Hash}, moment.Notifies bundle →
      Confirmed (trace ++ [moment]) bundle :=
    fun notifies => .inl ⟨_, List.mem_append_right _ (List.mem_singleton_self _), notifies⟩
  cases attended with
  | tended elsewhere tends =>
    obtain ⟨entries, run, seen, events⟩ := tends.moves
    obtain ⟨⟨before, now, entryEvent, effects⟩, member, confirms⟩ :=
      run.completed_inv sound (seen ▸ done)
    have commissions : Commissions system event entryEvent := events _ member
    generalize item.1 = bundle at confirms ⊢
    cases confirms with
    | notified =>
      cases commissions with
      | poller own => simp [Monitor.ownEvents] at own
      | notifyConfirmed => exact notified (.called rfl)
      | heard member notice => exact notified (.noticed rfl member notice)
    | @polled id =>
      have unreturned := @Commissions.unreturned _ id _ _ commissions elsewhere
      simp [Monitor.Event.returnsTo] at unreturned
  | @returned call record id verdict begin found owner decided delivered =>
    obtain ⟨after, move, -, seen, -⟩ := stepMonitor_eq_some delivered
    rw [(frame_setCall ..).2.2.1] at move
    have polled :=
      (polls id).polled found owner decided (move.completed_inv sound.tidy (seen ▸ done))
    exact Confirmed.mono (.inr polled) _
  | ended found opened begin after =>
    rw [after] at done
    cases done
  | @told place bundle registration begin found after =>
    rw [after, (frame_tellConfirmed _ (bundle, registration)).2.1] at done
    cases done

/-- What has been completed in a run is confirmed. -/
theorem Run.confirmed_of_completed (run : Run start trace final) (new : start.IsNew)
    (unused : start.monitor.IsNew) {item : Hash × Registration Watcher}
    (done : item ∈ completed trace) : Confirmed trace item.1 := by
  induction run with
  | refl => cases done
  | @step trace system event next effects prior stepped inductionHypothesis =>
    rw [completed_concat, List.mem_append] at done
    obtain earlier | last := done
    · exact (inductionHypothesis earlier).mono _
    · obtain ⟨entries, monitored, -⟩ := prior.monitored
      exact (attended stepped).confirmed (fun id => prior.polls new id)
        (monitored.sound unused.sound) last

/-! ## What tasks hear -/

/-- Tasks keep their settings. -/
theorem setup_kept (stepped : system.step event = some turn) {task : Task}
    (present : system.task? id = some task) :
    ∃ after, turn.1.task? id = some after ∧ after.setup = task.setup := by
  have hears : ∀ {task heard : Task}, task.Hears heard → heard.setup = task.setup := by
    intro task heard hears
    cases hears <;> rfl
  obtain ⟨taskEvent, next, effects, heard, -, carried, told, there⟩ | ⟨-, heard, told, there⟩ :=
    (touch stepped).takes present
  · exact ⟨heard, there, (hears told).trans carried.move.setup⟩
  · exact ⟨heard, there, hears told⟩

/-- A supervisor has registered for the hash of its own task. -/
theorem Run.concerned (run : Run start trace final) {item : Hash × Registration Watcher}
    (makes : item ∈ made trace) (watcher : item.2.watcher = .supervisor id) :
    ∃ task, final.task? id = some task ∧ task.setup.bundle = item.1 := by
  induction run with
  | refl => cases makes
  | @step trace system event next effects prior stepped inductionHypothesis =>
    have there : ∃ task, system.task? id = some task ∧ task.setup.bundle = item.1 := by
      rw [made_concat, List.mem_append] at makes
      obtain earlier | last := makes
      · exact inductionHypothesis earlier
      · obtain ⟨entries, run, seen, commissioned⟩ := (attended stepped).monitored
        obtain ⟨entry, member, asked⟩ := run.made_inv (seen ▸ last)
        have commissions := commissioned entry member
        rw [asked, watcher] at commissions
        generalize item.1 = bundle at commissions ⊢
        cases commissions with
        | poller own => simp [Monitor.ownEvents] at own
        | register outside => exact absurd rfl (outside id)
        | watched carries present => exact ⟨_, present, rfl⟩
    obtain ⟨task, present, same⟩ := there
    obtain ⟨after, present, setup⟩ := setup_kept stepped present
    exact ⟨after, present, by rw [setup, same]⟩

/-- A task hears of a confirmation when somebody is told whose registration it is. -/
theorem unheard_tellConfirmed {registration : Registration Watcher}
    (elsewhere : registration.watcher ≠ .supervisor id) {after : Task}
    (present : (system.tellConfirmed registration).1.task? id = some after) :
    system.task? id = some after := by
  unfold tellConfirmed at present
  split at present
  · next other watcher =>
    have different : other ≠ id := fun same => elsewhere (same ▸ watcher)
    unfold signal at present
    split at present
    · exact present
    · split at present
      · rwa [task?_setTask, if_neg different] at present
      · exact present
  · exact present
  · exact present

/-- A task hears of a confirmation when its supervisor comes out of the line. -/
theorem Run.told_of_heard (run : Run start trace final) (new : start.IsNew) {task : Task}
    (present : final.task? id = some task) (heard : task.HasHeard) :
    ∃ item ∈ told trace, item.2.watcher = .supervisor id := by
  induction run generalizing task with
  | refl => simp [task?, new.tasks] at present
  | @step trace system event next effects prior stepped inductionHypothesis =>
    -- Whoever has heard of it before has been told before.
    have before : ∀ {before : Task}, system.task? id = some before → before.HasHeard →
        ∃ item ∈ told (trace ++ [⟨system, event, effects⟩]), item.2.watcher = .supervisor id := by
      intro before there known
      obtain ⟨item, member, own⟩ := inductionHypothesis there known
      exact ⟨item, told_append .. ▸ List.mem_append_left _ member, own⟩
    have quiet : system.Quiet next →
        ∃ item ∈ told (trace ++ [⟨system, event, effects⟩]), item.2.watcher = .supervisor id := by
      intro quiet
      obtain ⟨before_task, there, heard⟩ := quiet.unheard id task present heard
      exact before there heard
    cases attended stepped with
    | tended elsewhere tends => exact quiet tends.attends.quiet
    | returned begin found owner decided delivered =>
      exact quiet ((Quiet.of_tasks (frame_setCall ..).1).trans
        (tends_stepMonitor delivered).attends.quiet)
    | ended found opened begin after =>
      obtain ⟨rfl, -⟩ := Prod.mk.inj after
      exact quiet (.of_tasks (frame_setCall ..).1)
    | @told place bundle registration begin found after =>
      by_cases own : registration.watcher = .supervisor id
      · have shown : (bundle, registration) ∈ Moment.told ⟨system, event, effects⟩ := by
          simp [Moment.told, begin, found]
        exact ⟨_, told_append .. ▸ List.mem_append_right _ (told_single _ ▸ shown), own⟩
      · let left := { system with callbacks := system.callbacks.eraseIdx place }
        have told : (left.tellConfirmed registration).1.task? id = some task := by
          rw [← after]
          exact present
        have untouched : left.task? id = some task := unheard_tellConfirmed own told
        exact before untouched heard

/-- A task that has heard of a confirmation has heard of that of its own bundle, which was
confirmed. -/
theorem Run.confirmed_of_heard (run : Run start trace final) (new : start.IsNew)
    (unused : start.monitor.IsNew) (nobody : start.callbacks = []) {task : Task}
    (present : final.task? id = some task) (heard : task.HasHeard) :
    Confirmed trace task.setup.bundle := by
  obtain ⟨item, told, own⟩ := run.told_of_heard new present heard
  -- Its registration has been completed.
  obtain ⟨-, fate, -, served, -⟩ := run.one_fate unused nobody
  have done : item ∈ completed trace := served.mem_iff.mpr (List.mem_append_left _ told)
  have makes : item ∈ made trace :=
    fate.mem_iff.mpr (List.mem_append_right _ (List.mem_append_left _ done))
  obtain ⟨same_task, there, same⟩ := run.concerned makes own
  obtain rfl := Option.some.inj (there.symm.trans present)
  exact same ▸ run.confirmed_of_completed new unused done

/-! ## No false confirmation -/

/-- Who is told of a confirmation outside comes out of the line. -/
theorem Run.told_of_shown {before after : List Moment} {moment : Moment}
    (run : Run start (before ++ moment :: after) final) :
    (∀ name, .fired name ∈ moment.effects →
        ∃ item ∈ moment.told, item.2.watcher = .callback name) ∧
      ∀ name, .waited name (.ok ()) ∈ moment.effects →
        ∃ item ∈ moment.told, item.2.watcher = .waiter name := by
  obtain ⟨-, next, stepped⟩ := run.split
  obtain ⟨-, fired, waited⟩ := (attended stepped).line
  constructor
  · intro name shown
    have shown : name ∈ fires moment.effects := List.mem_filterMap.mpr ⟨_, shown, rfl⟩
    rw [fired] at shown
    obtain ⟨item, member, same⟩ := List.mem_filterMap.mp shown
    refine ⟨item, member, ?_⟩
    unfold callback? at same
    split at same <;> simp_all
  · intro name shown
    have shown : (name, .ok ()) ∈ waits moment.effects := List.mem_filterMap.mpr ⟨_, shown, rfl⟩
    rw [waited, List.mem_append] at shown
    obtain shown | shown := shown
    · obtain ⟨item, member, same⟩ := List.mem_filterMap.mp shown
      refine ⟨item, member, ?_⟩
      unfold confirmedWait? at same
      split at same <;> simp_all
    · obtain ⟨item, -, same⟩ := List.mem_filterMap.mp shown
      unfold cancelledWait? at same
      split at same <;> simp_all

/-- The consumer of a task receives a confirmation only when the task has heard of it. -/
theorem Run.heard_of_delivered {before after : List Moment} {moment : Moment}
    (run : Run start (before ++ moment :: after) final) (new : start.IsNew) {update : Update}
    (shown : .task id (.delivered update) ∈ moment.effects) (last : update.kind = .confirm) :
    ∃ task, moment.before.task? id = some task ∧ task.HasHeard := by
  obtain ⟨prior, next, stepped⟩ := run.split
  have taken : .delivered update ∈ taskEffects id moment.effects :=
    List.mem_filterMap.mpr ⟨_, shown, by simp⟩
  cases touch stepped with
  | aside aside => simp [aside.silent id] at taken
  | started tasks new now silent => simp [silent id] at taken
  | @carried other taskEvent task after effects carries carried =>
    rw [carried.seen id] at taken
    split at taken
    · next own =>
      subst own
      obtain ⟨initial, entries, origin, follows⟩ :=
        prior.follows_new (fresh_of_no_tasks new.tasks _) carried.present
      obtain ⟨sound, running, empty, -⟩ := new_shape origin
      have flies := (carried.move.flow (follows.run.sound sound)).mem_inFlight taken
      exact ⟨task, carried.present, .inl (follows.run.confirmed_of_inFlight sound running empty
        (List.mem_append_right _ flies) last)⟩
    · cases taken

/-- Whenever in a run somebody is told of a confirmation, whoever waits for it or is the consumer of
a task, it was confirmed before: somebody has said so, or one poll of the very hash has found it so.
-/
theorem Run.no_false_confirmation {before after : List Moment} {moment : Moment}
    (run : Run start (before ++ moment :: after) final) (new : start.IsNew)
    (unused : start.monitor.IsNew) (nobody : start.callbacks = []) :
    (∀ name, .fired name ∈ moment.effects → ∃ bundle number,
        (bundle, ⟨number, .callback name⟩) ∈ moment.told ∧ Confirmed before bundle) ∧
      (∀ name, .waited name (.ok ()) ∈ moment.effects → ∃ bundle number,
        (bundle, ⟨number, .waiter name⟩) ∈ moment.told ∧ Confirmed before bundle) ∧
      (∀ item ∈ moment.told, item ∈ made before ∧ Confirmed before item.1) ∧
      ∀ id update, .task id (.delivered update) ∈ moment.effects → update.kind = .confirm →
        ∃ task, moment.before.task? id = some task ∧ Confirmed before task.setup.bundle := by
  obtain ⟨prior, next, stepped⟩ := run.split
  obtain ⟨fired, waited⟩ := run.told_of_shown
  have told : ∀ item ∈ moment.told, item ∈ made before ∧ Confirmed before item.1 := by
    intro item member
    obtain ⟨-, fate, -, served, -⟩ := prior.one_fate unused nobody
    have line : item ∈ moment.before.callbacks := by
      unfold Moment.told at member
      split at member
      · exact List.mem_of_getElem? (Option.mem_toList.mp member)
      · cases member
    have done : item ∈ completed before := served.mem_iff.mpr (List.mem_append_right _ line)
    exact ⟨fate.mem_iff.mpr (List.mem_append_right _ (List.mem_append_left _ done)),
      prior.confirmed_of_completed new unused done⟩
  refine ⟨?_, ?_, told, ?_⟩
  · intro name shown
    obtain ⟨⟨bundle, number, watcher⟩, member, rfl⟩ := fired name shown
    exact ⟨bundle, number, member, (told _ member).2⟩
  · intro name shown
    obtain ⟨⟨bundle, number, watcher⟩, member, rfl⟩ := waited name shown
    exact ⟨bundle, number, member, (told _ member).2⟩
  · intro id update shown last
    obtain ⟨task, present, heard⟩ := run.heard_of_delivered new shown last
    exact ⟨task, present, prior.confirmed_of_heard new unused nobody present heard⟩

/-- Whether somebody says at a moment that a hash is confirmed, or the feed speaks. -/
def Moment.isNotice (moment : Moment) : Bool :=
  match moment.event with
  | .notifyConfirmed _ | .feedSpoke _ => true
  | _ => false

theorem Moment.Notifies.isNotice {moment : Moment} (notifies : moment.Notifies bundle) :
    moment.isNotice = true := by
  cases notifies with
  | called event | noticed event => rw [Moment.isNotice, event]

/-- Somebody waits for a hash until a node names a transaction of it and calls that included. -/
def onePoll : List Event :=
  [.register .null (.waiter 7), .poller (.pollerEntered 1), .timePassed 30_000_000_000,
    .poller (.pollerElapsed 1), .poller (.pollerLooked 1),
    .legEnded 0 0 (.replied (.hashes [otherHash])), .callReturned 0,
    .legEnded 1 0 (.replied (.flags [true])), .callReturned 1]

/-- The wait ends well, and since nobody has said anything it is the poll that this rests on. -/
theorem no_false_confirmation_onePoll : ∃ before moment final,
    Run (idle quickTicks) (before ++ [moment]) final ∧ .waited 7 (.ok ()) ∈ moment.effects ∧
      (∀ earlier ∈ before, earlier.isNotice = false) ∧ Polled before .null := by
  obtain ⟨before, middle, prior, checked⟩ : ∃ before middle,
      Run (idle quickTicks) before middle ∧
        decide (middle.callbacks = [(.null, ⟨1, .waiter 7⟩)] ∧
          ∀ earlier ∈ before, earlier.isNotice = false) = true :=
    @exists_replayed_run onePoll _ _ (by decide)
  obtain ⟨line, silent⟩ := of_decide_eq_true checked
  have stepped : middle.step .callbackRun =
      some ({ middle with callbacks := [] }, [.waited 7 (.ok ())]) := by
    simp [step, line, tellConfirmed]
  have run := prior.step stepped
  have shown : Effect.waited 7 (.ok ()) ∈ [Effect.waited 7 (.ok ())] := List.mem_singleton_self _
  obtain ⟨-, waited, -⟩ := run.no_false_confirmation (isNew_idle _) ⟨rfl, rfl, rfl⟩ rfl
  obtain ⟨bundle, number, told, confirmed⟩ := waited 7 shown
  obtain ⟨rfl, -⟩ : bundle = .null ∧ number = 1 := by simpa [Moment.told, line] using told
  refine ⟨before, _, _, run, shown, silent, confirmed.resolve_left ?_⟩
  rintro ⟨moment, member, notifies⟩
  exact Bool.false_ne_true ((silent moment member).symm.trans notifies.isNotice)

end Inclusion.System
