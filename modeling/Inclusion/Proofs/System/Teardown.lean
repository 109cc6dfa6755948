import Inclusion.Proofs.System.Updates
import Inclusion.Proofs.System.Waiting

/-!
# How a task comes to its end in a system

Once a task is cancelled or its supervisor told of the confirmation, it comes to its end. When the
system is settled before, a loop of the task waits for a node or for its consumer, in either case
until a deadline; and no loop is left asleep, or in line for the lock behind nobody.

Each such wait brings the task nearer to its end, and there are twenty-six steps to it at most. So a
task is over when twenty-six times the longest wait has passed.
-/

namespace Inclusion

/-- A signal does not tell a task to go on. -/
theorem Task.Hears.isCalledOff {task heard : Task} (hears : task.Hears heard)
    (called_off : task.isCalledOff = true) : heard.isCalledOff = true := by
  cases hears with
  | nothing => exact called_off
  | signal stands =>
    simp only [Task.isCalledOff, stands, Supervisor.isTold, Bool.or_eq_true] at called_off ⊢
    exact called_off.imp_left (by simp)

/-- A supervisor that is on its way to the end hears no signal any more. -/
theorem Task.Hears.ending {task heard : Task} (hears : task.Hears heard) :
    heard.supervisor.isEnding = task.supervisor.isEnding ∧
      (task.supervisor.isEnding = true → heard = task) := by
  cases hears with
  | nothing => exact ⟨rfl, fun _ => rfl⟩
  | signal stands => simp [stands, Supervisor.isEnding]

namespace System

/-- A loop of a task waits for a node, whose time is not up. -/
def AwaitsNode (system : System) (id : Nat) (party : Party) : Prop :=
  ∃ record ∈ system.asked (.loop id party), record.call.verdict = none ∧
    ∃ leg ∈ record.call.legs, system.now < leg.deadline record.call.started

/-- A loop of a task waits with an update for its consumer, and its time is not up. -/
def AwaitsConsumer (system : System) (id : Nat) (party : Party) : Prop :=
  ∃ task update deadline, system.task? id = some task ∧
    task.waiting? party = some (update, deadline) ∧ system.now < deadline

/-- No node of the clients, and no consumer of a task, has more time than so many nanoseconds. -/
structure GivesTime (system : System) (task : Task) (limit : Nat) : Prop where
  nodes : ∀ client ∈ system.clients, ∀ endpoint ∈ client.set.endpoints,
    endpoint.timeout.nanoseconds ≤ limit
  consumer : task.setup.sendTimeout ≤ limit

/-- A task on its way to the end is there at a given moment at the latest, if no wait is longer than
a given time: as many waits as it has steps before it end by then. -/
structure Nears (system : System) (id : Nat) (task : Task) (limit last : Nat) : Prop where
  now : system.now + task.distance * limit ≤ last + limit
  calls : ∀ party, ∀ record ∈ system.asked (.loop id party),
    record.call.started + task.distance * limit ≤ last
  waits : ∀ party update deadline, task.waiting? party = some (update, deadline) →
    deadline + task.distance * limit ≤ last + limit

/-- What has become of a task since it was to end. -/
inductive Closes (system : System) (id : Nat) (task : Task) (limit begun : Nat) : Prop where
  | ended (past : task.isOver = true)
  /-- The supervisor has not noticed yet, and no time has passed. -/
  | unnoticed (unseen : task.supervisor.isEnding = false) (called_off : task.isCalledOff = true)
      (now : system.now = begun)
  | nearing (ending : task.supervisor.isEnding = true) (called_off : task.isCalledOff = true)
      (nears : system.Nears id task limit (begun + 26 * limit))

variable {start system next final last : System} {trace after : List Moment} {id limit begun : Nat}
  {task heard : Task} {party : Party} {event : Event} {turn : Turn}

/-! ## Settled systems -/

/-- In a settled system, whoever waits for a call waits for a node, and no node's time is up. -/
theorem pending_of_settled (settled : system.isSettled = true) {record : CallRecord}
    (member : record ∈ system.calls) :
    (record.owner.isSome = true → record.call.verdict = none) ∧
      ∀ leg ∈ record.call.legs, system.now < leg.deadline record.call.started := by
  simp only [isSettled, nextEvent?, nextExpiry?, Bool.and_eq_true, Option.isNone_iff_eq_none,
    Option.or_eq_none_iff, Option.map_eq_none_iff, List.head?_eq_none_iff] at settled
  obtain ⟨⟨-, -, none_returns⟩, none_expires⟩ := settled
  refine ⟨fun owned => ?_, fun leg open_leg => ?_⟩
  · have waits := List.filterMap_eq_nil_iff.mp none_returns record member
    simpa [owned] using waits
  · have punctual := List.flatMap_eq_nil_iff.mp none_expires record member
    rw [List.map_eq_nil_iff, List.filter_eq_nil_iff] at punctual
    simpa using punctual leg open_leg

/-- When a system is settled, a loop that waits for a node waits for one whose time is not up. -/
theorem awaitsNode_of_settled (timely : system.Timely) (settled : system.isSettled = true)
    (present : system.task? id = some task) (asking : task.isAsking party = true) :
    system.AwaitsNode id party := by
  obtain ⟨record, member, owned⟩ := timely.asks id party task present asking
  obtain ⟨undecided, punctual⟩ := pending_of_settled settled member
  have undecided := undecided (by simp [owned])
  obtain ⟨leg, open_leg⟩ :=
    List.exists_mem_of_ne_nil _ ((timely.calls record member).opened undecided)
  exact ⟨record, mem_asked.mpr ⟨member, owned⟩, undecided, leg, open_leg, punctual leg open_leg⟩

/-- What a loop waits for that works with the lock, or keeps the supervisor waiting. -/
theorem awaits_of_settled (timely : system.Timely) (settled : system.isSettled = true)
    (present : system.task? id = some task)
    (waits : task.isAsking party = true ∨ ∃ update deadline,
      task.waiting? party = some (update, deadline) ∧ system.now < deadline) :
    system.AwaitsNode id party ∨ system.AwaitsConsumer id party := by
  obtain asking | ⟨update, deadline, waits, later⟩ := waits
  · exact .inl (awaitsNode_of_settled timely settled present asking)
  · exact .inr ⟨task, update, deadline, present, waits, later⟩

/-- When a system is settled, a task that is to end and is not over waits for a node or for its
consumer. -/
theorem awaits_of_unfinished (timely : system.Timely) (settled : system.isSettled = true)
    (sound : task.Sound) (present : system.task? id = some task)
    (called_off : task.isCalledOff = true) (unfinished : task.isOver = false) :
    ∃ party, system.AwaitsNode id party ∨ system.AwaitsConsumer id party := by
  obtain ⟨party, waits⟩ :=
    Task.waits_of_settled sound (task_isSettled present settled) called_off unfinished
  exact ⟨party, awaits_of_settled timely settled present waits⟩

/-- The time that a loop waits for its consumer is among those that time does not pass. -/
theorem mem_deadlines_of_waiting (present : system.task? id = some task) {update : Update}
    {deadline : Nat} (waits : task.waiting? party = some (update, deadline)) :
    deadline ∈ system.deadlines := by
  obtain ⟨record, found, rfl⟩ := Option.map_eq_some_iff.mp present
  have own : deadline ∈ record.task.deadlines := by
    obtain ⟨kind, rfl, ⟨stage, stands⟩ | ⟨other, failed, time, stands⟩⟩ |
      ⟨rfl, other, time, stands⟩ := Task.works_of_holding (Task.holding_of_waiting waits)
    · rw [Task.waiting_party, stands] at waits
      cases waits
    · rw [Task.waiting_party, stands] at waits
      obtain ⟨rfl, rfl⟩ := Prod.mk.inj (Option.some.inj waits)
      cases kind <;> simp_all [Task.deadlines, Task.attempter]
    · rw [Task.waiting?, stands] at waits
      obtain ⟨rfl, rfl⟩ := Prod.mk.inj (Option.some.inj waits)
      simp [Task.deadlines, stands]
  exact List.mem_append_left _ (List.mem_append_left _
    (List.mem_flatMap.mpr ⟨record, List.mem_of_getElem? found, own⟩))

theorem mem_deadlines_of_leg {record : CallRecord} (member : record ∈ system.calls) {leg : Leg}
    (open_leg : leg ∈ record.call.legs) :
    leg.deadline record.call.started ∈ system.deadlines :=
  List.mem_append_right _ (List.mem_flatMap.mpr
    ⟨record, member, List.mem_map.mpr ⟨leg, open_leg, rfl⟩⟩)

/-! ## How long it takes -/

/-- A task that is noticed to end has all its steps before it, and nobody waits yet for longer than
one wait. -/
theorem nears_of_noticed (timely : next.Timely) (gives : next.GivesTime heard limit)
    (present : next.task? id = some heard) (ending : heard.supervisor.isEnding = true) :
    next.Nears id heard limit (next.now + 26 * limit) := by
  have steps : heard.distance * limit ≤ 26 * limit :=
    Nat.mul_le_mul_right limit (Task.distance_le ending)
  refine ⟨by omega, ?_, ?_⟩
  · intro party record member
    have started := (timely.calls record (mem_asked.mp member).1).started
    omega
  · intro party update deadline waits
    have bound := timely.waits id party heard update deadline present waits
    have consumer := gives.consumer
    omega

/-- Time does not pass the end of the wait of a task on its way to the end. -/
theorem Nears.waited (nears : system.Nears id task limit begun) (timely : system.Timely)
    (sound : task.Sound) (gives : system.GivesTime task limit)
    (present : system.task? id = some task) (called_off : task.isCalledOff = true)
    (unfinished : task.isOver = false) (settled : system.isSettled = true) {now : Nat}
    (due : ∀ deadline ∈ system.deadlines, now ≤ deadline) :
    now + task.distance * limit ≤ begun + limit := by
  obtain ⟨party, ⟨record, member, -, leg, open_leg, -⟩ |
    ⟨same, update, deadline, there, waits, -⟩⟩ :=
    awaits_of_unfinished timely settled sound present called_off unfinished
  · obtain ⟨among, -⟩ := mem_asked.mp member
    have wait := due _ (mem_deadlines_of_leg among open_leg)
    have started := nears.calls party record member
    obtain ⟨client, listed, legs⟩ := (timely.calls record among).legs
    have time := gives.nodes client listed _ (Client.endpoint_of_legs (legs open_leg))
    have bound : leg.deadline record.call.started =
        record.call.started + leg.endpoint.timeout.nanoseconds := rfl
    omega
  · obtain rfl := Option.some.inj (present.symm.trans there)
    have wait := due _ (mem_deadlines_of_waiting present waits)
    have bound := nears.waits party update deadline waits
    omega

/-- A step of the task brings it nearer by the length of a wait, if it makes a loop wait anew. -/
theorem Nears.moved (nears : system.Nears id task limit begun) (sound : task.Sound)
    (gives : system.GivesTime task limit) {event : Task.Event} {effects : List Task.Effect}
    {next : System} (now : next.now = system.now)
    (move : Task.Move system.surroundings task event (heard, effects))
    (ending : task.supervisor.isEnding = true)
    (calls : ∀ party, ∀ record ∈ next.asked (.loop id party),
      (∃ earlier ∈ system.asked (.loop id party), earlier.call.started = record.call.started) ∨
        event.party? = some party ∧ record.call.started = system.now) :
    next.Nears id heard limit begun := by
  have step : heard.distance + (!event.isOutside).toNat ≤ task.distance :=
    move.distance sound ending
  have nearer : heard.distance * limit ≤ task.distance * limit :=
    Nat.mul_le_mul_right limit (by omega)
  have by_wait : event.isOutside = false →
      heard.distance * limit + limit ≤ task.distance * limit := by
    intro inside
    rw [inside] at step
    have steps := Nat.mul_le_mul_right limit step
    simp only [Bool.not_false, Bool.toNat_true, Nat.add_mul, Nat.one_mul] at steps
    exact steps
  have before := nears.now
  refine ⟨by omega, ?_, ?_⟩
  · intro party record member
    obtain ⟨earlier, there, same⟩ | ⟨own, started⟩ := calls party record member
    · have bound := nears.calls party earlier there
      omega
    · have steps := by_wait (Task.Event.inside own)
      omega
  · intro party update deadline waits
    obtain earlier | ⟨inside, bound⟩ := move.waiting_le waits
    · have bound := nears.waits party update deadline earlier
      omega
    · have steps := by_wait inside
      have consumer := gives.consumer
      have bound : deadline ≤ system.now + task.setup.sendTimeout := bound
      omega

/-- Whatever else happens leaves the task where it is. -/
theorem Nears.spared (nears : system.Nears id task limit begun) (now : next.now = system.now)
    (calls : ∀ party, ∀ record ∈ next.asked (.loop id party),
      ∃ earlier ∈ system.asked (.loop id party), earlier.call.started = record.call.started) :
    next.Nears id task limit begun := by
  refine ⟨now ▸ nears.now, fun party record member => ?_, nears.waits⟩
  obtain ⟨earlier, there, same⟩ := calls party record member
  exact same ▸ nears.calls party earlier there

theorem Closes.step (closes : system.Closes id task limit begun)
    (befalls : system.Befalls id task next) (present : system.task? id = some task)
    (there : next.task? id = some heard) (sound : task.Sound) (timely : system.Timely)
    (timely_after : next.Timely) (gives : system.GivesTime task limit)
    (gives_after : next.GivesTime heard limit) : next.Closes id heard limit begun := by
  cases closes with
  | ended past =>
    refine .ended ?_
    cases befalls with
    | waited settled forward due after =>
      subst after
      obtain rfl := Option.some.inj (present.symm.trans there)
      exact past
    | spared now found hears =>
      obtain rfl := Option.some.inj (there.symm.trans found)
      exact hears.isOver.trans past
    | moved now move found hears =>
      obtain rfl := Option.some.inj (there.symm.trans found)
      exact hears.isOver.trans (move.isOver past)
  | unnoticed unseen called_off begins =>
    cases befalls with
    | waited settled =>
      -- A settled task has noticed, so no time passes before.
      have noticed := Task.isEnding_of_settled (task_isSettled present settled) called_off
      exact nomatch noticed.symm.trans unseen
    | spared now found hears =>
      obtain rfl := Option.some.inj (there.symm.trans found)
      exact .unnoticed (hears.ending.1.trans unseen) (hears.isCalledOff called_off)
        (now.trans begins)
    | moved now move found hears =>
      obtain rfl := Option.some.inj (there.symm.trans found)
      have called_off := hears.isCalledOff (move.isCalledOff called_off)
      cases ending : heard.supervisor.isEnding with
      | false => exact .unnoticed ending called_off (now.trans begins)
      | true =>
        have nears := nears_of_noticed timely_after gives_after there ending
        rw [now, begins] at nears
        exact .nearing ending called_off nears
  | nearing ending called_off nears =>
    cases befalls with
    | @waited later settled forward due after =>
      subst after
      obtain rfl := Option.some.inj (present.symm.trans there)
      cases past : task.isOver with
      | true => exact .ended past
      | false =>
        have waited := nears.waited timely sound gives present called_off past settled due
        exact .nearing ending called_off ⟨waited, nears.calls, nears.waits⟩
    | spared now found hears calls =>
      obtain rfl := Option.some.inj (there.symm.trans found)
      obtain rfl := hears.ending.2 ending
      exact .nearing ending called_off (nears.spared now calls)
    | @moved taskEvent after effects other now move found hears calls =>
      obtain rfl := Option.some.inj (there.symm.trans found)
      have ending_after : after.supervisor.isEnding = true := move.course.isEnding ending
      obtain rfl := hears.ending.2 ending_after
      exact .nearing ending_after (move.isCalledOff called_off)
        (nears.moved sound gives now move ending calls)

/-- Unless it is over, no more time has passed than its steps allow. -/
theorem Closes.now_le (closes : system.Closes id task limit begun) :
    task.isOver = true ∨ system.now ≤ begun + 26 * limit := by
  cases closes with
  | ended past => exact .inl past
  | unnoticed unseen called_off now => exact .inr (by omega)
  | nearing ending called_off nears =>
    cases past : task.isOver with
    | true => exact .inl rfl
    | false =>
      have steps : limit ≤ task.distance * limit :=
        Nat.le_mul_of_pos_left limit (Task.distance_pos past)
      have now := nears.now
      exact .inr (by omega)

/-! ## Runs -/

/-- Clients are never added. -/
theorem Progress.clients (progress : Progress system event turn) :
    turn.1.clients = system.clients := by
  cases progress with
  | waited settled forward due after => rw [after]
  | overflowed shown after => exact after ▸ rfl
  | kept frames => exact frames.clients
  | worked carries found move frames => exact frames.clients
  | started found free new now clients => exact clients

theorem Befalls.there (befalls : system.Befalls id task next)
    (present : system.task? id = some task) :
    ∃ heard, next.task? id = some heard ∧ heard.setup = task.setup := by
  cases befalls with
  | waited settled forward due after => exact ⟨task, after ▸ present, rfl⟩
  | spared now found hears => exact ⟨_, found, hears.waits.1⟩
  | moved now move found hears => exact ⟨_, found, hears.waits.1.trans move.setup⟩

/-- The parts of a task agree throughout. -/
theorem Run.sound (run : Run start trace final) (new : start.IsNew)
    (present : final.task? id = some task) : task.Sound := by
  obtain ⟨initial, entries, fresh, follows⟩ :=
    run.follows_new (fresh_of_no_tasks new.tasks id) present
  exact follows.run.sound (new_shape fresh).1

/-- A task that is to end is over when the longest wait has passed as many times as the task has
steps before it at most. -/
theorem Run.closes (run : Run start trace final) (fresh : start.IsSetUp)
    (present : final.task? id = some task) (called_off : task.isCalledOff = true)
    (gives : final.GivesTime task limit) (later : Run final after last) :
    ∃ heard, last.task? id = some heard ∧ last.GivesTime heard limit ∧
      last.Closes id heard limit final.now := by
  induction later with
  | refl =>
    refine ⟨task, present, gives, ?_⟩
    cases ending : task.supervisor.isEnding with
    | false => exact .unnoticed ending called_off rfl
    | true =>
      exact .nearing ending called_off
        (nears_of_noticed (run.timely fresh) gives present ending)
  | @step after system event next effects prior stepped inductionHypothesis =>
    obtain ⟨middle, there, gives, closes⟩ := inductionHypothesis
    have whole := run.trans prior
    have progress := progress (whole.converses fresh.toIsNew).numbered stepped
    have befalls := progress.befalls (whole.employs fresh).1 there
    obtain ⟨heard, found, setup⟩ := befalls.there there
    have gives_after : next.GivesTime heard limit :=
      ⟨progress.clients ▸ gives.nodes, setup ▸ gives.consumer⟩
    refine ⟨heard, found, gives_after, closes.step befalls there found
      (whole.sound fresh.toIsNew there) (whole.timely fresh)
      ((whole.step stepped).timely fresh) gives gives_after⟩

/-- A task that is cancelled, or whose supervisor has been told of the confirmation, does not get
stuck. As long as it is not over, a settled system waits for one of its node calls or for its
consumer, in either case until a deadline. When nothing of it is waited for, all its loops have
ended, and its engine is at work on a later task only, if at all; it is running without a task only
if a later start of it broke off because a time computed from its settings does not exist. Whoever
is in line for the lock then stands behind a loop that waits so, and nobody is asleep who has been
told to end.

So the task is over when twenty-six times the longest wait has passed, and it takes no more than
twenty-six steps once the supervisor has noticed, apart from what comes from outside. -/
theorem Run.teardown (run : Run start trace final) (fresh : start.IsSetUp) {engine : Nat}
    (own : final.engine? id = some engine) (present : final.task? id = some task)
    (called_off : task.isCalledOff = true) :
    (final.isSettled = true →
      (task.isOver = false → ∃ party, final.AwaitsNode id party ∨ final.AwaitsConsumer id party) ∧
      ((∀ party, ¬final.AwaitsNode id party ∧ ¬final.AwaitsConsumer id party) →
        task.isOver = true ∧ task.workersDone = true ∧ (final.isRunning engine = true →
          (∃ later > id, final.WorksOn engine later) ∨ Overflowed trace engine)) ∧
      (∀ party, task.standing party = .waiting → ∃ other, task.standing other = .holding ∧
        (final.AwaitsNode id other ∨ final.AwaitsConsumer id other)) ∧
      (task.stop = true → ∀ wake, task.checker ≠ .sleeping wake ∧
        ∀ kind pause, task.attempter kind ≠ .sleeping pause wake)) ∧
    ∀ limit, final.GivesTime task limit → ∀ after last, Run final after last →
      ∃ heard entries, last.task? id = some heard ∧ Follows id after task entries heard ∧
        (heard.isOver = true ∨ last.now ≤ final.now + 26 * limit) ∧
        (task.supervisor.isEnding = true →
          (entries.countP fun entry => !entry.event.isOutside) ≤ 26) := by
  have sound := run.sound fresh.toIsNew present
  have timely := run.timely fresh
  obtain ⟨-, employs⟩ := run.employs fresh
  refine ⟨fun settled => ?_, ?_⟩
  · have rests : task.isSettled final.surroundings = true := task_isSettled present settled
    have held_up := awaits_of_unfinished timely settled sound present called_off
    refine ⟨held_up, ?_, ?_, Task.awake_of_settled rests⟩
    · intro free
      have past : task.isOver = true := by
        refine eq_true_of_ne_false fun unfinished => ?_
        obtain ⟨party, waits⟩ := held_up unfinished
        exact waits.elim (free party).1 (free party).2
      exact ⟨past, sound.last (of_decide_eq_true past), employs.later own present past⟩
    · intro party waits
      obtain ⟨other, -, holds⟩ := Task.exists_holding_of_settled sound rests waits
      exact ⟨other, holds, awaits_of_settled timely settled present
        (Task.waits_of_holding rests holds)⟩
  · intro limit gives after last later
    obtain ⟨heard, there, -, closes⟩ := run.closes fresh present called_off gives later
    obtain ⟨entries, same, follows, found⟩ := later.follows present
    obtain rfl := Option.some.inj (there.symm.trans found)
    refine ⟨heard, entries, there, follows, closes.now_le, fun ending => ?_⟩
    have steps := follows.run.steps_le sound ending
    have bound := Task.distance_le ending
    omega

theorem isSetUp_idle (config : ConfirmerConfig) : (idle config).IsSetUp where
  __ := isNew_idle config
  roles := by
    rintro engine member role
    obtain rfl := List.mem_singleton.mp member
    cases role <;> exact Nat.zero_lt_one
  handles := by
    rintro client member
    obtain rfl := List.mem_singleton.mp member
    rfl
  idle := by
    rintro engine member
    obtain rfl := List.mem_singleton.mp member
    rfl

/-- A run of the small system up to a cancellation during a promotion, while the other loop waits
for the lock, as the supervisor does then. -/
def cancelledPromoting : List Event :=
  [.task 0 (.entered .checker), .task 0 (.granted .checker), .task 0 (.entered .promoter),
    .task 0 (.entered .reattacher), .task 0 (.entered .supervisor), .poller (.pollerEntered 1),
    .timePassed 100_000_000, .task 0 (.elapsed .promoter), .task 0 (.granted .promoter),
    .task 0 (.elapsed .reattacher), .cancel 0, .task 0 .cancelSeen, .poller (.pollerWoken 1),
    .poller (.pollerLooked 1), .poller (.pollerLeft 1)]

/-- The promotion waits for a node, and at the latest after twenty-six minutes the task is over. -/
theorem teardown_cancelledPromoting : ∃ trace final task, Run (idle quickTicks) trace final ∧
    final.task? 0 = some task ∧ task.isOver = false ∧ final.isSettled = true ∧
      task.standing .supervisor = .waiting ∧
      (∃ other, task.standing other = .holding ∧
        (final.AwaitsNode 0 other ∨ final.AwaitsConsumer 0 other)) ∧
      ∀ after last, Run final after last → ∃ heard, last.task? 0 = some heard ∧
        (heard.isOver = true ∨ last.now ≤ 100_000_000 + 26 * 60_000_000_000) := by
  obtain ⟨trace, final, task, run, present, checked⟩ :
      ∃ trace final task, Run (idle quickTicks) (startMoment quickTicks :: trace) final ∧
        final.task? 0 = some task ∧ decide (
          (task.isOver = false ∧ final.isSettled = true ∧ task.standing .supervisor = .waiting) ∧
          (final.engine? 0 = some 0 ∧ task.isCalledOff = true ∧ final.now = 100_000_000) ∧
          (∀ client ∈ final.clients, ∀ endpoint ∈ client.set.endpoints,
            endpoint.timeout.nanoseconds ≤ 60_000_000_000) ∧
          task.setup.sendTimeout ≤ 60_000_000_000) = true :=
    @exists_engaged_run quickTicks (.ofSeconds 900) cancelledPromoting _ (by decide) (by decide)
      (by decide +kernel)
  obtain ⟨⟨unfinished, settled, waits⟩, ⟨own, called_off, now⟩, nodes, consumer⟩ :=
    of_decide_eq_true checked
  obtain ⟨rests, ends⟩ := run.teardown (isSetUp_idle _) own present called_off
  refine ⟨_, final, task, run, present, unfinished, settled, waits,
    (rests settled).2.2.1 .supervisor waits, fun after last later => ?_⟩
  obtain ⟨heard, -, there, -, bound, -⟩ := ends 60_000_000_000 ⟨nodes, consumer⟩ after last later
  exact ⟨heard, there, now ▸ bound⟩

end System

end Inclusion
