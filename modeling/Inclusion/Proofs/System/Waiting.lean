import Inclusion.Proofs.Client
import Inclusion.Proofs.System.Engines
import Inclusion.Proofs.Task.Teardown

/-!
# How long the loops of a task wait

A loop that waits for a node has a call under way, because the clients of its engine are there. As
long as the call is undecided it has an open leg, and the time of every leg comes to its end. A loop
that waits for its consumer waits no longer than the settings of its task say. `Timely` says this of
all loops of a system, and holds throughout.
-/

namespace Inclusion

/-- A call that has begun, to nodes of one of the given clients. It is decided or has a leg open. -/
structure CallRecord.IsTimely (clients : List Client) (now : Nat) (record : CallRecord) : Prop where
  started : record.call.started ≤ now
  legs : ∃ client ∈ clients, record.call.legs ⊆ client.legs
  opened : record.call.IsOpen

theorem CallRecord.IsTimely.goesOn {clients : List Client} {now : Nat} {earlier later : CallRecord}
    (timely : earlier.IsTimely clients now) (goes_on : earlier.GoesOn later) :
    later.IsTimely clients now := by
  obtain ⟨started, ⟨client, there, legs⟩, opened⟩ := timely
  exact ⟨goes_on.started ▸ started, ⟨client, there, List.Subset.trans goes_on.legs legs⟩,
    goes_on.opened opened⟩

/-- A signal of the monitor makes no difference to what the loops of a task wait for. -/
theorem Task.Hears.waits {task heard : Task} (hears : task.Hears heard) :
    heard.setup = task.setup ∧ heard.isAsking = task.isAsking ∧ heard.waiting? = task.waiting? := by
  cases hears with
  | nothing => exact ⟨rfl, rfl, rfl⟩
  | signal stands =>
    refine ⟨rfl, funext fun party => ?_, funext fun party => ?_⟩
    · cases party <;> rfl
    · cases party with
      | supervisor => simp [Task.waiting?, stands, Supervisor.waiting?]
      | checker | promoter | reattacher => rfl

/-- No loop of a task that is started waits for anything. -/
theorem Task.IsNew.waits {task : Task} (new : task.IsNew) (party : Party) :
    task.isAsking party = false ∧ task.waiting? party = none := by
  obtain ⟨setup, tail, trytes, now, forced, rfl⟩ := new
  cases party <;> exact ⟨rfl, rfl⟩

namespace System

/-- What a step of a system is to one of its tasks, and to the calls that its loops wait for. -/
inductive Befalls (system : System) (id : Nat) (task : Task) (next : System) : Prop where
  | waited {now} (settled : system.isSettled = true) (forward : system.now ≤ now)
      (due : ∀ deadline ∈ system.deadlines, now ≤ deadline) (after : next = { system with now })
  | spared {heard} (now : next.now = system.now) (present : next.task? id = some heard)
      (hears : task.Hears heard)
      (calls : ∀ party, ∀ record ∈ next.asked (.loop id party), ∃ earlier ∈
        system.asked (.loop id party), earlier.call.started = record.call.started)
      (asks : ∀ party, system.Asks (.loop id party) → next.Asks (.loop id party))
  | moved {event after effects heard} (now : next.now = system.now)
      (move : Task.Move system.surroundings task event (after, effects))
      (present : next.task? id = some heard) (hears : after.Hears heard)
      (calls : ∀ party, ∀ record ∈ next.asked (.loop id party),
        (∃ earlier ∈ system.asked (.loop id party),
          earlier.call.started = record.call.started) ∨
        event.party? = some party ∧ record.call.started = system.now)
      (asks : ∀ party, system.Asks (.loop id party) →
        event.isReturn = true ∧ event.party? = some party ∨ next.Asks (.loop id party))
      (called : ∀ party role request, .call party role request ∈ effects →
        next.Asks (.loop id party))

/-- Every loop that waits for a node has a call under way, and no loop waits for its consumer longer
than the settings of its task say. -/
structure Timely (system : System) : Prop where
  calls : ∀ record ∈ system.calls, record.IsTimely system.clients system.now
  asks : ∀ id party task, system.task? id = some task → task.isAsking party = true →
    system.Asks (.loop id party)
  waits : ∀ id party task update deadline, system.task? id = some task →
    task.waiting? party = some (update, deadline) →
      deadline ≤ system.now + task.setup.sendTimeout

variable {start system next final : System} {trace : List Moment} {id : Nat} {task : Task}
  {party : Party} {event : Event} {turn : Turn} {begins returns : Owner → Prop}
  {engines : List Engine}

/-! ## What befalls a task -/

/-- The calls that somebody waits for after a turn are earlier ones, or begin in it. -/
theorem Frames.asked (frames : system.Frames begins returns engines next) {owner : Owner}
    {record : CallRecord} (member : record ∈ next.asked owner) :
    (∃ earlier ∈ system.asked owner, earlier.call.started = record.call.started) ∨
      begins owner ∧ record.call.started = system.now := by
  obtain ⟨there, owned⟩ := mem_asked.mp member
  obtain ⟨earlier, origin, goes_on⟩ := frames.calls record there
  have belongs : earlier.owner = some owner := by
    obtain same | unowned := goes_on.owner
    · exact same.symm.trans owned
    · exact nomatch unowned.symm.trans owned
  obtain earlier_there | ⟨⟨other, allowed, own⟩, client, -, request, called⟩ := origin
  · exact .inl ⟨earlier, mem_asked.mpr ⟨earlier_there, belongs⟩, goes_on.started.symm⟩
  · obtain rfl := Option.some.inj (own.symm.trans belongs)
    refine .inr ⟨allowed, goes_on.started.trans ?_⟩
    rw [called]
    rfl

/-- A turn in which calls of a task neither begin nor return. Other tasks may have moved before. -/
theorem Frames.spared {middle : System} (frames : middle.Frames begins returns engines next)
    (now : middle.now = system.now) (calls : middle.calls = system.calls)
    (present : middle.task? id = some task) (unbegun : ∀ party, ¬begins (.loop id party))
    (unreturned : ∀ party, ¬returns (.loop id party)) : system.Befalls id task next := by
  have same : ∀ owner, middle.asked owner = system.asked owner := asked_congr calls
  obtain ⟨heard, hears, there⟩ := frames.hears.told id task present
  refine .spared (frames.now.trans now) there hears (fun party record member => ?_)
    fun party asks => ?_
  · rw [← same]
    exact (frames.asked member).resolve_right fun begun => unbegun party begun.1
  · exact (frames.asks _ ((asks_congr calls _).mpr asks)).resolve_left (unreturned party)

/-- Every step of a system lets time pass, spares a task or moves it. -/
theorem Progress.befalls (progress : Progress system event turn) (staffed : system.IsStaffed)
    (present : system.task? id = some task) : system.Befalls id task turn.1 := by
  have unmoved : turn.1.now = system.now → turn.1.task? id = some task →
      turn.1.calls = system.calls → system.Befalls id task turn.1 := by
    intro now there calls
    refine .spared now there .nothing (fun party record member => ⟨record, ?_, rfl⟩) fun party => ?_
    · rwa [← asked_congr calls]
    · exact (asks_congr calls (.loop id party)).mpr
  cases progress with
  | waited settled forward due after => exact .waited settled forward due after
  | kept frames =>
    exact frames.spared rfl rfl present (fun party outside => outside id party rfl)
      fun party outside => outside id party rfl
  | @worked other taskEvent record next effects carries found move frames called =>
    by_cases same : other = id
    · subst same
      obtain rfl := Option.some.inj (present.symm.trans (task?_of_record found))
      have placed : (system.setTask other next).task? other = some next := by
        simp [task?_setTask, present]
      obtain ⟨heard, hears, there⟩ := frames.hears.told other next placed
      have manned : system.IsManned record.engine :=
        staffed.manned _ (staffed.crew other _ (engine?_of_record found))
      have own : ∀ {party}, Concerns other taskEvent (.loop other party) →
          taskEvent.party? = some party := by
        rintro party ⟨_, addressed, ⟨⟩⟩
        exact addressed
      refine .moved frames.now move there hears ?_ ?_ (called manned)
      · intro party record member
        refine (frames.asked member).imp_right fun ⟨begun, now⟩ => ⟨?_, now⟩
        exact own (begun.resolve_left fun outside => outside other party rfl)
      · intro party asks
        exact (frames.asks _ asks).imp_left fun ⟨returned, concerned⟩ => ⟨returned, own concerned⟩
    · have placed : (system.setTask other next).task? id = some task := by
        simp [task?_setTask, same, present]
      have elsewhere : ∀ party, ¬Concerns other taskEvent (.loop id party) := by
        rintro party ⟨_, -, ⟨⟩⟩
        exact same rfl
      exact frames.spared rfl rfl placed (fun party begun =>
        begun.elim (fun outside => outside id party rfl) (elsewhere party))
        fun party returned => elsewhere party returned.2
  | started found free new now clients calls engines tasks =>
    refine unmoved now ?_ calls
    rw [task?_concat tasks, if_neg (ne_of_present present), present]
  | overflowed shown after =>
    rw [after] at unmoved ⊢
    exact unmoved rfl present rfl

/-! ## How long loops wait -/

theorem timely_of_isNew (new : start.IsNew) : start.Timely where
  calls := by simp [new.calls]
  asks := fun id party task present => by simp [task?, new.tasks] at present
  waits := fun id party task update deadline present => by simp [task?, new.tasks] at present

/-- A call that begins is timely, and stays so. -/
theorem Frames.timely (frames : system.Frames begins returns engines next)
    (handles : ∀ client ∈ system.clients, client.handles.length = client.set.endpoints.length)
    (calls : ∀ record ∈ system.calls, record.IsTimely system.clients system.now) :
    ∀ record ∈ next.calls, record.IsTimely next.clients next.now := by
  intro record member
  rw [frames.clients, frames.now]
  obtain ⟨earlier, there | ⟨-, client, present, request, called⟩, goes_on⟩ :=
    frames.calls record member
  · exact (calls earlier there).goesOn goes_on
  · have begun : earlier.IsTimely system.clients system.now := by
      refine ⟨?_, ⟨client, present, ?_⟩, ?_⟩
      · rw [called]
        exact Nat.le_refl _
      · rw [called]
        exact client.legsFor_subset request
      · rw [called]
        exact fun _ => client.legsFor_ne_nil (handles client present) request
    exact begun.goesOn goes_on

theorem Timely.calls_step (timely : system.Timely) (staffed : system.IsStaffed)
    (progress : Progress system event turn) :
    ∀ record ∈ turn.1.calls, record.IsTimely turn.1.clients turn.1.now := by
  cases progress with
  | @waited now settled forward due after =>
    rw [after]
    intro record member
    obtain ⟨started, legs, opened⟩ := timely.calls record member
    exact ⟨Nat.le_trans started forward, legs, opened⟩
  | kept frames => exact frames.timely staffed.handles timely.calls
  | worked carries found move frames => exact frames.timely staffed.handles timely.calls
  | started found free new now clients calls engines tasks =>
    rw [now, clients, calls]
    exact timely.calls
  | overflowed shown after =>
    rw [after]
    exact timely.calls

/-- A loop that waits for a node after a step has called it then, or before. -/
theorem Befalls.asks {id : Nat} (befalls : system.Befalls id task next)
    (asked : ∀ party, task.isAsking party = true → system.Asks (.loop id party)) {heard : Task}
    (present : next.task? id = some heard) (asking : heard.isAsking party = true)
    (there : system.task? id = some task) : next.Asks (.loop id party) := by
  cases befalls with
  | waited settled forward due after =>
    subst after
    obtain rfl := Option.some.inj (there.symm.trans present)
    exact asked party asking
  | spared now found hears calls asks =>
    obtain rfl := Option.some.inj (found.symm.trans present)
    rw [hears.waits.2.1] at asking
    exact asks party (asked party asking)
  | @moved event after effects other now move found hears calls asks called =>
    obtain rfl := Option.some.inj (found.symm.trans present)
    rw [hears.waits.2.1] at asking
    by_cases own : event.party? = some party
    · -- The loop that the event is for has made a call, if it waits for a node.
      obtain ⟨-, made⟩ := move.own own
      rw [asking, Bool.toNat_true] at made
      obtain ⟨request, requested⟩ := List.exists_mem_of_length_eq_add_one made
      obtain ⟨role, shown⟩ := Task.call_of_mem_requests requested
      exact called party role request shown
    · rw [(move.others own).2] at asking
      exact (asks party (asked party asking)).resolve_left fun returned => own returned.2

theorem Befalls.waits {id : Nat} (befalls : system.Befalls id task next)
    (waited : ∀ party update deadline, task.waiting? party = some (update, deadline) →
      deadline ≤ system.now + task.setup.sendTimeout) {heard : Task} {update : Update}
    {deadline : Nat} (present : next.task? id = some heard)
    (waits : heard.waiting? party = some (update, deadline))
    (there : system.task? id = some task) : deadline ≤ next.now + heard.setup.sendTimeout := by
  cases befalls with
  | @waited now settled forward due after =>
    subst after
    obtain rfl := Option.some.inj (there.symm.trans present)
    have before := waited party update deadline waits
    show deadline ≤ now + _
    omega
  | spared now found hears calls asks =>
    obtain rfl := Option.some.inj (found.symm.trans present)
    rw [hears.waits.2.2] at waits
    rw [now, hears.waits.1]
    exact waited party update deadline waits
  | moved now move found hears calls asks called =>
    obtain rfl := Option.some.inj (found.symm.trans present)
    rw [hears.waits.2.2] at waits
    rw [now, hears.waits.1, move.setup]
    obtain before | ⟨-, begun⟩ := move.waiting_le waits
    · exact waited party update deadline before
    · exact begun

theorem Timely.step (timely : system.Timely) (staffed : system.IsStaffed)
    (numbered : system.Numbered) (stepped : system.step event = some turn) : turn.1.Timely := by
  have progress := progress numbered stepped
  have origin : ∀ id heard, turn.1.task? id = some heard →
      (∃ task, system.task? id = some task) ∨ heard.IsNew := by
    intro id heard there
    cases present : system.task? id with
    | some task => exact .inl ⟨task, rfl⟩
    | none =>
      obtain absent | ⟨task, found, new⟩ := (touch stepped).absent present
      · exact nomatch absent.symm.trans there
      · obtain rfl := Option.some.inj (found.symm.trans there)
        exact .inr new
  refine ⟨timely.calls_step staffed progress, ?_, ?_⟩
  · intro id party heard there asking
    obtain ⟨task, present⟩ | new := origin id heard there
    · exact (progress.befalls staffed present).asks
        (fun party => timely.asks id party task present) there asking present
    · exact nomatch (new.waits party).1.symm.trans asking
  · intro id party heard update deadline there waits
    obtain ⟨task, present⟩ | new := origin id heard there
    · exact (progress.befalls staffed present).waits
        (fun party update deadline => timely.waits id party task update deadline present) there
          waits present
    · exact nomatch (new.waits party).2.symm.trans waits

theorem Run.timely (run : Run start trace final) (fresh : start.IsSetUp) : final.Timely := by
  induction run with
  | refl => exact timely_of_isNew fresh.toIsNew
  | step prior stepped inductionHypothesis =>
    exact inductionHypothesis.step (prior.employs fresh).1 (prior.converses fresh.toIsNew).numbered
      stepped

end System

end Inclusion
