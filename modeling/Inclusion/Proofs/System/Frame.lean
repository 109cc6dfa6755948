import Inclusion.Proofs.System.Attending

/-!
# What a step leaves as it is

Most of a system is left as it is by most steps. Only the passing of time moves the clock. Clients
are never added, and engines keep theirs. A call goes on with fewer open legs until its verdict is
delivered, and whoever waits for one goes on to wait. `Frames` says all this of a turn, up to the
owners that begin calls in it or have their verdicts and up to what becomes of the engines.

`Progress` lists all steps by what they are to the clock, to the calls and to the engines.
-/

namespace Inclusion

/-- Somebody who is no loop of a task. -/
def Owner.IsOutside (owner : Owner) : Prop :=
  ∀ id party, owner ≠ .loop id party

/-- As long as a call is undecided it has an open leg, which may decide it. -/
def Call.IsOpen (call : Call) : Prop :=
  call.verdict = none → call.legs ≠ []

/-- A call that has gone on: it has no more open legs than before, and the same owner or, once its
verdict is delivered, none. -/
structure CallRecord.GoesOn (earlier later : CallRecord) : Prop where
  request : later.call.request = earlier.call.request
  started : later.call.started = earlier.call.started
  legs : later.call.legs ⊆ earlier.call.legs
  owner : later.owner = earlier.owner ∨ later.owner = none
  opened : earlier.call.IsOpen → later.call.IsOpen

/-- What an effect of a task makes of its engine. -/
def Task.Effect.onEngine : Task.Effect → Engine → Engine
  | loopEnded _, engine => { engine with activeLoops := engine.activeLoops - 1 }
  | finished, engine => { engine with running := false }
  | _, engine => engine

/-- What effects of a task make of its engine, in order. -/
def Task.onEngine (effects : List Task.Effect) (engine : Engine) : Engine :=
  effects.foldl (fun engine effect => effect.onEngine engine) engine

theorem CallRecord.GoesOn.refl (record : CallRecord) : record.GoesOn record :=
  ⟨rfl, rfl, List.Subset.refl _, .inl rfl, fun opened => opened⟩

theorem CallRecord.GoesOn.trans {first second third : CallRecord} (before : first.GoesOn second)
    (after : second.GoesOn third) : first.GoesOn third where
  request := after.request.trans before.request
  started := after.started.trans before.started
  legs := List.Subset.trans after.legs before.legs
  owner := by
    obtain same | unowned := after.owner
    · rw [same]
      exact before.owner
    · exact .inr unowned
  opened := after.opened ∘ before.opened

/-- A leg that fails decides a call unless another is open. -/
theorem Call.isOpen_endLeg (call : Call) (leg : Leg) (outcome : Outcome) (now : Nat) :
    (call.endLeg leg outcome now).IsOpen := by
  intro undecided none_left
  simp only [endLeg] at undecided none_left
  rw [none_left] at undecided
  cases verdict : call.verdict with
  | some => simp [judge, verdict] at undecided
  | none => cases outcome <;> simp [judge, verdict] at undecided

theorem CallRecord.goesOn_endLeg (record : CallRecord) (leg : Leg) (outcome : Outcome) (now : Nat) :
    record.GoesOn { record with call := record.call.endLeg leg outcome now } where
  request := rfl
  started := rfl
  legs := fun _ member => (List.mem_filter.mp member).1
  owner := .inl rfl
  opened := fun _ => record.call.isOpen_endLeg leg outcome now

theorem CallRecord.goesOn_delivered (record : CallRecord) :
    record.GoesOn { record with owner := none } :=
  ⟨rfl, rfl, List.Subset.refl _, .inr rfl, fun opened => opened⟩

/-- No effect of a task changes the clients of its engine. -/
theorem Task.Effect.client_onEngine (effect : Task.Effect) (engine : Engine) :
    (effect.onEngine engine).client = engine.client := by
  cases effect <;> rfl

theorem Task.client_onEngine (effects : List Task.Effect) (engine : Engine) :
    (Task.onEngine effects engine).client = engine.client := by
  induction effects generalizing engine with
  | nil => rfl
  | cons first rest inductionHypothesis =>
    exact (inductionHypothesis _).trans (first.client_onEngine engine)

namespace System

/-- Somebody waits for the verdict of a call. -/
def Asks (system : System) (owner : Owner) : Prop :=
  ∃ record ∈ system.calls, record.owner = some owner

theorem asks_congr {system next : System} (calls : next.calls = system.calls) (owner : Owner) :
    next.Asks owner ↔ system.Asks owner := by
  rw [Asks, Asks, calls]

/-- A call that one of certain owners begins now. -/
structure BeginsNow (system : System) (owners : Owner → Prop) (record : CallRecord) : Prop where
  owned : ∃ owner, owners owner ∧ record.owner = some owner
  called : ∃ client ∈ system.clients, ∃ request, record.call = client.call request system.now

/-- What a turn leaves as it is, if only certain owners begin calls in it, only certain owners have
their verdicts, and the engines become the given ones. -/
structure Frames (system : System) (begins returns : Owner → Prop) (engines : List Engine)
    (next : System) : Prop where
  hears : system.Hears next
  now : next.now = system.now
  clients : next.clients = system.clients
  crew : next.tasks.map TaskRecord.engine = system.tasks.map TaskRecord.engine
  engines : next.engines = engines
  calls : ∀ record ∈ next.calls, ∃ earlier,
    (earlier ∈ system.calls ∨ system.BeginsNow begins earlier) ∧ earlier.GoesOn record
  asks : ∀ owner, system.Asks owner → returns owner ∨ next.Asks owner

/-- A turn in which only pollers and others outside begin calls, and nobody has a verdict. -/
abbrev Keeps (system next : System) : Prop :=
  system.Frames Owner.IsOutside (fun _ => False) system.engines next

/-- The clients of an engine are there. -/
def IsManned (system : System) (engine : Nat) : Prop :=
  ∃ present, system.engines[engine]? = some present ∧
    ∀ role, present.client role < system.clients.length

variable {system : System} {begins returns : Owner → Prop} {engines : List Engine}

theorem Frames.of_calls {next : System} (hears : system.Hears next) (now : next.now = system.now)
    (clients : next.clients = system.clients)
    (crew : next.tasks.map TaskRecord.engine = system.tasks.map TaskRecord.engine)
    (engines_after : next.engines = engines) (calls : next.calls = system.calls) :
    system.Frames begins returns engines next where
  hears := hears
  now := now
  clients := clients
  crew := crew
  engines := engines_after
  calls := fun record member => ⟨record, .inl (calls ▸ member), .refl record⟩
  asks := fun owner asks => .inr ((asks_congr calls owner).mpr asks)

theorem Frames.of_eq {next : System} (now : next.now = system.now)
    (clients : next.clients = system.clients) (tasks : next.tasks = system.tasks)
    (engines_after : next.engines = engines) (calls : next.calls = system.calls) :
    system.Frames begins returns engines next :=
  .of_calls (.of_eq (Nat.le_of_eq now.symm) tasks) now clients (by rw [tasks]) engines_after calls

theorem Frames.refl (system : System) : system.Frames begins returns system.engines system :=
  .of_eq rfl rfl rfl rfl rfl

theorem Frames.trans {first second third : System} {later : List Engine}
    (before : first.Frames begins returns engines second)
    (after : second.Frames begins returns later third) :
    first.Frames begins returns later third where
  hears := before.hears.trans after.hears
  now := after.now.trans before.now
  clients := after.clients.trans before.clients
  crew := after.crew.trans before.crew
  engines := after.engines
  calls := by
    intro record member
    obtain ⟨middle, there | ⟨owned, client, present, request, called⟩, goes_on⟩ :=
      after.calls record member
    · obtain ⟨earlier, origin, begun⟩ := before.calls middle there
      exact ⟨earlier, origin, begun.trans goes_on⟩
    · rw [before.now] at called
      rw [before.clients] at present
      exact ⟨middle, .inr ⟨owned, client, present, request, called⟩, goes_on⟩
  asks := fun owner asks => (before.asks owner asks).elim .inl (after.asks owner)

theorem Frames.mono {wider : Owner → Prop} {more : Owner → Prop} {next : System}
    (frames : system.Frames begins returns engines next)
    (begun : ∀ owner, begins owner → wider owner)
    (returned : ∀ owner, returns owner → more owner) :
    system.Frames wider more engines next where
  __ := frames
  calls := by
    intro record member
    obtain ⟨earlier, there | ⟨⟨owner, allowed, owned⟩, called⟩, goes_on⟩ :=
      frames.calls record member
    · exact ⟨earlier, .inl there, goes_on⟩
    · exact ⟨earlier, .inr ⟨⟨owner, begun owner allowed, owned⟩, called⟩, goes_on⟩
  asks := fun owner asks => (frames.asks owner asks).imp_left (returned owner)

/-- One thing after another leaves what each of them leaves. -/
theorem Keeps.carryOut {α : Type} {act : System → α → Turn}
    (keeps : ∀ (system : System) item, system.Keeps (act system item).1) (system : System)
    (items : List α) : system.Keeps (carryOut act system items).1 := by
  induction items generalizing system with
  | nil => exact .refl system
  | cons first rest inductionHypothesis =>
    have now := keeps system first
    have later := now.trans (inductionHypothesis (act system first).1)
    rwa [now.engines] at later

/-! ## What is done aside -/

/-- A call that begins is a new one of its owner. -/
theorem frames_beginCall (system : System) {owner : Owner} (allowed : begins owner) (client : Nat)
    (request : Request) :
    system.Frames begins returns system.engines (system.beginCall owner client request).1 := by
  unfold beginCall
  split
  · exact .refl system
  · next present found =>
    refine ⟨.of_eq (Nat.le_refl _) rfl, rfl, rfl, rfl, rfl, ?_, ?_⟩
    · intro record member
      obtain earlier | last := List.mem_append.mp member
      · exact ⟨record, .inl earlier, .refl record⟩
      · obtain rfl := List.mem_singleton.mp last
        refine ⟨_, .inr ⟨⟨owner, allowed, rfl⟩, present, ?_, request, rfl⟩, .refl _⟩
        exact List.mem_of_getElem? found
    · rintro other ⟨record, member, owned⟩
      exact .inr ⟨record, List.mem_append_left _ member, owned⟩

/-- It is asked for by its owner, if its client is there. -/
theorem asks_beginCall (system : System) (owner : Owner) {client : Nat} (request : Request)
    (there : client < system.clients.length) :
    (system.beginCall owner client request).1.Asks owner := by
  unfold beginCall
  rw [List.getElem?_eq_getElem there]
  exact ⟨_, List.mem_append_right _ (List.mem_singleton_self _), rfl⟩

theorem crew_setTask (system : System) (id : Nat) (task : Task) :
    (system.setTask id task).tasks.map TaskRecord.engine =
      system.tasks.map TaskRecord.engine := by
  refine List.ext_getElem? fun index => ?_
  simp only [setTask, List.getElem?_map, List.getElem?_modify]
  cases system.tasks[index]? with
  | none => rfl
  | some record => split <;> rfl

theorem keeps_signal (system : System) (id ticket : Nat) (signal : Signal) :
    system.Keeps (system.signal id ticket signal) := by
  have hears := hears_signal system id ticket signal
  unfold System.signal at hears ⊢
  split
  · exact .refl system
  · split
    · next stepped =>
      simp only [*] at hears
      exact .of_calls hears rfl rfl (crew_setTask ..) rfl rfl
    · exact .refl system

theorem keeps_tellRemoved (bundle : Hash) (system : System) (registration : Registration Watcher) :
    system.Keeps (tellRemoved bundle system registration).1 := by
  unfold tellRemoved
  split
  · exact keeps_signal system _ _ _
  · exact .refl system
  · exact .refl system

theorem keeps_tellConfirmed (system : System) (registration : Registration Watcher) :
    system.Keeps (system.tellConfirmed registration).1 := by
  unfold tellConfirmed
  split
  · exact keeps_signal system _ _ _
  · exact .refl system
  · exact .refl system

theorem keeps_serveMonitor (system : System) (effect : Monitor.Effect Watcher) :
    system.Keeps (system.serveMonitor effect).1 := by
  cases effect with
  | completed | stopWatch => exact .of_eq rfl rfl rfl rfl rfl
  | removed bundle registrations => exact Keeps.carryOut (keeps_tellRemoved bundle) system _
  | query poller request => exact frames_beginCall system nofun _ request
  | registered | answered | pollerStarted | pollerEnded => exact .refl system

theorem keeps_afterMonitor (system : System) (turn : Monitor.Turn Watcher) :
    system.Keeps (system.afterMonitor turn).1 := by
  have moved : system.Keeps { system with monitor := turn.1 } := .of_eq rfl rfl rfl rfl rfl
  exact moved.trans (Keeps.carryOut keeps_serveMonitor _ turn.2)

theorem keeps_stepMonitor {event : Monitor.Event Watcher} {turn : Turn}
    (stepped : system.stepMonitor event = some turn) : system.Keeps turn.1 := by
  obtain ⟨after, -, rfl⟩ := Option.map_eq_some_iff.mp stepped
  exact keeps_afterMonitor system after

theorem keeps_hearLine (system : System) (line : String) :
    system.Keeps (system.hearLine line).1 := by
  unfold hearLine
  split
  · split
    · exact keeps_afterMonitor system _
    · exact .refl system
  · exact .refl system

/-- A call that goes on is all that changes. Whoever has waited for it waits for it still, or has
its verdict. -/
theorem frames_setCall (numbered : system.Numbered) {call : Nat} {record after : CallRecord}
    (found : system.call? call = some record) (same : after.id = record.id)
    (goes_on : record.GoesOn after)
    (kept : ∀ owner, record.owner = some owner → returns owner ∨ after.owner = some owner) :
    system.Frames begins returns system.engines (system.setCall after) := by
  have frame : (system.setCall after).now = system.now ∧
      (system.setCall after).clients = system.clients ∧
      (system.setCall after).tasks = system.tasks ∧
      (system.setCall after).engines = system.engines := by
    unfold setCall
    split <;> exact ⟨rfl, rfl, rfl, rfl⟩
  obtain ⟨now, clients, tasks, engines⟩ := frame
  refine ⟨.of_eq (Nat.le_of_eq now.symm) tasks, now, clients, by rw [tasks], engines, ?_, ?_⟩
  · obtain ⟨earlier, later, calls, -, changed | ⟨-, gone⟩⟩ := numbered.calls_setCall found same
    · intro other member
      rw [changed, List.mem_append, List.mem_cons] at member
      obtain before | rfl | behind := member
      · exact ⟨other, .inl (by simp [calls, before]), .refl other⟩
      · exact ⟨record, .inl (mem_of_call? found).1, goes_on⟩
      · exact ⟨other, .inl (by simp [calls, behind]), .refl other⟩
    · intro other member
      rw [gone, List.mem_append] at member
      refine ⟨other, .inl ?_, .refl other⟩
      rw [calls, List.mem_append, List.mem_cons]
      exact member.imp_right .inr
  · rintro owner ⟨other, member, owned⟩
    obtain ⟨earlier, later, calls, -, changed | ⟨⟨unowned, -⟩, gone⟩⟩ :=
      numbered.calls_setCall found same
    · rw [calls, List.mem_append, List.mem_cons] at member
      obtain before | rfl | behind := member
      · exact .inr ⟨other, by simp [changed, before], owned⟩
      · exact (kept owner owned).imp_right fun owned => ⟨after, by simp [changed], owned⟩
      · exact .inr ⟨other, by simp [changed, behind], owned⟩
    · rw [calls, List.mem_append, List.mem_cons] at member
      obtain before | rfl | behind := member
      · exact .inr ⟨other, by simp [gone, before], owned⟩
      · obtain returned | owned := kept owner owned
        · exact .inl returned
        · exact nomatch unowned.symm.trans owned
      · exact .inr ⟨other, by simp [gone, behind], owned⟩

theorem keeps_endLeg (numbered : system.Numbered) {call : Nat} {record : CallRecord}
    (found : system.call? call = some record) (leg : Leg) (outcome : Outcome) :
    system.Keeps (system.endLeg record leg outcome).1 := by
  let booked := { system with
    health := system.health.record leg.handle outcome.isFailure system.now }
  have before : system.Keeps booked := .of_eq rfl rfl rfl rfl rfl
  have numbered : booked.Numbered := ⟨numbered.distinct, numbered.below⟩
  have found : booked.call? call = some record := found
  exact before.trans (frames_setCall numbered found rfl
    (record.goesOn_endLeg leg outcome system.now) fun _ => .inr)

/-- Once its verdict is delivered, nobody waits for a call. -/
theorem frames_delivered (numbered : system.Numbered) {call : Nat} {record : CallRecord}
    (found : system.call? call = some record) {owner : Owner} (owned : record.owner = some owner) :
    system.Frames begins (· = owner) system.engines
      (system.setCall { record with owner := none }) := by
  refine frames_setCall numbered found rfl record.goesOn_delivered fun other belongs => .inl ?_
  exact Option.some.inj (belongs.symm.trans owned)

/-! ## What a task asks for -/

theorem frames_serveTask (engine id : Nat) (bundle : Hash) (system : System)
    (effect : Task.Effect) (outside : ∀ owner, owner.IsOutside → begins owner)
    (own : ∀ party role request, effect = .call party role request → begins (.loop id party)) :
    system.Frames begins (fun _ => False) (system.engines.modify engine effect.onEngine)
      (serveTask engine id bundle system effect).1 := by
  have same : system.engines.modify engine (fun present => present) = system.engines :=
    List.modify_id ..
  have by_monitor : ∀ turn : Monitor.Turn Watcher,
      system.Frames begins (fun _ => False) system.engines (system.afterMonitor turn).1 :=
    fun turn => (keeps_afterMonitor system turn).mono outside nofun
  cases effect with
  | call party role request =>
    have begun := own party role request rfl
    obtain ⟨present, -, called⟩ | called :=
      serveTask_call engine id bundle system party role request
    · rw [called]
      exact same.symm ▸ frames_beginCall system begun (present.client role) request
    · rw [called]
      exact same.symm ▸ .refl system
  | watch | unwatch => exact same.symm ▸ by_monitor _
  | forgetStopwatch | enterLoad | leaveLoad => exact same.symm ▸ .of_eq rfl rfl rfl rfl rfl
  | loopEnded | finished => exact .of_eq rfl rfl rfl rfl rfl
  | began | ended | brokeOff | judged | offered | delivered => exact same.symm ▸ .refl system

/-- What a task asks for begins calls of its own loops only. -/
theorem frames_carryOut_serveTask (engine id : Nat) (bundle : Hash) (system : System)
    (effects : List Task.Effect) (outside : ∀ owner, owner.IsOutside → begins owner)
    (own : ∀ party role request, .call party role request ∈ effects → begins (.loop id party)) :
    system.Frames begins (fun _ => False) (system.engines.modify engine (Task.onEngine effects))
      (carryOut (serveTask engine id bundle) system effects).1 := by
  induction effects generalizing system with
  | nil =>
    have same : system.engines.modify engine (Task.onEngine []) = system.engines :=
      List.modify_id ..
    exact same.symm ▸ .refl system
  | cons first rest inductionHypothesis =>
    have now : system.Frames begins (fun _ => False) _
        (serveTask engine id bundle system first).1 :=
      frames_serveTask engine id bundle system first outside fun party role request same =>
        own party role request (same ▸ List.mem_cons_self)
    have later := now.trans (inductionHypothesis (serveTask engine id bundle system first).1
      fun party role request member => own party role request (List.mem_cons_of_mem _ member))
    rw [now.engines, List.modify_modify_eq] at later
    exact later

/-- An engine keeps its clients. -/
theorem Frames.isManned {engine other : Nat} {change : Engine → Engine} {next : System}
    (frames : system.Frames begins returns (system.engines.modify other change) next)
    (client : ∀ present, (change present).client = present.client)
    (manned : system.IsManned engine) : next.IsManned engine := by
  obtain ⟨present, found, clients⟩ := manned
  rw [IsManned, frames.engines, frames.clients, List.getElem?_modify, found]
  split
  · exact ⟨change present, rfl, by rwa [client present]⟩
  · exact ⟨present, rfl, clients⟩

/-- A loop that calls a node waits for it. -/
theorem asks_carryOut_serveTask {engine : Nat} (id : Nat) (bundle : Hash)
    (manned : system.IsManned engine) {effects : List Task.Effect} {party : Party} {role : Role}
    {request : Request} (called : .call party role request ∈ effects) :
    (carryOut (serveTask engine id bundle) system effects).1.Asks (.loop id party) := by
  induction effects generalizing system with
  | nil => cases called
  | cons first rest inductionHypothesis =>
    obtain rfl | later := List.mem_cons.mp called
    · obtain ⟨present, found, clients⟩ := manned
      have asks : (serveTask engine id bundle system (.call party role request)).1.Asks
          (.loop id party) := by
        simp only [serveTask, found]
        exact asks_beginCall system _ request (clients role)
      have frames : Frames _ (fun _ => True) (fun _ => False) _ _ :=
        frames_carryOut_serveTask engine id bundle
          (serveTask engine id bundle system (.call party role request)).1 rest (fun _ _ => trivial)
          fun _ _ _ _ => trivial
      exact (frames.asks _ asks).resolve_left not_false
    · have frames : system.Frames (fun _ => True) (fun _ => False) _
          (serveTask engine id bundle system first).1 :=
        frames_serveTask engine id bundle system first (fun _ _ => trivial)
          fun _ _ _ _ => trivial
      exact inductionHypothesis (frames.isManned first.client_onEngine manned) later

/-! ## All steps -/

/-- A loop of a task that an event is for. -/
def Concerns (id : Nat) (event : Task.Event) (owner : Owner) : Prop :=
  ∃ party, event.party? = some party ∧ owner = .loop id party

/-- What a step of a system is to its clock, to its calls and to its engines. -/
inductive Progress (system : System) (event : Event) (turn : Turn) : Prop where
  | waited {now} (settled : system.isSettled = true) (forward : system.now ≤ now)
      (due : ∀ deadline ∈ system.deadlines, now ≤ deadline) (after : turn.1 = { system with now })
  | kept (frames : system.Frames Owner.IsOutside Owner.IsOutside system.engines turn.1)
  /-- A task takes a step. If it is the return of a call, the call is one of its loop. -/
  | worked {id taskEvent record next effects} (carries : Carries system event id taskEvent)
      (present : system.tasks[id]? = some record)
      (move : Task.Move system.surroundings record.task taskEvent (next, effects))
      (frames : (system.setTask id next).Frames
        (fun owner => owner.IsOutside ∨ Concerns id taskEvent owner)
        (fun owner => taskEvent.isReturn = true ∧ Concerns id taskEvent owner)
        (system.engines.modify record.engine (Task.onEngine effects)) turn.1)
      (asks : system.IsManned record.engine → ∀ party role request,
        .call party role request ∈ effects → turn.1.Asks (.loop id party))
  | started {engine present task} (found : system.engines[engine]? = some present)
      (free : present.running = false) (new : task.IsNew) (now : turn.1.now = system.now)
      (clients : turn.1.clients = system.clients) (calls : turn.1.calls = system.calls)
      (engines : turn.1.engines = system.engines.modify engine fun present =>
        { present with
          running := true
          activeLoops := present.activeLoops + Task.parties.length
          bundle := some task.setup.bundle })
      (tasks : turn.1.tasks = system.tasks ++ [⟨engine, task⟩])
  | overflowed {engine} (shown : turn.2 = [.startOverflowed engine])
      (after : turn.1 = system.modifyEngine engine fun present => { present with running := true })

variable {event : Event} {turn : Turn}

/-- What a step of a task asks for begins calls of the loop that its event is for. -/
theorem frames_of_move {around : Task.Surroundings} {task next : Task} {taskEvent : Task.Event}
    {effects : List Task.Effect} (move : Task.Move around task taskEvent (next, effects))
    (engine id : Nat) (bundle : Hash) (system : System) :
    system.Frames (fun owner => owner.IsOutside ∨ Concerns id taskEvent owner) (fun _ => False)
      (system.engines.modify engine (Task.onEngine effects))
      (carryOut (serveTask engine id bundle) system effects).1 :=
  frames_carryOut_serveTask engine id bundle system effects (fun _ outside => .inl outside)
    fun party _ _ called => .inr ⟨party, move.caller called, rfl⟩

theorem progress_of_stepTask {id : Nat} {taskEvent : Task.Event}
    (carries : Carries system event id taskEvent)
    (stepped : system.stepTask id taskEvent = some turn) : Progress system event turn := by
  obtain ⟨record, next, effects, found, move, rfl⟩ := stepTask_eq_some stepped
  have frames := frames_of_move move record.engine id next.setup.bundle (system.setTask id next)
  refine .worked carries found move (frames.mono (fun _ allowed => allowed) nofun) ?_
  intro manned party role request called
  have manned : (system.setTask id next).IsManned record.engine := manned
  exact asks_carryOut_serveTask id next.setup.bundle manned called

/-- The verdict of a call of a loop is delivered to it. -/
theorem progress_of_returned (numbered : system.Numbered) {call id : Nat} {record : CallRecord}
    {party : Party} {verdict : Verdict} (found : system.call? call = some record)
    (owned : record.owner = some (.loop id party)) (decided : record.call.verdict = some verdict)
    (stepped : (system.setCall { record with owner := none }).stepTask id
      (.answered party verdict) = some turn) : Progress system (.callReturned call) turn := by
  obtain ⟨present, next, effects, there, move, rfl⟩ := stepTask_eq_some stepped
  have moved : (system.setCall { record with owner := none }).setTask id next =
      (system.setTask id next).setCall { record with owner := none } := by
    unfold setCall
    split <;> rfl
  have same : (system.setCall { record with owner := none }).surroundings = system.surroundings ∧
      (system.setCall { record with owner := none }).tasks = system.tasks := by
    unfold setCall
    split <;> exact ⟨rfl, rfl⟩
  rw [same.1] at move
  rw [same.2] at there
  rw [moved]
  have delivered : (system.setTask id next).Frames (fun owner => owner.IsOutside ∨
      Concerns id (.answered party verdict) owner) (· = .loop id party) system.engines
        ((system.setTask id next).setCall { record with owner := none }) := by
    have numbered : (system.setTask id next).Numbered := ⟨numbered.distinct, numbered.below⟩
    have found : (system.setTask id next).call? call = some record := found
    exact frames_delivered numbered found owned
  have frames := delivered.trans ((frames_of_move move present.engine id next.setup.bundle
    ((system.setTask id next).setCall { record with owner := none })).mono
      (fun _ allowed => allowed) nofun)
  rw [delivered.engines] at frames
  refine .worked (.returned found owned decided) there move (frames.mono (fun _ allowed => allowed)
    fun _ own => ⟨rfl, party, rfl, own⟩) ?_
  rintro ⟨engine, manned, clients⟩ _ role request called
  have manned : ((system.setTask id next).setCall
      { record with owner := none }).IsManned present.engine :=
    ⟨engine, delivered.engines ▸ manned, fun role => delivered.clients ▸ clients role⟩
  exact asks_carryOut_serveTask id next.setup.bundle manned called

theorem progress_of_deliver (numbered : system.Numbered) {call : Nat} {record : CallRecord}
    {owner : Owner} {verdict : Verdict} (found : system.call? call = some record)
    (owned : record.owner = some owner) (decided : record.call.verdict = some verdict)
    (delivered : system.deliver record owner verdict = some turn) :
    Progress system (.callReturned call) turn := by
  have released : (∀ id party, owner ≠ .loop id party) → system.Frames Owner.IsOutside
      Owner.IsOutside system.engines (system.setCall { record with owner := none }) := by
    intro outside
    refine (frames_delivered numbered found owned).mono (fun _ allowed => allowed) ?_
    rintro _ rfl
    exact outside
  cases owner with
  | loop id party => exact progress_of_returned numbered found owned decided delivered
  | poller id =>
    have later := (released nofun).trans
      ((keeps_stepMonitor delivered).mono (fun _ allowed => allowed) nofun)
    rw [(released nofun).engines] at later
    exact .kept later
  | caller name =>
    obtain rfl := Option.some.inj delivered
    exact .kept (released nofun)

/-- Every step of a system is one of the five. -/
theorem progress (numbered : system.Numbered) (stepped : system.step event = some turn) :
    Progress system event turn := by
  have aside : ∀ {event : Event} {next : System} {effects : List Effect},
      system.Keeps next → Progress system event (next, effects) :=
    fun keeps => .kept (keeps.mono (fun _ allowed => allowed) nofun)
  cases move_of_step stepped with
  | task own stepped => exact progress_of_stepTask (.own own) stepped
  | cancel stepped => exact progress_of_stepTask .cancel stepped
  | received stepped => exact progress_of_stepTask .received stepped
  | streamDropped stepped => exact progress_of_stepTask .streamDropped stepped
  | poller _ _ stepped | register _ stepped | cancelRegistration stepped | cancelPolling stepped
  | notifyConfirmed stepped | feedChanged stepped => exact aside (keeps_stepMonitor stepped)
  | @told place bundle registration found =>
    let left := { system with callbacks := system.callbacks.eraseIdx place }
    have before : system.Keeps left := .of_eq rfl rfl rfl rfl rfl
    exact aside (before.trans (keeps_tellConfirmed left registration))
  | returned found owned decided delivered =>
    exact progress_of_deliver numbered found owned decided delivered
  | expired found | ended found => exact aside (keeps_endLeg numbered found _ _)
  | passed settled forward due => exact .waited settled forward due rfl
  | invalid | busy => exact .kept (.refl system)
  | overflowed => exact .overflowed rfl rfl
  | @started engine trytes present tail task found read free made =>
    obtain ⟨setup, other, now, forced, again, bundle, rfl⟩ := startsFrom_of_task? read made
    obtain rfl := Except.ok.inj (read.symm.trans again)
    exact .started found free ⟨setup, tail, trytes, now, forced, rfl⟩ rfl rfl rfl
      (bundle ▸ rfl) rfl
  | feedSpoke => exact aside (Keeps.carryOut keeps_hearLine system _)
  | @request client request caller =>
    exact aside (frames_beginCall system nofun client request)
  | stopwatchStarted | stopwatchStopped | stopwatchTaken =>
    exact aside (.of_eq rfl rfl rfl rfl rfl)

end System

end Inclusion
