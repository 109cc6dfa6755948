import Inclusion.Proofs.System.Engines
import Inclusion.Proofs.System.Confirmation

/-!
# The requests that are put to clients

Somebody outside, a loop of a task or a poller puts a request to a client. A call begins with each
such inquiry, at which the request is put to the endpoints that it is meant for. Calls are numbered
in the order of the inquiries, and nothing is put to an endpoint otherwise.

`Posting` lists all steps by what they are to the calls of a system: calls begin in them, the
verdict of a call goes to its owner, or an endpoint's part of a call ends.
-/

namespace Inclusion

/-- A request that is put to a client. -/
structure Inquiry where
  client : Client
  request : Request

namespace System

/-- Whom the parts of a system put their requests to. -/
structure Directory where
  /-- The client that fills a role for a task. -/
  task : Nat → Role → Option Client
  /-- The client that pollers ask. -/
  monitor : Option Client

/-- The clients of a system as its parts see them. -/
def directory (system : System) : Directory where
  task id role :=
    (system.engine? id).bind fun engine =>
      (system.engines[engine]?).bind fun present => system.clients[present.client role]?
  monitor := system.clients[system.monitorClient]?

/-- What a part of the system puts to a client by an effect, if the client is there. -/
def Effect.inquiry? (directory : Directory) : Effect → Option Inquiry
  | .task id (.call _ role request) =>
    (directory.task id role).map fun client => ⟨client, request⟩
  | .monitor (.query _ request) => directory.monitor.map fun client => ⟨client, request⟩
  | _ => none

/-- What somebody outside puts to a client by an event. -/
def Event.inquiry? (system : System) : Event → Option Inquiry
  | .request client asked _ => (system.clients[client]?).map fun client => ⟨client, asked⟩
  | _ => none

/-- What is put to clients at a moment. -/
def Moment.inquiries (moment : Moment) : List Inquiry :=
  (moment.event.inquiry? moment.before).toList ++
    moment.effects.filterMap (Effect.inquiry? moment.before.directory)

/-- What is put to clients in a run. -/
def inquiries (trace : List Moment) : List Inquiry :=
  trace.flatMap Moment.inquiries

/-- Whether a request is put to an endpoint. -/
def Effect.isLaunch : Effect → Bool
  | launched .. => true
  | _ => false

/-- What is put to endpoints in a run. -/
def launches (trace : List Moment) : List Effect :=
  trace.flatMap fun moment => moment.effects.filter Effect.isLaunch

end System

/-- What is put to endpoints when a call begins. -/
def Inquiry.launches (inquiry : Inquiry) (call : Nat) : List System.Effect :=
  (inquiry.client.legsFor inquiry.request).map fun leg =>
    .launched call leg.place leg.endpoint.name inquiry.request

namespace System

/-- The calls that begin with inquiries, by number. -/
def entries (now number : Nat) (asked : List Inquiry) : List (Nat × Call) :=
  (asked.zipIdx number).map fun (inquiry, number) =>
    (number, inquiry.client.call inquiry.request now)

/-- A turn in which calls begin with given inquiries, and nothing becomes of others. -/
structure Enters (asked : List Inquiry) (system : System) (turn : Turn) : Prop where
  now : turn.1.now = system.now
  health : turn.1.health = system.health
  clients : turn.1.clients = system.clients
  calls : ∃ begun, turn.1.calls = system.calls ++ begun ∧
    begun.map (fun record => (record.id, record.call)) = entries system.now system.nextCall asked ∧
    ∀ record ∈ begun, record.owner.isSome = true
  nextCall : turn.1.nextCall = system.nextCall + asked.length
  launches : turn.2.filter Effect.isLaunch =
    (asked.zipIdx system.nextCall).flatMap fun (inquiry, number) => inquiry.launches number

/-- The parts of a system see the same clients in another. -/
structure Oriented (system next : System) : Prop where
  clients : next.clients = system.clients
  monitorClient : next.monitorClient = system.monitorClient
  roles : next.engines.map Engine.client = system.engines.map Engine.client
  crew : next.tasks.map TaskRecord.engine = system.tasks.map TaskRecord.engine

/-- A turn in which calls begin with the inquiries that are seen. -/
structure Posts (system : System) (turn : Turn) : Prop where
  enters : Enters (turn.2.filterMap (Effect.inquiry? system.directory)) system turn
  oriented : system.Oriented turn.1

variable {system next : System} {turn : Turn} {event : Event} {asked : List Inquiry}

/-! ## What is kept -/

theorem Oriented.directory (oriented : system.Oriented next) :
    next.directory = system.directory := by
  have roles : ∀ engine : Nat,
      (next.engines[engine]?).map Engine.client = (system.engines[engine]?).map Engine.client := by
    intro engine
    rw [← List.getElem?_map, ← List.getElem?_map, oriented.roles]
  unfold System.directory
  rw [oriented.clients, oriented.monitorClient, Directory.mk.injEq]
  refine ⟨funext fun id => funext fun role => ?_, rfl⟩
  rw [engine?_of_crew oriented.crew]
  refine congrArg _ (funext fun engine => ?_)
  have fills (present : Option Engine) :
      (present.bind fun present => system.clients[present.client role]?) =
        (present.map Engine.client).bind fun client => system.clients[client role]? := by
    cases present <;> rfl
  rw [fills, fills, roles engine]

theorem Enters.trans {more : List Inquiry} {after : Turn} (before : Enters asked system turn)
    (later : Enters more turn.1 after) :
    Enters (asked ++ more) system (after.1, turn.2 ++ after.2) where
  now := later.now.trans before.now
  health := later.health.trans before.health
  clients := later.clients.trans before.clients
  calls := by
    obtain ⟨first, calls, entered, owned⟩ := before.calls
    obtain ⟨second, then_calls, then_entered, then_owned⟩ := later.calls
    refine ⟨first ++ second, by simp [calls, then_calls], ?_, fun record member => ?_⟩
    · rw [List.map_append, entered, then_entered, before.nextCall, before.now, entries, entries,
        entries, List.zipIdx_append, List.map_append]
    · exact (List.mem_append.mp member).elim (owned record) (then_owned record)
  nextCall := by
    rw [later.nextCall, before.nextCall, List.length_append, Nat.add_assoc]
  launches := by
    rw [List.filter_append, before.launches, later.launches, before.nextCall, List.zipIdx_append,
      List.flatMap_append]

/-- Nothing is seen by which a client is asked, and no call begins. -/
theorem Enters.nothing (now : turn.1.now = system.now) (health : turn.1.health = system.health)
    (clients : turn.1.clients = system.clients) (calls : turn.1.calls = system.calls)
    (nextCall : turn.1.nextCall = system.nextCall)
    (unlaunched : turn.2.filter Effect.isLaunch = []) : Enters [] system turn :=
  ⟨now, health, clients, ⟨[], by simp [calls], rfl, List.forall_mem_nil _⟩, nextCall, unlaunched⟩

theorem Posts.of_oriented (oriented : system.Oriented turn.1) (now : turn.1.now = system.now)
    (health : turn.1.health = system.health) (calls : turn.1.calls = system.calls)
    (nextCall : turn.1.nextCall = system.nextCall)
    (unlaunched : turn.2.filter Effect.isLaunch = [])
    (uninquired : turn.2.filterMap (Effect.inquiry? system.directory) = []) :
    system.Posts turn where
  enters := uninquired ▸ .nothing now health oriented.clients calls nextCall unlaunched
  oriented := oriented

/-- A turn of the given system in which no clients and calls are touched, and nobody is asked. -/
theorem Posts.of_eq (clients : turn.1.clients = system.clients := by rfl)
    (monitorClient : turn.1.monitorClient = system.monitorClient := by rfl)
    (engines : turn.1.engines = system.engines := by rfl)
    (tasks : turn.1.tasks = system.tasks := by rfl) (now : turn.1.now = system.now := by rfl)
    (health : turn.1.health = system.health := by rfl)
    (calls : turn.1.calls = system.calls := by rfl)
    (nextCall : turn.1.nextCall = system.nextCall := by rfl)
    (unlaunched : turn.2.filter Effect.isLaunch = [] := by rfl)
    (uninquired : turn.2.filterMap (Effect.inquiry? system.directory) = [] := by rfl) :
    system.Posts turn :=
  .of_oriented ⟨clients, monitorClient, by rw [engines], by rw [tasks]⟩ now health calls nextCall
    unlaunched uninquired

theorem Posts.refl (system : System) : system.Posts (system, []) :=
  .of_eq

theorem Posts.trans {after : Turn} (before : system.Posts turn) (later : turn.1.Posts after) :
    system.Posts (after.1, turn.2 ++ after.2) where
  enters := by
    have both := before.enters.trans later.enters
    rwa [before.oriented.directory, ← List.filterMap_append] at both
  oriented := ⟨later.oriented.clients.trans before.oriented.clients,
    later.oriented.monitorClient.trans before.oriented.monitorClient,
    later.oriented.roles.trans before.oriented.roles,
    later.oriented.crew.trans before.oriented.crew⟩

/-- One thing after another. The engines of tasks stay meanwhile. -/
theorem Posts.carryOut {α : Type} {act : System → α → Turn} (system : System) (items : List α)
    (posts : ∀ (middle : System) item,
      middle.tasks.map TaskRecord.engine = system.tasks.map TaskRecord.engine →
        middle.Posts (act middle item)) : system.Posts (carryOut act system items) := by
  induction items generalizing system with
  | nil => exact .refl system
  | cons first rest inductionHypothesis =>
    -- Later items ask whom the first would have asked, because it leaves all engines to their
    -- tasks.
    have now := posts system first rfl
    exact now.trans (inductionHypothesis (act system first).1 fun middle item crew =>
      posts middle item (crew.trans now.oriented.crew))

/-! ## What is done aside -/

/-- A call that begins is the one that the client is asked for. -/
theorem enters_beginCall (system : System) (owner : Owner) (client : Nat) (request : Request) :
    Enters ((system.clients[client]?).map fun client => ⟨client, request⟩).toList system
      (system.beginCall owner client request) := by
  unfold beginCall
  split
  · next absent =>
    rw [absent]
    exact (Posts.refl system).enters
  · next present found =>
    rw [found]
    refine ⟨rfl, rfl, rfl, ⟨_, rfl, rfl, by simp⟩, rfl, ?_⟩
    rw [List.filter_eq_self.mpr]
    · simp [Inquiry.launches, Client.call]
    · intro effect member
      obtain ⟨leg, -, rfl⟩ := List.mem_map.mp member
      rfl

/-- Nothing but the beginning of a call is seen of it. -/
theorem uninquired_beginCall (directory : Directory) (system : System) (owner : Owner)
    (client : Nat) (request : Request) :
    (system.beginCall owner client request).2.filterMap (Effect.inquiry? directory) = [] := by
  unfold beginCall
  split <;> simp [Effect.inquiry?]

/-- An effect besides, by which no endpoint is asked, makes no difference to what is entered. -/
theorem Enters.cons (enters : Enters asked system turn) {effect : Effect}
    (unlaunched : effect.isLaunch = false) : Enters asked system (turn.1, effect :: turn.2) where
  __ := enters
  launches := by
    rw [List.filter_cons_of_neg (by simp [unlaunched])]
    exact enters.launches

/-- The effect by which a client is asked is seen besides. -/
theorem Posts.of_beginCall {effect : Effect} (owner : Owner) (client : Nat) (request : Request)
    (inquires : effect.inquiry? system.directory =
      (system.clients[client]?).map fun client => ⟨client, request⟩)
    (unlaunched : effect.isLaunch = false) :
    system.Posts ((system.beginCall owner client request).1,
      effect :: (system.beginCall owner client request).2) where
  enters := by
    have entered := (system.enters_beginCall owner client request).cons unlaunched
    rw [List.filterMap_cons, inquires, uninquired_beginCall]
    cases found : system.clients[client]? with
    | none => simpa [found] using entered
    | some present => simpa [found] using entered
  oriented := by
    unfold beginCall
    split <;> exact ⟨rfl, rfl, rfl, rfl⟩

/-- An effect by which nobody is asked is seen besides. -/
theorem Posts.cons (posts : system.Posts turn) {effect : Effect}
    (uninquired : effect.inquiry? system.directory = none) (unlaunched : effect.isLaunch = false) :
    system.Posts (turn.1, effect :: turn.2) where
  enters := by
    rw [List.filterMap_cons_none uninquired]
    exact posts.enters.cons unlaunched
  oriented := posts.oriented

theorem posts_signal (system : System) (id ticket : Nat) (signal : Signal) :
    system.Posts (system.signal id ticket signal, []) := by
  have keeps := system.keeps_signal id ticket signal
  obtain ⟨-, calls, nextCall, -⟩ := system.frame_signal id ticket signal
  have rest : (system.signal id ticket signal).health = system.health ∧
      (system.signal id ticket signal).monitorClient = system.monitorClient := by
    unfold System.signal
    split
    · exact ⟨rfl, rfl⟩
    · split <;> exact ⟨rfl, rfl⟩
  exact .of_oriented ⟨keeps.clients, rest.2, congrArg _ keeps.engines, keeps.crew⟩ keeps.now rest.1
    calls nextCall rfl rfl

theorem posts_tellRemoved (bundle : Hash) (system : System) (registration : Registration Watcher) :
    system.Posts (tellRemoved bundle system registration) := by
  unfold tellRemoved
  split
  · exact posts_signal system _ _ _
  · exact .refl system
  · exact .of_eq

theorem posts_tellConfirmed (system : System) (registration : Registration Watcher) :
    system.Posts (system.tellConfirmed registration) := by
  unfold tellConfirmed
  split
  · exact posts_signal system _ _ _
  · exact .of_eq
  · exact .of_eq

theorem posts_serveMonitor (system : System) (effect : Monitor.Effect Watcher) :
    system.Posts (system.serveMonitor effect) := by
  cases effect with
  | completed | stopWatch => exact .of_eq
  | removed bundle registrations =>
    have told := Posts.carryOut system registrations fun middle registration _ =>
      posts_tellRemoved bundle middle registration
    exact told.cons rfl rfl
  | query poller request =>
    exact .of_beginCall (.poller poller) system.monitorClient request rfl rfl
  | registered | answered | pollerStarted | pollerEnded => exact (Posts.refl system).cons rfl rfl

theorem posts_afterMonitor (system : System) (after : Monitor.Turn Watcher) :
    system.Posts (system.afterMonitor after) :=
  have moved : system.Posts ({ system with monitor := after.1 }, []) :=
    .of_eq
  moved.trans (.carryOut { system with monitor := after.1 } after.2 fun middle effect _ =>
    posts_serveMonitor middle effect)

theorem posts_stepMonitor {event : Monitor.Event Watcher}
    (stepped : system.stepMonitor event = some turn) : system.Posts turn := by
  obtain ⟨after, -, rfl, -⟩ := stepMonitor_eq_some stepped
  exact system.posts_afterMonitor after

theorem posts_hearLine (system : System) (line : String) : system.Posts (system.hearLine line) := by
  unfold hearLine
  split
  · split
    · exact system.posts_afterMonitor _
    · exact .refl system
  · exact .refl system

/-! ## Steps of tasks -/

/-- What is done to an engine leaves it its clients. -/
theorem oriented_modifyEngine (system : System) (engine : Nat) {change : Engine → Engine}
    (same : ∀ present, (change present).client = present.client) :
    system.Oriented (system.modifyEngine engine change) := by
  refine ⟨rfl, rfl, List.ext_getElem? fun index => ?_, rfl⟩
  simp only [modifyEngine, List.getElem?_map, List.getElem?_modify]
  cases system.engines[index]? with
  | none => rfl
  | some present => by_cases here : engine = index <;> simp [here, same]

theorem posts_serveTask {id engine : Nat} (bundle : Hash)
    (own : system.engine? id = some engine) (effect : Task.Effect) :
    system.Posts (serveTask engine id bundle system effect) := by
  cases effect with
  | call party role request =>
    have fills : system.directory.task id role = (system.engines[engine]?).bind fun present =>
        system.clients[present.client role]? :=
      congrArg (Option.bind · _) own
    cases found : system.engines[engine]? with
    | some present =>
      simp only [serveTask, found]
      refine .of_beginCall _ _ _ ?_ rfl
      rw [Effect.inquiry?, fills, found]
      rfl
    | none =>
      simp only [serveTask, found]
      refine (Posts.refl system).cons ?_ rfl
      rw [Effect.inquiry?, fills, found]
      rfl
  | watch => exact (system.posts_afterMonitor _).cons rfl rfl
  | unwatch ticket => exact (system.posts_afterMonitor _).cons rfl rfl
  | loopEnded party =>
    exact .of_oriented (system.oriented_modifyEngine engine fun _ => rfl) rfl rfl rfl rfl rfl rfl
  | finished =>
    exact .of_oriented (system.oriented_modifyEngine engine fun _ => rfl) rfl rfl rfl rfl rfl rfl
  | forgetStopwatch | enterLoad | leaveLoad =>
    exact .of_eq
  | began | ended | brokeOff | judged | offered | delivered =>
    exact (Posts.refl system).cons rfl rfl

theorem posts_stepTask {id : Nat} {event : Task.Event}
    (stepped : system.stepTask id event = some turn) : system.Posts turn := by
  obtain ⟨record, next, effects, found, -, rfl⟩ := stepTask_eq_some stepped
  have moved : system.Posts (system.setTask id next, []) :=
    .of_oriented ⟨rfl, rfl, rfl, crew_setTask system id next⟩ rfl rfl rfl rfl rfl rfl
  refine moved.trans (.carryOut _ effects fun middle effect crew => ?_)
  refine posts_serveTask next.setup.bundle ?_ effect
  rw [engine?_of_crew (crew.trans (crew_setTask system id next))]
  exact engine?_of_record found

/-! ## All steps -/

/-- What a step of a system is to its calls. -/
inductive Posting (system : System) (event : Event) (turn : Turn) : Prop where
  /-- Calls begin, if any, and nothing becomes of others. -/
  | begun (enters : Enters (Moment.mk system event turn.2).inquiries system turn)
      (unreturned : ∀ call, event ≠ .callReturned call)
      (unexpired : ∀ call place, event ≠ .legExpired call place)
      (unended : ∀ call place outcome, event ≠ .legEnded call place outcome)
  /-- A verdict goes to its owner, and then calls begin, if any. -/
  | returned {call record owner verdict} (returns : event = .callReturned call)
      (found : system.call? call = some record) (owned : record.owner = some owner)
      (decided : record.call.verdict = some verdict)
      (delivered : system.deliver record owner verdict = some turn)
      (enters : Enters (Moment.mk system event turn.2).inquiries
        (system.setCall { record with owner := none }) turn)
  /-- The time of an endpoint is up. -/
  | expired {call place record leg} (expires : event = .legExpired call place)
      (found : system.call? call = some record) (opened : record.call.leg? place = some leg)
      (due : leg.deadline record.call.started ≤ system.now)
      (after : turn = system.endLeg record leg (.failed (.timeout leg.endpoint.timeout)))
  /-- An endpoint answers or fails. -/
  | ended {call place record leg outcome} (ends : event = .legEnded call place outcome)
      (found : system.call? call = some record) (opened : record.call.leg? place = some leg)
      (fit : fits record.call.request outcome = true)
      (after : turn = system.endLeg record leg outcome)
  | passed {now} (passes : event = .timePassed now) (settled : system.isSettled = true)
      (forward : system.now ≤ now) (due : ∀ deadline ∈ system.deadlines, now ≤ deadline)
      (after : turn = ({ system with now }, []))

/-- A step by which nobody outside asks anything. -/
theorem Posts.posting (posts : system.Posts turn) (unasked : event.inquiry? system = none)
    (unreturned : ∀ call, event ≠ .callReturned call)
    (unexpired : ∀ call place, event ≠ .legExpired call place)
    (unended : ∀ call place outcome, event ≠ .legEnded call place outcome) :
    Posting system event turn := by
  have all : (Moment.mk system event turn.2).inquiries =
      turn.2.filterMap (Effect.inquiry? system.directory) := by
    rw [Moment.inquiries, unasked]
    rfl
  exact .begun (all ▸ posts.enters) unreturned unexpired unended

theorem posting_of_deliver {call : Nat} {record : CallRecord} {owner : Owner} {verdict : Verdict}
    (found : system.call? call = some record) (owned : record.owner = some owner)
    (decided : record.call.verdict = some verdict)
    (delivered : system.deliver record owner verdict = some turn) :
    Posting system (.callReturned call) turn := by
  have oriented : system.Oriented (system.setCall { record with owner := none }) := by
    rw [setCall_eq]
    exact ⟨rfl, rfl, rfl, rfl⟩
  have posts : (system.setCall { record with owner := none }).Posts turn := by
    cases owner with
    | loop task party => exact posts_stepTask delivered
    | poller id => exact posts_stepMonitor delivered
    | caller name =>
      obtain rfl := Option.some.inj delivered
      exact .of_eq
  refine .returned rfl found owned decided delivered ?_
  rw [Moment.inquiries, ← oriented.directory]
  exact posts.enters

/-- Every step lets calls begin, returns a verdict, ends the part of an endpoint or lets time pass.
-/
theorem posting (stepped : system.step event = some turn) : Posting system event turn := by
  cases move_of_step stepped with
  | task own stepped => exact (posts_stepTask stepped).posting rfl nofun nofun nofun
  | cancel stepped => exact (posts_stepTask stepped).posting rfl nofun nofun nofun
  | received stepped => exact (posts_stepTask stepped).posting rfl nofun nofun nofun
  | streamDropped stepped => exact (posts_stepTask stepped).posting rfl nofun nofun nofun
  | poller _ _ stepped | register _ stepped | cancelRegistration stepped | cancelPolling stepped
  | notifyConfirmed stepped | feedChanged stepped =>
    exact (posts_stepMonitor stepped).posting rfl nofun nofun nofun
  | @told place bundle registration found =>
    have left : system.Posts
        ({ system with callbacks := system.callbacks.eraseIdx place }, []) :=
      .of_eq
    exact (left.trans (posts_tellConfirmed _ registration)).posting rfl nofun nofun nofun
  | returned found owned decided delivered =>
    exact posting_of_deliver found owned decided delivered
  | expired found opened due => exact .expired rfl found opened due rfl
  | ended found opened fit => exact .ended rfl found opened fit rfl
  | passed settled forward due => exact .passed rfl settled forward due rfl
  | invalid | busy | overflowed | started =>
    exact .begun (.nothing rfl rfl rfl rfl rfl rfl) nofun nofun nofun
  | feedSpoke =>
    exact (Posts.carryOut system _ fun middle line _ => posts_hearLine middle line).posting rfl
      nofun nofun nofun
  | @request client request caller there =>
    refine .begun ?_ nofun nofun nofun
    rw [Moment.inquiries, uninquired_beginCall, List.append_nil]
    exact system.enters_beginCall (.caller caller) client request
  | stopwatchStarted | stopwatchStopped | stopwatchTaken =>
    exact .begun (.nothing rfl rfl rfl rfl rfl rfl) nofun nofun nofun

end System

end Inclusion
