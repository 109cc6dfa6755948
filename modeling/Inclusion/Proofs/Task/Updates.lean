import Inclusion.Proofs.Task.Run

/-!
# The way of an update

An update is offered by a loop that works with the lock, waits there until the consumer has room
for it, lies in the slot, and is delivered. Since only one loop works with the lock, at most one
update waits at a time, so updates cannot overtake each other: what has been delivered and what is
in flight is, in order, a part of what has been offered. An update is lost on the way only as
`Loss` lists it.

What is offered are the reports of attempts, and then the confirmation, once. An attempt that ends
is reported unless the loops have been told to end.
-/

namespace Inclusion

/-- What an update says, its figures apart. -/
def Update.message (update : Update) : UpdateKind × Option String :=
  (update.kind, update.error)

/-- What is to be said of an attempt that ended with an error or without. -/
def AttemptKind.message (kind : AttemptKind) :
    Option ConfirmerError → UpdateKind × Option String
  | none => (kind.updateKind, none)
  | some error => (.noAction, some error.message)

/-- No attempt is reported the way a confirmation is. -/
theorem AttemptKind.message_ne_confirm (kind : AttemptKind) (error : Option ConfirmerError) :
    (kind.message error).1 ≠ .confirm := by
  cases error <;> cases kind <;> nofun

/-- The update that a loop waits with, and how long it waits. -/
def Attempter.waiting? : Attempter → Option (Update × Nat)
  | sending update _ deadline => some (update, deadline)
  | _ => none

def Supervisor.waiting? : Supervisor → Option (Update × Nat)
  | announcing update deadline => some (update, deadline)
  | _ => none

namespace Task

/-- The update that a loop of a task waits with, and how long it waits. -/
def waiting? (task : Task) : Party → Option (Update × Nat)
  | .checker => none
  | .promoter => task.promoter.waiting?
  | .reattacher => task.reattacher.waiting?
  | .supervisor => task.supervisor.waiting?

/-- The updates that wait. -/
def pending (waiting : Party → Option (Update × Nat)) : List Update :=
  parties.filterMap fun party => (waiting party).map Prod.fst

/-- The updates on their way, in order. -/
def inFlight (task : Task) : List Update :=
  task.outbox.slot.toList ++ pending task.waiting?

/-! ## What is seen of updates and attempts -/

def Effect.delivered? : Effect → Option Update
  | delivered update => some update
  | _ => none

def Effect.offered? : Effect → Option Update
  | offered update => some update
  | _ => none

/-- What is to be said of an attempt that has ended. -/
def Effect.report? : Effect → Option (UpdateKind × Option String)
  | ended kind error => some (kind.message error)
  | _ => none

/-- The updates that the consumer has taken, in order. -/
def received (effects : List Effect) : List Update :=
  effects.filterMap Effect.delivered?

/-- The updates that were put before the consumer, in order. -/
def offered (effects : List Effect) : List Update :=
  effects.filterMap Effect.offered?

/-- What is to be said of the attempts that have ended, in order. -/
def reports (effects : List Effect) : List (UpdateKind × Option String) :=
  effects.filterMap Effect.report?

@[simp] theorem received_append (first second : List Effect) :
    received (first ++ second) = received first ++ received second :=
  List.filterMap_append

@[simp] theorem offered_append (first second : List Effect) :
    offered (first ++ second) = offered first ++ offered second :=
  List.filterMap_append

@[simp] theorem reports_append (first second : List Effect) :
    reports (first ++ second) = reports first ++ reports second :=
  List.filterMap_append

/-! ## Who waits with an update -/

variable {around : Surroundings} {task : Task} {event : Event} {turn : Turn}

/-- Only a loop that works with the lock waits with an update. -/
theorem holding_of_waiting {party : Party} {waits : Update × Nat}
    (waiting : task.waiting? party = some waits) : task.standing party = .holding := by
  cases party with
  | checker => cases waiting
  | promoter =>
    simp only [waiting?, Attempter.waiting?] at waiting
    split at waiting
    · next position => simp [standing, position, Attempter.standing]
    · cases waiting
  | reattacher =>
    simp only [waiting?, Attempter.waiting?] at waiting
    split at waiting
    · next position => simp [standing, position, Attempter.standing]
    · cases waiting
  | supervisor =>
    simp only [waiting?, Supervisor.waiting?] at waiting
    split at waiting
    · next position => simp [standing, position, Supervisor.standing]
    · cases waiting

/-- Only one update waits at a time. -/
theorem pending_alone {waiting : Party → Option (Update × Nat)} {party : Party}
    (others : ∀ other, other ≠ party → waiting other = none) :
    pending waiting = ((waiting party).map Prod.fst).toList := by
  cases waits : waiting party <;>
    cases party <;> simp [pending, parties, others, waits]

theorem waiting_eq_none {party : Party} (idle : task.standing party ≠ .holding) :
    task.waiting? party = none := by
  by_contra waits
  obtain ⟨waits, waiting⟩ := Option.ne_none_iff_exists'.mp waits
  exact idle (holding_of_waiting waiting)

/-- Nobody but the holder of the lock waits with an update. -/
theorem Sound.waits_alone (sound : task.Sound) {party other : Party}
    (held : task.lock.holder = some party) (different : other ≠ party) :
    task.waiting? other = none :=
  waiting_eq_none (sound.lock.not_holding held different)

/-- While nobody works with the lock, nothing but the slot is in flight. -/
theorem inFlight_idle (idle : ∀ party, task.standing party ≠ .holding) :
    task.inFlight = task.outbox.slot.toList := by
  rw [inFlight, @pending_alone _ .checker fun other _ => waiting_eq_none (idle other),
    waiting_eq_none (idle .checker)]
  exact List.append_nil _

theorem waiting_place (task : Task) (kind : AttemptKind) (position : Attempter) :
    (task.place kind position).waiting? =
      Function.update task.waiting? kind.party position.waiting? := by
  funext party
  cases kind <;> cases party <;> rfl

@[simp] theorem waiting_unlock (task : Task) : task.unlock.waiting? = task.waiting? := by
  funext party
  cases party <;> rfl

theorem waiting_party (task : Task) (kind : AttemptKind) :
    task.waiting? kind.party = (task.attempter kind).waiting? := by
  cases kind <;> rfl

theorem Kin.waiting {other : Task} (kin : task.Kin other) : other.waiting? = task.waiting? := by
  funext party
  cases party with
  | checker => rfl
  | promoter => exact congrArg Attempter.waiting? (congrFun kin.attempter .promotion)
  | reattacher => exact congrArg Attempter.waiting? (congrFun kin.attempter .reattachment)
  | supervisor => exact congrArg (fun course => course.supervisor.waiting?) kin.course

/-! ## How updates move at a step -/

/-- How an update can be lost: it waited too long, its loop was told to end, there was nobody to
take it, the task was cancelled, or its consumer went away. -/
inductive Loss (around : Surroundings) (task : Task) : Event → Prop where
  | late {party update deadline} (waiting : task.waiting? party = some (update, deadline))
      (due : deadline ≤ around.now) : Loss around task (.elapsed party)
  | halted {kind} (holds : (task.attempter kind).standing = .holding)
      (stopped : task.stop = true) : Loss around task (.halted kind.party)
  | refused {party} (gone : task.outbox.receiving = false) : Loss around task (.refused party)
  | cancelled (cancelled : task.cancel = true) : Loss around task .cancelSeen
  | dropped : Loss around task .streamDropped

/-- How the updates in flight change at a step, with what is seen of it. -/
inductive Flow (around : Surroundings) (task : Task) (event : Event) (turn : Turn) : Prop where
  | kept (same : turn.1.inFlight = task.inFlight) (none_offered : offered turn.2 = [])
      (none_received : received turn.2 = [])
  | offers (update : Update) (more : turn.1.inFlight = task.inFlight ++ [update])
      (one_offered : offered turn.2 = [update]) (none_received : received turn.2 = [])
  | delivers (update : Update) (fewer : task.inFlight = update :: turn.1.inFlight)
      (none_offered : offered turn.2 = []) (one_received : received turn.2 = [update])
  | lost (loss : Loss around task event) (fewer : turn.1.inFlight.Sublist task.inFlight)
      (none_offered : offered turn.2 = []) (none_received : received turn.2 = [])

theorem inFlight_congr {next : Task} (outbox : next.outbox = task.outbox)
    (waiting : next.waiting? = task.waiting?) : next.inFlight = task.inFlight := by
  rw [inFlight, inFlight, outbox, waiting]

/-- The updates in flight while a loop has the lock. -/
theorem Sound.inFlight_held (sound : task.Sound) {party : Party}
    (held : task.lock.holder = some party) :
    task.inFlight = task.outbox.slot.toList ++ ((task.waiting? party).map Prod.fst).toList := by
  rw [inFlight, pending_alone fun _ => sound.waits_alone held]

/-- The updates in flight after that loop has moved. -/
theorem Sound.inFlight_moved (sound : task.Sound) {party : Party}
    (held : task.lock.holder = some party) {next : Task}
    (others : ∀ other, other ≠ party → next.waiting? other = task.waiting? other) :
    next.inFlight = next.outbox.slot.toList ++ ((next.waiting? party).map Prod.fst).toList := by
  rw [inFlight, pending_alone]
  intro other different
  exact (others other different).trans (sound.waits_alone held different)

/-- The same for a loop that makes attempts. -/
theorem Sound.inFlight_placed (sound : task.Sound) {kind : AttemptKind} {position : Attempter}
    (held : task.lock.holder = some kind.party) {other : Task}
    (waiting : other.waiting? = task.waiting?) :
    (other.place kind position).inFlight =
      other.outbox.slot.toList ++ (position.waiting?.map Prod.fst).toList := by
  have placed := waiting_place other kind position
  rw [sound.inFlight_moved held]
  · simp [placed]
  · intro third different
    rw [placed, Function.update_of_ne different, waiting]

/-- A loop that makes attempts and waits with nothing may be placed where it waits with nothing. -/
theorem inFlight_place {kind : AttemptKind} {position : Attempter}
    (before : (task.attempter kind).waiting? = none) (after : position.waiting? = none) :
    (task.place kind position).inFlight = task.inFlight := by
  refine inFlight_congr (by simp) ?_
  rw [waiting_place, after, ← before, ← waiting_party, Function.update_eq_self]

/-- A loop that gives the lock back leaves nothing but the slot in flight. -/
theorem Sound.inFlight_afterReport (sound : task.Sound) {kind : AttemptKind}
    (held : task.lock.holder = some kind.party) {other : Task}
    (waiting : other.waiting? = task.waiting?) (now : Nat) (failed : Bool) :
    (other.afterReport now kind failed).inFlight = other.outbox.slot.toList := by
  rw [afterReport, sleep, sound.inFlight_placed held ((waiting_unlock other).trans waiting)]
  exact List.append_nil _

theorem Sound.inFlight_beginJoin (sound : task.Sound)
    (held : task.lock.holder = some .supervisor) {other : Task}
    (waiting : other.waiting? = task.waiting?) :
    other.beginJoin.inFlight = other.outbox.slot.toList := by
  rw [sound.inFlight_moved held]
  · exact List.append_nil _
  · intro third different
    rw [← waiting]
    cases third <;> first | rfl | exact absurd rfl different

/-- What is in flight stays so if no loop that makes attempts moves and the supervisor waits with
nothing new. -/
theorem inFlight_others {next : Task} (outbox : next.outbox = task.outbox)
    (promoter : next.promoter = task.promoter) (reattacher : next.reattacher = task.reattacher)
    (supervisor : next.supervisor.waiting? = task.supervisor.waiting?) :
    next.inFlight = task.inFlight := by
  refine inFlight_congr outbox ?_
  funext party
  cases party with
  | checker => rfl
  | promoter => exact congrArg Attempter.waiting? promoter
  | reattacher => exact congrArg Attempter.waiting? reattacher
  | supervisor => exact supervisor

/-- A loop that gives its update up gives the lock back without it. -/
theorem Sound.flow_afterReport (sound : task.Sound) {kind : AttemptKind}
    (held : task.lock.holder = some kind.party) (loss : Loss around task event) (now : Nat)
    (failed : Bool) : Flow around task event (task.afterReport now kind failed, []) := by
  refine .lost loss ?_ rfl rfl
  rw [sound.inFlight_held held, sound.inFlight_afterReport held rfl]
  exact List.sublist_append_left _ _

theorem Sound.flow_beginJoin (sound : task.Sound) (held : task.lock.holder = some .supervisor)
    (loss : Loss around task event) : Flow around task event (task.beginJoin, []) := by
  refine .lost loss ?_ rfl rfl
  rw [sound.inFlight_held held, sound.inFlight_beginJoin held rfl]
  exact List.sublist_append_left _ _

/-- The checking loop has no part in the way of updates when it goes to sleep or ends. -/
theorem inFlight_restChecker (task : Task) (around : Surroundings) :
    (task.restChecker around).1.inFlight = task.inFlight := by
  obtain ⟨course, -, outbox, -, promoter, reattacher⟩ := frame_restChecker task around
  exact inFlight_others outbox promoter reattacher
    (congrArg (fun course => course.supervisor.waiting?) course)

theorem restChecker_silent (task : Task) (around : Surroundings) :
    offered (task.restChecker around).2 = [] ∧ received (task.restChecker around).2 = [] ∧
      reports (task.restChecker around).2 = [] := by
  rcases restChecker_effects task around with silent | ended
  · rw [silent]
    exact ⟨rfl, rfl, rfl⟩
  · rw [ended]
    exact ⟨rfl, rfl, rfl⟩

/-- Every step moves updates in one of these ways. -/
theorem Move.flow (sound : task.Sound) (move : Move around task event turn) :
    Flow around task event turn := by
  have held : ∀ {kind : AttemptKind} {position}, task.attempter kind = position →
      position.standing = .holding → task.lock.holder = some kind.party := by
    rintro kind _ rfl holds
    exact sound.lock.owned _ ((standing_party task kind).trans holds)
  have holds : ∀ {update deadline}, task.supervisor = .announcing update deadline →
      task.lock.holder = some .supervisor :=
    fun stands => sound.lock.owned .supervisor (congrArg Supervisor.standing stands)
  cases move with
  | entered stands | recovered stands | haltedAsleep stands =>
    exact .kept (inFlight_place (by rw [stands]; rfl) rfl) rfl rfl
  | woke stands | retired stands | deferred stands =>
    refine .kept (Eq.trans (inFlight_place ?_ rfl) rfl) rfl rfl
    simp [stands, Attempter.waiting?]
  | @began kind stands =>
    obtain ⟨stage, role, request, begun⟩ := begin_shape task kind
    rw [begun]
    exact .kept (inFlight_place (by rw [stands]; rfl) rfl) rfl rfl
  | answered stands answered =>
    have held := held stands rfl
    have before := sound.inFlight_held held
    rw [waiting_party, stands] at before
    cases answered.progress with
    | called kin =>
      refine .kept ?_ rfl rfl
      rw [before, sound.inFlight_placed held kin.waiting, kin.outbox]
      rfl
    | reported kin =>
      refine .offers _ ?_ rfl rfl
      rw [before, sound.inFlight_placed held kin.waiting, kin.outbox]
      simp [Attempter.waiting?]
    | unreported kin | brokeOff kin =>
      refine .kept ?_ rfl rfl
      rw [before, sound.inFlight_placed held ((waiting_unlock _).trans kin.waiting)]
      simp [Attempter.waiting?, kin.outbox]
  | @sent kind update failed deadline stands room =>
    have held := held stands rfl
    have waiting : waiting? { task with outbox := { task.outbox with slot := some update } } =
        task.waiting? := rfl
    refine .kept ((sound.inFlight_afterReport held waiting _ _).trans ?_) rfl rfl
    rw [sound.inFlight_held held, waiting_party, stands, room]
    rfl
  | timedOut stands due =>
    exact sound.flow_afterReport (held stands rfl)
      (.late (by rw [waiting_party, stands]; rfl) due) _ _
  | haltedSending stands stopped =>
    exact sound.flow_afterReport (held stands rfl) (.halted (by rw [stands]; rfl) stopped) _ _
  | refused stands gone => exact sound.flow_afterReport (held stands rfl) (.refused gone) _ _
  | checkerEntered | checkerWoke | checkerHalted | checkerRetired | asked | checkAnswered =>
    exact .kept (inFlight_others rfl rfl rfl rfl) rfl rfl
  | @judged tail promotable =>
    have kin := kin_noteVerdict task tail promotable
    have same : (task.noteVerdict tail promotable).inFlight = task.inFlight :=
      inFlight_congr kin.outbox kin.waiting
    obtain ⟨none_offered, none_received, -⟩ :=
      restChecker_silent (task.noteVerdict tail promotable).unlock around
    exact .kept ((inFlight_restChecker _ around).trans same) none_offered none_received
  | checkFailed =>
    obtain ⟨none_offered, none_received, -⟩ := restChecker_silent task around
    exact .kept (inFlight_restChecker task around) none_offered none_received
  | registered stands | signalled stands | dropSeen stands | confirmSeen stands
  | cancelSeen stands | cancelled stands | joined stands =>
    exact .kept (inFlight_others rfl rfl rfl (by rw [stands]; rfl)) rfl rfl
  | confirmed stands held =>
    refine .offers _ ((sound.inFlight_moved held ?_).trans ?_) rfl rfl
    · intro other different
      cases other <;> first | rfl | exact absurd rfl different
    · rw [sound.inFlight_held held]
      simp [confirm, waiting?, Supervisor.waiting?, stands]
  | @announced update deadline stands room =>
    have held := holds stands
    have waiting : waiting? { task with outbox := { task.outbox with slot := some update } } =
        task.waiting? := rfl
    refine .kept ((sound.inFlight_beginJoin held waiting).trans ?_) rfl rfl
    rw [sound.inFlight_held held, waiting?, stands, room]
    rfl
  | announceTimedOut stands due =>
    exact sound.flow_beginJoin (holds stands) (.late (by rw [waiting?, stands]; rfl) due)
  | announceCancelled stands cancelled =>
    exact sound.flow_beginJoin (holds stands) (.cancelled cancelled)
  | announceRefused stands gone => exact sound.flow_beginJoin (holds stands) (.refused gone)
  | cancelRequested => exact .kept rfl rfl rfl
  | received ready =>
    refine .delivers _ ?_ rfl rfl
    rw [inFlight, ready]
    rfl
  | streamDropped =>
    exact .lost .dropped (List.sublist_append_right _ _) rfl rfl

/-- A step delivers from the front of what is in flight, and adds to its end. -/
theorem Flow.sublist (flow : Flow around task event turn) :
    (received turn.2 ++ turn.1.inFlight).Sublist (task.inFlight ++ offered turn.2) := by
  cases flow with
  | kept same none_offered none_received => simp [same, none_offered, none_received]
  | offers update more one_offered none_received => simp [more, one_offered, none_received]
  | delivers update fewer none_offered one_received => simp [fewer, none_offered, one_received]
  | lost loss fewer none_offered none_received => simpa [none_offered, none_received] using fewer

/-- Without a loss nothing is missing. -/
theorem Flow.exact (flow : Flow around task event turn) (kept : ¬Loss around task event) :
    received turn.2 ++ turn.1.inFlight = task.inFlight ++ offered turn.2 := by
  cases flow with
  | kept same none_offered none_received => simp [same, none_offered, none_received]
  | offers update more one_offered none_received => simp [more, one_offered, none_received]
  | delivers update fewer none_offered one_received => simp [fewer, none_offered, one_received]
  | lost loss => exact absurd loss kept

/-- What has been delivered and what is in flight are, in order, a part of what has been offered. -/
theorem Run.flow_sublist {start final : Task} {entries : List Entry}
    (run : Run start entries final) (sound : start.Sound) :
    (received (seen entries) ++ final.inFlight).Sublist
      (start.inFlight ++ offered (seen entries)) := by
  induction run with
  | refl => simp [received, offered]
  | @step entries task around event next effects prior move inductionHypothesis =>
    have flow := (move.flow (prior.sound sound)).sublist
    simp only [seen_append, seen_single, received_append, offered_append]
    calc received (seen entries) ++ received effects ++ next.inFlight
      _ = received (seen entries) ++ (received effects ++ next.inFlight) := List.append_assoc ..
      _ |>.Sublist (received (seen entries) ++ (task.inFlight ++ offered effects)) :=
        flow.append_left _
      _ = received (seen entries) ++ task.inFlight ++ offered effects := (List.append_assoc ..).symm
      _ |>.Sublist (start.inFlight ++ offered (seen entries) ++ offered effects) :=
        inductionHypothesis.append_right _
      _ = start.inFlight ++ (offered (seen entries) ++ offered effects) := List.append_assoc ..

/-- In a run without a loss they are all of it. -/
theorem Run.flow_exact {start final : Task} {entries : List Entry}
    (run : Run start entries final) (sound : start.Sound)
    (kept : ∀ entry ∈ entries, ¬Loss entry.around entry.before entry.event) :
    received (seen entries) ++ final.inFlight = start.inFlight ++ offered (seen entries) := by
  induction run with
  | refl => simp [received, offered]
  | @step entries task around event next effects prior move inductionHypothesis =>
    have flow := (move.flow (prior.sound sound)).exact
      (kept ⟨task, around, event, effects⟩ (List.mem_append_right _ List.mem_cons_self))
    have before := inductionHypothesis fun entry member =>
      kept entry (List.mem_append_left _ member)
    simp only [seen_append, seen_single, received_append, offered_append]
    rw [List.append_assoc, flow, ← List.append_assoc, before, List.append_assoc]

end Task

end Inclusion
