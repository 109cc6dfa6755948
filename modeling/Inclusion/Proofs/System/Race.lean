import Inclusion.Proofs.Race
import Inclusion.Proofs.System.Ledger
import Inclusion.Proofs.System.Teardown

/-!
# How reads are decided

In a run in which the nodes that a read is put to do as in a race, the read returns at the moment at
which the race is decided, neither before nor after, with a verdict that the race may have then. The
parts of other calls, and whatever else happens in the system meanwhile, make no difference.
-/

namespace Inclusion.System

/-- What happens at a time is in keeping with the race of a call that began at another, if certain
parts have ended. An endpoint answers after its delay, unless its time is up before, and time does
not pass the moment of an answer before it is given. -/
def Event.InRace (race : Race) (call started : Nat) (ended : List (Nat × Nat)) (now : Nat) :
    Event → Prop
  | legEnded other place outcome =>
    other = call → now = started + race.delay place ∧ outcome = race.answer place
  | legExpired other place =>
    other = call → ∀ endpoint ∈ race.endpoints[place]?,
      endpoint.timeout.nanoseconds < race.delay place
  | timePassed later => ∀ place < race.endpoints.length, ∀ endpoint ∈ race.endpoints[place]?,
    race.delay place ≤ endpoint.timeout.nanoseconds → started + race.delay place < later →
      (call, place) ∈ ended
  | _ => True

/-- The endpoints of a call do in a run as in a race. -/
def IsHeld (race : Race) (call started : Nat) (trace : List Moment) : Prop :=
  ∀ earlier moment later, trace = earlier ++ moment :: later →
    moment.event.InRace race call started ((completions earlier).map Completion.part)
      moment.before.now

/-- A call returns at a moment, with a verdict that its race may have then. Somebody outside who has
made the call is told the verdict. -/
structure Returns (race : Race) (call started : Nat) (moment : Moment) : Prop where
  event : moment.event = .callReturned call
  begun : started ≤ moment.before.now
  decided : ∃ record owner verdict, moment.before.call? call = some record ∧
    record.owner = some owner ∧ record.call.verdict = some verdict ∧
    race.Decides (moment.before.now - started) verdict ∧
    ∀ name, owner = .caller name → moment.effects = [.returned name verdict]

/-- Whether an event is the return of a call. -/
def Event.returnsCall (call : Nat) : Event → Bool
  | callReturned other => other = call
  | _ => false

/-- The moments of a run at which a call returns. -/
def returnsOf (call : Nat) (trace : List Moment) : List Moment :=
  trace.filter fun moment => moment.event.returnsCall call

/-- How far a read has come that has returned at the given moments: it waits for its verdict, or has
returned once and for all. -/
inductive Stage (race : Race) (call started : Nat) (system : System) : List Moment → Prop where
  | waits {record} (member : record ∈ system.calls) (number : record.id = call)
      (owned : record.owner.isSome = true) (begun : record.call.started = started)
      (runs : race.Runs system.now record.call) : Stage race call started system []
  | closed {returning} (returns : Returns race call started returning)
      (known : call < system.nextCall)
      (unowned : ∀ record ∈ system.calls, record.id = call → record.owner = none) :
      Stage race call started system [returning]

variable {race : Race} {call started : Nat} {trace after returned : List Moment} {system : System}
  {event : Event} {turn : Turn} {moment : Moment} {start next final : System}
  {before : List Moment}

/-! ## Calls and their parts -/

/-- Calls that begin have numbers that were not given before. -/
theorem Enters.old_or_new {asked : List Inquiry} (enters : Enters asked system turn)
    {record : CallRecord} (member : record ∈ turn.1.calls) :
    record ∈ system.calls ∨ system.nextCall ≤ record.id := by
  obtain ⟨begun, calls, entered, -⟩ := enters.calls
  rw [calls, List.mem_append] at member
  refine member.imp_right fun last => ?_
  have entry : (record.id, record.call) ∈ entries system.now system.nextCall asked :=
    entered ▸ List.mem_map_of_mem last
  obtain ⟨⟨inquiry, number⟩, numbered, same⟩ := List.mem_map.mp entry
  obtain ⟨rfl, -⟩ := Prod.mk.inj same
  exact (List.mem_zipIdx numbered).1

theorem Enters.kept {asked : List Inquiry} (enters : Enters asked system turn)
    {record : CallRecord} (member : record ∈ system.calls) : record ∈ turn.1.calls := by
  obtain ⟨begun, calls, -⟩ := enters.calls
  exact calls ▸ List.mem_append_left _ member

/-- A part that is open has not ended. -/
theorem Ledger.not_ended (ledger : Ledger trace system) {record : CallRecord}
    (member : record ∈ system.calls) {leg : Leg} (opened : leg ∈ record.call.legs) :
    (record.id, leg.place) ∉ (completions trace).map Completion.part := by
  have distinct : (parts 0 (inquiries trace)).Nodup := nodup_parts (fun inquiry asked =>
    (ledger.registered _ (ledger.clients inquiry asked)).handles) 0
  have apart := (List.nodup_append.mp (ledger.balanced.nodup_iff.mp distinct)).2.2
  intro ended
  refine apart _ ended _ ?_ rfl
  exact List.mem_flatMap.mpr ⟨record, member, List.mem_map_of_mem opened⟩

/-! ## Steps of a read -/

theorem IsHeld.prior (held : IsHeld race call started (trace ++ after)) :
    IsHeld race call started trace :=
  fun earlier moment later split => held earlier moment (later ++ after) (by simp [split])

/-- Calls that begin make no difference to a read. -/
theorem Stage.enters (stage : Stage race call started system returned) {asked : List Inquiry}
    (enters : Enters asked system turn) : Stage race call started turn.1 returned := by
  cases stage with
  | waits member number owned begun runs =>
    exact .waits (enters.kept member) number owned begun (enters.now ▸ runs)
  | closed returns known unowned =>
    refine .closed returns (by rw [enters.nextCall]; omega) fun record member number => ?_
    obtain old | new := enters.old_or_new member
    · exact unowned record old number
    · omega

/-- What becomes of another call makes no difference to a read. -/
theorem Stage.other (stage : Stage race call started system returned) {record after : CallRecord}
    {next : System} (replaces : system.Replaces record after next) (now : next.now = system.now)
    (different : record.id ≠ call) (same : after.id = record.id) :
    Stage race call started next returned := by
  cases stage with
  | waits member number owned begun runs =>
    have apart : _ ≠ record.id := fun equal => different (equal.symm.trans number)
    exact .waits (replaces.kept _ member apart) number owned begun (now ▸ runs)
  | closed returns known unowned =>
    refine .closed returns (replaces.nextCall ▸ known) fun other member number => ?_
    obtain ⟨old, -⟩ | rfl := replaces.member other member
    · exact unowned other old number
    · exact absurd (same.symm.trans number) different

/-- When the part of an endpoint ends, a read that waits goes on to wait or is decided, provided
that the endpoint is done then. -/
theorem Stage.ended (stage : Stage race call started system returned) (numbered : system.Numbered)
    {other : Nat} {record : CallRecord} (found : system.call? other = some record) {leg : Leg}
    {outcome : Outcome} (member : leg ∈ record.call.legs)
    (done : other = call → record.call.started = started → race.Runs system.now record.call →
      system.now = record.call.started + race.finish leg.place leg.endpoint ∧
        race.result leg.place leg.endpoint = outcome) :
    Stage race call started (system.endLeg record leg outcome).1 returned := by
  obtain ⟨replaces, now, -⟩ := numbered.replaces_endLeg found leg outcome
  obtain ⟨there, number⟩ := mem_of_call? found
  by_cases own : other = call
  · subst own
    cases stage with
    | waits waiting same owned begun runs =>
      obtain rfl := numbered.eq_of_id waiting there (same.trans number.symm)
      obtain ⟨at_last, rfl⟩ := done rfl begun runs
      have goes_on := runs.endLeg member at_last
      refine .waits (replaces.own.resolve_right fun unowned => ?_) number owned begun ?_
      · rw [show _ = none from unowned] at owned
        cases owned
      · rw [now]
        exact goes_on
    | closed returns known unowned =>
      refine .closed returns (replaces.nextCall ▸ known) fun later member same => ?_
      obtain ⟨old, -⟩ | rfl := replaces.member later member
      · exact unowned later old same
      · exact unowned record there number
  · exact stage.other replaces now (number ▸ own) rfl

/-- A verdict that goes to its owner is one that the race may have, if it is the read that returns.
-/
theorem Stage.delivered (stage : Stage race call started system returned)
    (numbered : system.Numbered) {other : Nat} {record : CallRecord} {owner : Owner}
    {verdict : Verdict} (found : system.call? other = some record)
    (owned : record.owner = some owner) (decided : record.call.verdict = some verdict)
    (delivered : system.deliver record owner verdict = some turn) :
    Stage race call started (system.setCall { record with owner := none })
      (returned ++ if other = call then [⟨system, .callReturned other, turn.2⟩] else []) := by
  have replaces : system.Replaces record { record with owner := none } _ :=
    numbered.replaces_setCall found rfl
  obtain ⟨there, number⟩ := mem_of_call? found
  split
  · next own =>
    subst own
    cases stage with
    | waits waiting same owned_still begun runs =>
      obtain rfl := numbered.eq_of_id waiting there (same.trans number.symm)
      refine .closed ⟨rfl, begun ▸ runs.started, _, owner, verdict, found, owned, decided, ?_, ?_⟩
        ?_ fun later member same => ?_
      · exact begun ▸ runs.decided verdict decided
      · rintro name rfl
        exact congrArg Prod.snd (Option.some.inj delivered).symm
      · rw [replaces.nextCall, ← number]
        exact numbered.below _ there
      · obtain ⟨-, apart⟩ | rfl := replaces.member later member
        · exact absurd (same.trans number.symm) apart
        · rfl
    | closed returns known unowned =>
      exact nomatch (unowned record there number).symm.trans owned
  · next different =>
    have now : (system.setCall { record with owner := none }).now = system.now := by
      rw [setCall_eq]
    rw [List.append_nil]
    exact stage.other replaces now (number ▸ different) rfl

/-- Time passes only while a read that waits is undecided, and no further than to the moment at
which the next endpoint is done. -/
theorem Stage.passed (stage : Stage race call started system returned)
    (ledger : Ledger trace system) {now : Nat} (settled : system.isSettled = true)
    (forward : system.now ≤ now) (due : ∀ deadline ∈ system.deadlines, now ≤ deadline)
    (passes : (Event.timePassed now).InRace race call started
      ((completions trace).map Completion.part) system.now) :
    Stage race call started { system with now } returned := by
  cases stage with
  | @waits record member number owned begun runs =>
    have undecided := (pending_of_settled settled member).1 owned
    refine .waits member number owned begun (runs.later forward undecided fun leg opened => ?_)
    have within : now ≤ record.call.started + leg.endpoint.timeout.nanoseconds := by
      refine due _ (List.mem_append_right _ (List.mem_flatMap.mpr ⟨record, member, ?_⟩))
      exact List.mem_map_of_mem opened
    -- An endpoint that answers in time has time left because the race is held, another because the
    -- system does not pass a deadline.
    by_cases punctual : race.delay leg.place ≤ leg.endpoint.timeout.nanoseconds
    · have unanswered := ledger.not_ended member opened
      rw [number] at unanswered
      have enters := runs.enters leg opened
      have order := not_lt.mp fun beyond => unanswered (passes leg.place
        (List.getElem?_eq_some_iff.mp enters).1 leg.endpoint enters punctual beyond)
      rw [Race.finish, Nat.min_eq_left punctual, begun]
      exact order
    · rw [Race.finish, Nat.min_eq_right (Nat.le_of_not_le punctual)]
      exact within
  | closed returns known unowned => exact .closed returns known unowned

theorem Stage.step (stage : Stage race call started system returned) (ledger : Ledger trace system)
    (numbered : system.Numbered) (stepped : system.step event = some turn)
    (held : IsHeld race call started (trace ++ [⟨system, event, turn.2⟩])) :
    Stage race call started turn.1
      (returned ++ returnsOf call [⟨system, event, turn.2⟩]) := by
  have in_race := held trace _ [] rfl
  cases posting stepped with
  | begun enters unreturned =>
    have none_returns : returnsOf call [⟨system, event, turn.2⟩] = [] := by
      cases event with
      | callReturned other => exact absurd rfl (unreturned other)
      | _ => rfl
    rw [none_returns, List.append_nil]
    exact stage.enters enters
  | @returned other record owner verdict returns found owned decided delivered enters =>
    subst returns
    have after := stage.delivered numbered found owned decided delivered
    have same : returnsOf call [⟨system, .callReturned other, turn.2⟩] =
        if other = call then [⟨system, .callReturned other, turn.2⟩] else [] := by
      by_cases own : other = call <;> simp [returnsOf, Event.returnsCall, own]
    exact same ▸ after.enters enters
  | @expired other place record leg expires found opened due after =>
    subst expires after
    obtain ⟨member, spot⟩ := Call.mem_of_leg? opened
    refine (List.append_nil returned).symm ▸ stage.ended numbered found member ?_
    rintro rfl begun runs
    subst spot
    exact runs.expired member due (in_race rfl leg.endpoint (runs.enters leg member))
  | @ended other place record leg outcome ends found opened fit after =>
    subst ends after
    obtain ⟨member, spot⟩ := Call.mem_of_leg? opened
    refine (List.append_nil returned).symm ▸ stage.ended numbered found member ?_
    rintro rfl begun runs
    obtain ⟨now, rfl⟩ := in_race rfl
    subst spot
    exact runs.answered member (begun.symm ▸ now)
  | @passed now passes settled forward due after =>
    subst passes after
    refine (List.append_nil returned).symm ▸ stage.passed ledger settled forward due ?_
    exact in_race

/-! ## Reads in runs -/

/-- A read waits from its beginning. -/
theorem Ledger.stage (ledger : Ledger trace system)
    (stepped : system.step event = some turn) {offset : Nat} {inquiry : Inquiry}
    (asks : (Moment.mk system event turn.2).inquiries[offset]? = some inquiry)
    (reads : inquiry.request.isRead = true)
    (entered : race.endpoints = inquiry.client.set.endpoints) :
    Stage race ((inquiries trace).length + offset) system.now turn.1 [] := by
  have handles : inquiry.client.handles.length = inquiry.client.set.endpoints.length :=
    (ledger.registered _ (Moment.mem_inquiries (List.mem_of_getElem? asks))).handles
  have enrolled {middle : System} (now : middle.now = system.now)
      (nextCall : middle.nextCall = system.nextCall)
      (enters : Enters (Moment.mk system event turn.2).inquiries middle turn) :
      Stage race ((inquiries trace).length + offset) system.now turn.1 [] := by
    obtain ⟨begun, calls, entries, owned⟩ := enters.calls
    have entry : ((inquiries trace).length + offset,
        inquiry.client.call inquiry.request system.now) ∈
        begun.map fun record => (record.id, record.call) := by
      rw [entries, now, nextCall, ledger.nextCall]
      refine List.mem_map.mpr ⟨(inquiry, (inquiries trace).length + offset), ?_, rfl⟩
      rw [List.mk_mem_zipIdx_iff_le_and_getElem?_sub, Nat.add_sub_cancel_left]
      exact ⟨Nat.le_add_right _ _, asks⟩
    obtain ⟨record, member, same⟩ := List.mem_map.mp entry
    obtain ⟨number, call⟩ := Prod.mk.inj same
    refine .waits (calls ▸ List.mem_append_right _ member) number (owned record member) ?_ ?_
    · rw [call]
      rfl
    · rw [call, enters.now, now]
      exact Race.runs_call handles reads entered
  cases posting stepped with
  | begun enters => exact enrolled rfl rfl enters
  | returned returns found owned decided delivered enters =>
    exact enrolled (by rw [setCall_eq]) (frame_setCall ..).2.2.2 enters
  | expired expires found opened due after =>
    subst expires after
    cases asks
  | ended ends found opened fit after =>
    subst ends after
    cases asks
  | passed passes settled forward due after =>
    subst passes after
    cases asks

theorem returnsOf_append (call : Nat) (first second : List Moment) :
    returnsOf call (first ++ second) = returnsOf call first ++ returnsOf call second :=
  List.filter_append ..

/-- A read that waits goes on as its race does. -/
theorem Run.stage (run : Run next after final) (prior : Run start before next)
    (new : start.IsNew) (first : start.nextCall = 0) {sets : List EndpointSet}
    (built : (start.health, start.clients) = Client.ofSets {} sets)
    (held : IsHeld race call started (before ++ after)) (stage : Stage race call started next []) :
    Stage race call started final (returnsOf call after) := by
  induction run with
  | refl => exact stage
  | @step after system event next effects later stepped inductionHypothesis =>
    have whole := prior.trans later
    rw [← List.append_assoc] at held
    rw [returnsOf_append]
    exact (inductionHypothesis held.prior).step (whole.ledger new first built)
      (whole.converses new).numbered stepped held

/-- A read to whose nodes a race is held returns once, at the moment at which the race is decided,
with a verdict that the race may have. Before any time passes from that moment it has returned. -/
theorem Run.reads_are_raced (run : Run start (before ++ moment :: after) final)
    (new : start.IsNew) (first : start.nextCall = 0) {sets : List EndpointSet}
    (built : (start.health, start.clients) = Client.ofSets {} sets) {offset : Nat}
    {inquiry : Inquiry} (asks : moment.inquiries[offset]? = some inquiry)
    (reads : inquiry.request.isRead = true)
    (number : call = (inquiries before).length + offset)
    (entered : race.endpoints = inquiry.client.set.endpoints)
    (held : IsHeld race call moment.before.now (before ++ moment :: after)) :
    ∃ time, (∃ verdict, race.Decides time verdict) ∧
      (∀ other verdict, race.Decides other verdict → other = time) ∧
      (∀ returning ∈ returnsOf call after, returning.before.now = moment.before.now + time ∧
        ∃ record owner verdict, returning.before.call? call = some record ∧
          record.owner = some owner ∧ record.call.verdict = some verdict ∧
          race.Decides time verdict ∧ verdict ≠ inquiry.client.unansweredVerdict ∧
          ∀ name, owner = .caller name → returning.effects = [.returned name verdict]) ∧
      (returnsOf call after).length ≤ 1 ∧
      (moment.before.now + time < final.now → (returnsOf call after).length = 1) := by
  obtain ⟨prior, -⟩ := run.split
  obtain ⟨next, stepped, later⟩ := run.resume
  have nonempty : race.endpoints ≠ [] := entered ▸ inquiry.client.set.nonempty
  obtain ⟨time, verdict, decides⟩ := Race.exists_decides nonempty
  have unique : ∀ other verdict, race.Decides other verdict → other = time :=
    fun other verdict rival => decides.time_unique rival
  have begins := (prior.ledger new first built).stage stepped asks reads entered
  rw [← number] at begins
  have stage := later.stage (prior.step stepped) new first built
    (by rwa [List.append_assoc]) begins
  refine ⟨time, ⟨verdict, decides⟩, unique, ?_⟩
  generalize returnsOf call after = returned at stage
  cases stage with
  | @waits record member number owned begun runs =>
    refine ⟨List.forall_mem_nil _, Nat.zero_le _, fun late => ?_⟩
    -- A read that still waits is undecided, or has been decided at this very moment.
    cases undelivered : record.call.verdict with
    | none =>
      have in_time := runs.not_late undelivered decides
      omega
    | some decided =>
      have now := unique _ _ (runs.decided decided undelivered)
      omega
  | closed returns known unowned =>
    refine ⟨fun returning member => ?_, Nat.le_refl _, fun _ => rfl⟩
    obtain rfl := List.mem_singleton.mp member
    obtain ⟨record, owner, verdict, found, owned, decided, rival, told⟩ := returns.decided
    have same := unique _ _ rival
    have begun := returns.begun
    refine ⟨by omega, record, owner, verdict, found, owned, decided, same ▸ rival,
      rival.ne_unanswered _, told⟩

/-! ## Races that are held -/

instance (race : Race) (call started : Nat) (ended : List (Nat × Nat)) (now : Nat) (event : Event) :
    Decidable (event.InRace race call started ended now) := by
  cases event <;> unfold Event.InRace <;> infer_instance

/-- It can be seen moment by moment whether a race is held. -/
theorem isHeld_iff : IsHeld race call started trace ↔
    ∀ index, ∀ within : index < trace.length, (trace.get ⟨index, within⟩).event.InRace race call
      started ((completions (trace.take index)).map Completion.part)
      (trace.get ⟨index, within⟩).before.now := by
  constructor
  · intro held index within
    refine held (trace.take index) _ (trace.drop (index + 1)) ?_
    rw [List.get_eq_getElem, List.getElem_cons_drop, List.take_append_drop]
  · rintro each earlier moment later rfl
    simpa using each earlier.length (by simp)

instance : Decidable (IsHeld race call started trace) :=
  decidable_of_iff _ isHeld_iff.symm

/-- The common node fails after five milliseconds, and the other answers after seven. -/
def sharedRace : Race where
  endpoints := [⟨"shared", .ofSeconds 10⟩, ⟨"other", .ofSeconds 10⟩]
  delay place := if place = 0 then 5_000_000 else 7_000_000
  answer place := if place = 0 then .failed (.http "down") else .replied (.amounts [])

/-- Both nodes are asked for balances. -/
def racing : List Event :=
  [.request 0 (.getBalances [] 100) 7, .timePassed 5_000_000,
    .legEnded 0 0 (.failed (.http "down")), .timePassed 7_000_000,
    .legEnded 0 1 (.replied (.amounts [])), .callReturned 0, .timePassed 8_000_000]

/-- When the second node has answered, the caller is told what it has given. -/
theorem reads_are_raced_shared : ∃ moment after final,
    Run sharedSystem (moment :: after) final ∧ final.now = 8_000_000 ∧
      IsHeld sharedRace 0 moment.before.now (moment :: after) ∧
      ∃ returning verdict, returnsOf 0 after = [returning] ∧ returning.before.now = 7_000_000 ∧
        sharedRace.Decides 7_000_000 verdict ∧ returning.effects = [.returned 7 verdict] := by
  obtain ⟨trace, final, run, checked⟩ := @exists_replayed_run racing sharedSystem
    (fun trace final => match trace with
      | [] => false
      | moment :: after => decide (final.now = 8_000_000 ∧ moment.before.now = 0 ∧
          IsHeld sharedRace 0 moment.before.now (moment :: after) ∧ (returnsOf 0 after).length = 1 ∧
          ∀ returning ∈ returnsOf 0 after, returning.before.now = 7_000_000 ∧
            ∀ record ∈ returning.before.call? 0, record.owner = some (.caller 7)) &&
        (moment.inquiries[0]?).any fun inquiry => decide (inquiry.request.isRead = true ∧
          sharedRace.endpoints = inquiry.client.set.endpoints)) (by decide)
  obtain _ | ⟨moment, after⟩ := trace
  · cases checked
  rw [Bool.and_eq_true, Option.any_eq_true] at checked
  obtain ⟨checked, inquiry, asks, enters⟩ := checked
  obtain ⟨late, started, held, single, returned⟩ := of_decide_eq_true checked
  obtain ⟨reads, entered⟩ := of_decide_eq_true enters
  have whole : Run sharedSystem ([] ++ moment :: after) final := run
  obtain ⟨time, -, -, decided, -, -⟩ :=
    whole.reads_are_raced ⟨rfl, rfl⟩ rfl rfl asks reads rfl entered held
  obtain ⟨returning, only⟩ := List.length_eq_one_iff.mp single
  have member : returning ∈ returnsOf 0 after := only ▸ List.mem_singleton_self _
  obtain ⟨now, record, owner, verdict, found, owned, -, decides, -, told⟩ :=
    decided returning member
  obtain ⟨seven, asker⟩ := returned returning member
  obtain rfl : time = 7_000_000 := by omega
  exact ⟨moment, after, final, run, late, held, returning, verdict, only, seven, decides,
    told 7 (Option.some.inj (owned.symm.trans (asker record found)))⟩

end Inclusion.System
