import Inclusion.Proofs.System.Dialogue
import Inclusion.Proofs.System.Fates

/-!
# What the nodes have told pollers

A poller waits for one call at most, which is the one that it asks for. If the call is decided by an
answer, a node has given that answer, to that very request. When the transactions of a hash have
been found, the poller puts the second request of the same poll at once, so it is known from which
answer the request has been made.
-/

namespace Inclusion.System

/-- A node answers a request that somebody has put and waits for. -/
inductive Moment.Answers (moment : Moment) (call : Nat) (owner : Owner) (request : Request)
    (reply : Reply) : Prop where
  | intro {place record} (event : moment.event = .legEnded call place (.replied reply))
      (found : moment.before.call? call = some record) (owned : record.owner = some owner)
      (request : record.call.request = request)

/-- A poller has found transactions of a hash: a node has answered so, and when the call has
returned the poller has asked at once whether one of them is included, by the call of the given
number. -/
inductive Found (trace : List Moment) (poller : Nat) (bundle : Hash) (hashes : List Hash)
    (judge : Nat) : Prop where
  | intro {earlier answer moment later find} (split : trace = earlier ++ moment :: later)
      (earlier : answer ∈ earlier)
      (answers : answer.Answers find (.poller poller) (.findTransactions [bundle]) (.hashes hashes))
      (nonempty : hashes ≠ []) (returns : moment.event = .callReturned find)
      (asks : .monitor (.query poller (.getInclusionStates hashes)) ∈ moment.effects)
      (number : moment.before.nextCall = judge)

/-- What a call asks for the second time in a poll is what was found the first time. -/
def Begun (trace : List Moment) (poller : Nat) (bundle : Hash) (record : CallRecord) : Prop :=
  ∀ hashes, record.call.request = .getInclusionStates hashes →
    Found trace poller bundle hashes record.id

/-- What has led to the call of a poller, and to its verdict if that is an answer. -/
structure Evident (trace : List Moment) (poller : Nat) (bundle : Hash) (record : CallRecord) :
    Prop where
  begun : Begun trace poller bundle record
  answered : ∀ answer, record.call.verdict = some (.answered answer) →
    ∃ earlier moment later, trace = earlier ++ moment :: later ∧
      Begun earlier poller bundle record ∧
      moment.Answers record.id (.poller poller) record.call.request answer.value

/-- A poller waits for one call at most, by which it asks what it has to ask. -/
structure Polls (trace : List Moment) (system : System) (id : Nat) : Prop where
  single : (system.asked (.poller id)).length ≤ 1
  evident : ∀ record ∈ system.asked (.poller id), ∃ bundle,
    system.monitor.asking id = some (bundle, record.call.request) ∧ Evident trace id bundle record

variable {start final system next : System} {trace : List Moment} {id : Nat} {event : Event}
  {turn : Turn} {bundle : Hash} {record : CallRecord}

theorem Found.mono {hashes : List Hash} {judge : Nat} (found : Found trace id bundle hashes judge)
    (more : List Moment) : Found (trace ++ more) id bundle hashes judge := by
  obtain ⟨split, earlier, answers, nonempty, returns, asks, number⟩ := found
  exact ⟨by rw [split, List.append_assoc, List.cons_append], earlier, answers, nonempty, returns,
    asks, number⟩

theorem Begun.mono (begun : Begun trace id bundle record) (more : List Moment) :
    Begun (trace ++ more) id bundle record :=
  fun hashes asks => (begun hashes asks).mono more

theorem Evident.mono (evident : Evident trace id bundle record) (more : List Moment) :
    Evident (trace ++ more) id bundle record := by
  refine ⟨evident.begun.mono more, fun answer decided => ?_⟩
  obtain ⟨earlier, moment, later, split, begun, answers⟩ := evident.answered answer decided
  exact ⟨earlier, moment, later ++ more, by rw [split, List.append_assoc, List.cons_append], begun,
    answers⟩

/-- What is known of a poller stays known while it waits for the same call. -/
theorem Polls.kept (polls : Polls trace system id) (moment : Moment)
    (asked : next.asked (.poller id) = system.asked (.poller id))
    (asking : next.monitor.asking id = system.monitor.asking id) :
    Polls (trace ++ [moment]) next id := by
  refine ⟨asked ▸ polls.single, fun record waits => ?_⟩
  obtain ⟨bundle, asks, evident⟩ := polls.evident record (asked ▸ waits)
  exact ⟨bundle, asking.trans asks, evident.mono [moment]⟩

/-- Of a poller that waits for nothing there is nothing to know. -/
theorem Polls.of_idle (idle : system.asked (.poller id) = []) : Polls trace system id :=
  ⟨by simp [idle], by simp [idle]⟩

/-! ## Calls that begin -/

/-- The calls of pollers after a turn of the monitor in which one of them asks. -/
theorem asked_afterMonitor {now : Nat} {monitorEvent : Monitor.Event Watcher}
    {after : Monitor.Turn Watcher} {request : Request}
    (move : Monitor.Move now system.monitor monitorEvent after)
    (asks : request ∈ Monitor.queries id after.2) :
    (system.afterMonitor after).1.asked (.poller id) = system.asked (.poller id) ++
      (system.clients[system.monitorClient]?).toList.map fun client =>
        ⟨system.nextCall, some (.poller id), client.call request system.now⟩ := by
  obtain ⟨poller, -, -, only, -⟩ := move.queries_inv asks
  rw [afterMonitor, only]
  show ({ system with monitor := after.1 }.beginCall (.poller id) _ request).1.asked _ = _
  rw [asked_beginCall, if_pos rfl]
  rfl

/-- A poller that waits for nothing and asks waits for that. -/
theorem Polls.asks {now : Nat} {monitorEvent : Monitor.Event Watcher}
    {after : Monitor.Turn Watcher} {request : Request}
    (idle : system.asked (.poller id) = [])
    (move : Monitor.Move now system.monitor monitorEvent after)
    (asks : request ∈ Monitor.queries id after.2)
    (begun : ∀ poller, system.monitor.poller? id = some poller → ∀ hashes,
      request = .getInclusionStates hashes →
        Found trace id poller.bundle hashes system.nextCall) :
    Polls trace (system.afterMonitor after).1 id := by
  obtain ⟨poller, found, -, -, asking, -⟩ := move.queries_inv asks
  have asked := asked_afterMonitor move asks
  have monitor : (system.afterMonitor after).1.monitor = after.1 :=
    (attends_carryOut_serveMonitor _ _).2.2
  rw [idle, List.nil_append] at asked
  constructor
  · rw [asked, List.length_map]
    exact Option.length_toList_le
  · intro record waits
    rw [asked] at waits
    obtain ⟨client, -, rfl⟩ := List.mem_map.mp waits
    refine ⟨poller.bundle, by rw [monitor]; exact asking, fun hashes same => ?_,
      fun answer answered => absurd answered (client.call_not_answered request _ answer)⟩
    exact begun poller found hashes same

/-! ## Calls that go on and return -/

/-- A leg that ends may decide the call of a poller. -/
theorem Polls.ended (polls : Polls trace system id) (numbered : system.Numbered) {call : Nat}
    (found : system.call? call = some record) {leg : Leg} {outcome : Outcome}
    (begin : event = .legEnded call leg.place outcome ∨
      event = .legExpired call leg.place ∧ outcome.isFailure = true) :
    Polls (trace ++ [⟨system, event, (system.endLeg record leg outcome).2⟩])
      (system.endLeg record leg outcome).1 id := by
  obtain ⟨member, number⟩ := mem_of_call? found
  let booked : System := { system with
    health := system.health.record leg.handle outcome.isFailure system.now }
  let after : CallRecord := { record with call := record.call.endLeg leg outcome system.now }
  have monitor : (booked.setCall after).monitor = system.monitor := (frame_setCall ..).2.2.1
  have numbered : booked.Numbered := ⟨numbered.distinct, numbered.below⟩
  by_cases owned : record.owner = some (.poller id)
  · obtain ⟨before, behind⟩ :=
      @Numbered.asked_own booked numbered call record found after rfl _ owned polls.single
    have behind : (booked.setCall after).asked (.poller id) = [after] := behind.trans (if_pos owned)
    have waits : record ∈ system.asked (.poller id) :=
      mem_asked.mpr ⟨member, owned⟩
    obtain ⟨bundle, asks, evident⟩ := polls.evident record waits
    constructor
    · exact Nat.le_of_eq (congrArg List.length behind)
    · intro other waits
      obtain rfl : other = after := List.mem_singleton.mp (behind ▸ waits)
      refine ⟨bundle, by rw [← monitor] at asks; exact asks, evident.begun.mono _, ?_⟩
      intro answer decided
      cases verdict : record.call.verdict with
      | some before =>
        have kept : after.call.verdict = record.call.verdict := by
          show Call.judge record.call.verdict leg outcome _ _ = _
          rw [verdict]
          rfl
        exact (evident.mono _).answered answer (kept.symm.trans decided)
      | none =>
        have judged : Call.judge none leg outcome (record.call.legs.filter fun other =>
            other.place ≠ leg.place) (system.now - record.call.started) =
              some (.answered answer) := verdict ▸ decided
        cases outcome with
        | failed cause =>
          rw [Call.judge] at judged
          obtain ⟨-, ⟨⟩⟩ := Option.ite_none_right_eq_some.mp judged
        | replied reply =>
          obtain rfl : _ = answer := Verdict.answered.inj (Option.some.inj judged)
          obtain rfl | ⟨-, failed⟩ := begin
          · exact ⟨trace, _, [], rfl, evident.begun,
              ⟨congrArg (Event.legEnded · leg.place _) number.symm, number ▸ found, owned, rfl⟩⟩
          · cases failed
  · refine polls.kept _ ?_ (congrArg (Monitor.asking · id) monitor)
    exact @Numbered.asked_others booked numbered call record found after rfl (.poller id) owned
      owned

/-- When the call of a poller returns it waits for nothing, unless it asks at once for what has been
found. -/
theorem Polls.returned (polls : Polls trace system id) (numbered : system.Numbered) {call : Nat}
    (found : system.call? call = some record) (owned : record.owner = some (.poller id))
    {verdict : Verdict} (decided : record.call.verdict = some verdict)
    (stepped : (system.setCall { record with owner := none }).stepMonitor
      (.pollerAnswered id verdict) = some turn) :
    Polls (trace ++ [⟨system, .callReturned call, turn.2⟩]) turn.1 id := by
  obtain ⟨member, number⟩ := mem_of_call? found
  let released := system.setCall { record with owner := none }
  obtain ⟨-, -, monitor, nextCall⟩ := frame_setCall system { record with owner := none }
  have waits : record ∈ system.asked (.poller id) :=
    mem_asked.mpr ⟨member, owned⟩
  obtain ⟨bundle, asks, evident⟩ := polls.evident record waits
  have idle : released.asked (.poller id) = [] :=
    (@Numbered.asked_own _ numbered _ _ found { record with owner := none } rfl _ owned
      polls.single).2
  have numbered : released.Numbered := numbered.setCall found rfl
  have tends := tends_stepMonitor stepped
  by_cases silent : Monitor.queries id (monitorEffects turn.2) = []
  · exact .of_idle ((tends.attends.asked numbered id silent).trans idle)
  · obtain ⟨after, move, rfl, seen, -⟩ := stepMonitor_eq_some stepped
    obtain ⟨request, asking⟩ := List.exists_mem_of_ne_nil _ (seen ▸ silent)
    obtain ⟨poller, there, -, only, -, ⟨⟨⟩, -⟩ | ⟨hashes, endpoint, elapsed, nonempty, stands, same,
      rfl⟩⟩ := move.queries_inv asking
    obtain rfl : verdict = _ := (Monitor.Event.pollerAnswered.inj same).2
    refine .asks idle move asking fun other again others asks_others => ?_
    obtain rfl := Option.some.inj (there.symm.trans again)
    obtain rfl := Request.getInclusionStates.inj asks_others
    -- The poller has asked for the transactions of its own hash.
    rw [monitor] at there
    rw [Monitor.asking, there] at asks
    have own : (poller.bundle, Request.findTransactions [poller.bundle]) =
        (bundle, record.call.request) := by
      simpa [Poller.inquiry?, stands] using asks
    obtain ⟨rfl, request⟩ := Prod.mk.inj own
    obtain ⟨earlier, answer, later, split, -, answers⟩ := evident.answered _ decided
    rw [← request, number] at answers
    refine ⟨rfl, by simp [split], answers, nonempty, rfl, mem_monitorEffects.mp ?_, nextCall.symm⟩
    rw [seen, only]
    exact List.mem_singleton_self _

/-! ## All steps -/

/-- The monitor asks for a poller that has looked around, or whose call has returned. -/
theorem Tends.asks {allowed : Monitor.Event Watcher → Prop} (tends : system.Tends allowed turn)
    (asks : Monitor.queries id (monitorEffects turn.2) ≠ []) :
    allowed (.pollerLooked id) ∨ ∃ verdict, allowed (.pollerAnswered id verdict) := by
  obtain ⟨-, entries, run, seen, events⟩ := tends
  obtain ⟨request, asking⟩ := List.exists_mem_of_ne_nil _ asks
  obtain ⟨effect, member, own⟩ := List.mem_filterMap.mp asking
  obtain ⟨entry, there, effect⟩ := Monitor.mem_seen.mp (seen ▸ member)
  obtain ⟨next, move⟩ := run.moved there
  have permitted := events entry there
  obtain ⟨poller, -, -, -, -, ⟨looked, -⟩ | ⟨_, _, _, -, -, answered, -⟩⟩ :=
    move.queries_inv (List.mem_filterMap.mpr ⟨_, effect, own⟩)
  · exact .inl (looked ▸ permitted)
  · exact .inr ⟨_, answered ▸ permitted⟩

/-- Apart from returns, no poller hears of its call. -/
theorem Commissions.unreturned {monitorEvent : Monitor.Event Watcher}
    (commissions : Commissions system event monitorEvent) (elsewhere : system.Elsewhere event) :
    monitorEvent.returnsTo id = false := by
  cases commissions with
  | @poller poller monitorEvent own =>
    cases monitorEvent with
    | pollerAnswered => simp [Monitor.ownEvents] at own
    | _ => rfl
  | returned found owner => exact absurd owner (elsewhere.others _ _ _ rfl found)
  | _ => rfl

/-- Whatever happens, a poller waits for one call at most, and what is known of that is kept. -/
theorem Polls.step (polls : Polls trace system id) (numbered : system.Numbered)
    (stepped : system.step event = some turn) :
    Polls (trace ++ [⟨system, event, turn.2⟩]) turn.1 id := by
  cases attended stepped with
  | tended elsewhere tends =>
    by_cases silent : Monitor.queries id (monitorEffects turn.2) = []
    · refine polls.kept _ (tends.attends.asked numbered id silent) ?_
      obtain ⟨entries, run, seen, events⟩ := tends.moves
      exact run.asking_kept (seen ▸ silent) fun entry member =>
        (events entry member).unreturned elsewhere
    · have looks : event = .poller (.pollerLooked id) := by
        obtain looks | ⟨verdict, returns⟩ := tends.asks silent
        · cases looks
          rfl
        · have unreturned := @Commissions.unreturned _ id _ _ returns elsewhere
          cases (decide_eq_true (rfl : id = id)).symm.trans unreturned
      subst looks
      obtain ⟨-, stepped⟩ := Option.ite_none_right_eq_some.mp stepped
      obtain ⟨after, move, rfl, seen, -⟩ := stepMonitor_eq_some stepped
      obtain ⟨request, asking⟩ := List.exists_mem_of_ne_nil _ (seen ▸ silent)
      obtain ⟨poller, there, -, -, -, ⟨-, stands, rfl⟩ | ⟨_, _, _, -, -, ⟨⟩, -⟩⟩ :=
        move.queries_inv asking
      have idle : system.asked (.poller id) = [] := by
        refine List.eq_nil_iff_forall_not_mem.mpr fun record waits => ?_
        obtain ⟨bundle, asks, -⟩ := polls.evident record waits
        simp [Monitor.asking, there, Poller.inquiry?, stands] at asks
      exact .asks idle move asking fun _ _ _ same => by cases same
  | @returned call record other verdict begin found owner decided delivered =>
    subst begin
    by_cases own : other = id
    · subst own
      exact polls.returned numbered found owner decided delivered
    · have elsewhere : record.owner ≠ some (.poller id) := by
        rw [owner]
        exact fun same => own (Owner.poller.inj (Option.some.inj same))
      have tends := tends_stepMonitor delivered
      have kept := @Numbered.asked_others _ numbered _ _ found { record with owner := none } rfl _
        elsewhere (Option.some_ne_none _).symm
      have monitor := (frame_setCall system { record with owner := none }).2.2.1
      obtain ⟨entries, run, seen, events⟩ := tends.moves
      have silent : Monitor.queries id (monitorEffects turn.2) = [] := by
        by_contra asks
        obtain ⟨⟨⟩⟩ | ⟨_, ⟨⟩⟩ := tends.asks asks
        exact own rfl
      refine polls.kept _ ?_ ?_
      · exact (tends.attends.asked (numbered.setCall found rfl) id silent).trans kept
      · rw [← monitor]
        refine run.asking_kept (seen ▸ silent) fun entry member => ?_
        rw [events entry member]
        exact decide_eq_false own
  | ended found opened begin after =>
    subst after
    exact polls.ended numbered found begin
  | @told place bundle registration begin found after =>
    obtain ⟨⟨monitor, -, calls, -⟩, -⟩ := frame_tellConfirmed { system with
      callbacks := system.callbacks.eraseIdx place } (bundle, registration)
    subst after
    refine polls.kept _ ?_ (congrArg (Monitor.asking · id) monitor)
    exact asked_congr calls (.poller id)

/-- In every run from the beginning, pollers wait for what they ask. -/
theorem Run.polls (run : Run start trace final) (new : start.IsNew) (id : Nat) :
    Polls trace final id := by
  induction run with
  | refl =>
    refine .of_idle ?_
    rw [asked, new.calls]
    rfl
  | step prior stepped inductionHypothesis =>
    exact inductionHypothesis.step (prior.converses new).numbered stepped

end Inclusion.System
