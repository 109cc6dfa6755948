import Inclusion.Proofs.Client
import Inclusion.Proofs.Health
import Inclusion.Proofs.System.Inquiries

/-!
# The books of a system

Every request that is put to a client reaches the endpoints that it is meant for once: all of them
if it only reads, the first and no other if it does not. Each endpoint's part of a call ends at most
once, with an answer, a failure or because its time is up, and is booked when it ends, whether the
call has been answered by then or not. So the figures of a label are the numbers of parts that have
ended in calls of the clients with that label. A call returns because of a part that has ended and
is therefore booked.

`Ledger` says how the calls of a system stand in a run: each has come from an inquiry, and its open
parts are those that have not ended.
-/

namespace Inclusion

/-- The end of an endpoint's part of a call: its outcome, or none if its time is up. -/
structure Completion where
  call : Nat
  place : Nat
  outcome : Option Outcome

namespace Completion

/-- The part that has ended, by call and place. -/
def part (completion : Completion) : Nat × Nat :=
  (completion.call, completion.place)

/-- Whether the endpoint failed or its time is up. -/
def isFailure (completion : Completion) : Bool :=
  completion.outcome.all Outcome.isFailure

/-- What is booked. -/
def result (completion : Completion) (endpoint : Endpoint) : Outcome :=
  completion.outcome.getD (.failed (.timeout endpoint.timeout))

theorem isFailure_result (completion : Completion) (endpoint : Endpoint) :
    (completion.result endpoint).isFailure = completion.isFailure := by
  obtain ⟨call, place, _ | outcome⟩ := completion <;> rfl

end Completion

namespace Inquiry

/-- The endpoints that a request is meant for, each of which it reaches once. -/
def reaches (inquiry : Inquiry) (call : Nat) : List System.Effect :=
  if inquiry.request.isRead then
    inquiry.client.set.endpoints.mapIdx fun place endpoint =>
      .launched call place endpoint.name inquiry.request
  else [.launched call 0 inquiry.client.set.first.name inquiry.request]

/-- The parts of a call. -/
def parts (inquiry : Inquiry) (call : Nat) : List (Nat × Nat) :=
  (inquiry.client.legsFor inquiry.request).map fun leg => (call, leg.place)

end Inquiry

/-- The parts of a call that are open. -/
def CallRecord.openParts (record : CallRecord) : List (Nat × Nat) :=
  record.call.legs.map fun leg => (record.id, leg.place)

/-- What is put to endpoints reaches those that it is meant for. -/
theorem Inquiry.launches_eq_reaches {inquiry : Inquiry}
    (handles : inquiry.client.handles.length = inquiry.client.set.endpoints.length) (call : Nat) :
    inquiry.launches call = inquiry.reaches call := by
  have all := Client.map_legs handles fun place endpoint =>
    System.Effect.launched call place endpoint.name inquiry.request
  unfold launches reaches Client.legsFor
  split
  · exact all
  · rw [List.map_take, all]
    have first : inquiry.client.set.endpoints =
        inquiry.client.set.first :: inquiry.client.set.endpoints.tail :=
      (List.cons_head_tail inquiry.client.set.nonempty).symm
    rw [first, List.mapIdx_cons]
    rfl

namespace System

/-- The end of an endpoint's part, if an event is one. -/
def Event.completion? : Event → Option Completion
  | legEnded call place outcome => some ⟨call, place, some outcome⟩
  | legExpired call place => some ⟨call, place, none⟩
  | _ => none

/-- The parts that end in a run, in order. -/
def completions (trace : List Moment) : List Completion :=
  trace.filterMap fun moment => moment.event.completion?

/-- The label of the client that a call is made of. -/
def label? (trace : List Moment) (call : Nat) : Option String :=
  ((inquiries trace)[call]?).map fun inquiry => inquiry.client.set.label

/-- The figures of every label are the numbers of parts that have ended, and have failed, in calls
of the clients with that label. -/
structure Counted (trace : List Moment) (system : System) : Prop where
  calls : ∀ label now, (system.health.stats label now).calls =
    (completions trace).countP fun completion => label? trace completion.call = some label
  errors : ∀ label now, (system.health.stats label now).errors =
    (completions trace).countP fun completion =>
      completion.isFailure && label? trace completion.call = some label

/-- A verdict comes of a part that has ended. -/
def ComesOf (trace : List Moment) (call : Nat) (verdict : Verdict) : Prop :=
  ∃ completion ∈ completions trace, completion.call = call ∧
    ∃ inquiry, (inquiries trace)[call]? = some inquiry ∧
      ∃ endpoint, inquiry.client.set.endpoints[completion.place]? = some endpoint ∧
        ∃ elapsed, verdict = (completion.result endpoint).verdict endpoint.name elapsed

/-- The parts of all calls, by number. -/
def parts (number : Nat) (asked : List Inquiry) : List (Nat × Nat) :=
  (asked.zipIdx number).flatMap fun (inquiry, number) => inquiry.parts number

/-- The parts that are open. -/
def openParts (calls : List CallRecord) : List (Nat × Nat) :=
  calls.flatMap CallRecord.openParts

/-- A call has come from an inquiry, and the verdict of a part that has ended. -/
structure Recorded (trace : List Moment) (record : CallRecord) : Prop where
  inquired : ∃ inquiry, (inquiries trace)[record.id]? = some inquiry ∧
    record.call.legs.Sublist (inquiry.client.legsFor inquiry.request)
  comes : ∀ verdict, record.call.verdict = some verdict → ComesOf trace record.id verdict

/-- How the calls of a system stand in a run. -/
structure Ledger (trace : List Moment) (system : System) : Prop where
  ordered : system.health.IsOrdered
  registered : ∀ client ∈ system.clients, client.IsRegistered system.health
  clients : ∀ inquiry ∈ inquiries trace, inquiry.client ∈ system.clients
  nextCall : system.nextCall = (inquiries trace).length
  launched : launches trace =
    (inquiries trace).zipIdx.flatMap fun (inquiry, number) => inquiry.launches number
  recorded : ∀ record ∈ system.calls, Recorded trace record
  balanced : (parts 0 (inquiries trace)).Perm
    ((completions trace).map Completion.part ++ openParts system.calls)
  counted : Counted trace system

variable {start system next final : System} {trace : List Moment} {moment : Moment} {turn : Turn}
  {event : Event} {asked : List Inquiry}

/-! ## Traces -/

theorem inquiries_concat (trace : List Moment) (moment : Moment) :
    inquiries (trace ++ [moment]) = inquiries trace ++ moment.inquiries := by
  simp [inquiries]

theorem launches_concat (trace : List Moment) (moment : Moment) :
    launches (trace ++ [moment]) = launches trace ++ moment.effects.filter Effect.isLaunch := by
  simp [launches]

theorem completions_concat (trace : List Moment) (moment : Moment) :
    completions (trace ++ [moment]) = completions trace ++ moment.event.completion?.toList := by
  simp only [completions, List.filterMap_append, List.filterMap_cons, List.filterMap_nil]
  cases moment.event.completion? <;> rfl

theorem ComesOf.mono {call : Nat} {verdict : Verdict} (comes : ComesOf trace call verdict)
    (moment : Moment) : ComesOf (trace ++ [moment]) call verdict := by
  obtain ⟨completion, member, same, inquiry, found, rest⟩ := comes
  refine ⟨completion, ?_, same, inquiry, ?_, rest⟩
  · rw [completions_concat]
    exact List.mem_append_left _ member
  · rw [inquiries_concat, List.getElem?_append_left (List.getElem?_eq_some_iff.mp found).1, found]

theorem Recorded.mono {record : CallRecord} (recorded : Recorded trace record) (moment : Moment) :
    Recorded (trace ++ [moment]) record where
  inquired := by
    obtain ⟨inquiry, found, legs⟩ := recorded.inquired
    refine ⟨inquiry, ?_, legs⟩
    rw [inquiries_concat, List.getElem?_append_left (List.getElem?_eq_some_iff.mp found).1, found]
  comes := fun verdict decided => (recorded.comes verdict decided).mono moment

/-- Only clients that are there are asked. -/
theorem Moment.mem_inquiries {inquiry : Inquiry} (member : inquiry ∈ moment.inquiries) :
    inquiry.client ∈ moment.before.clients := by
  have there {client? : Option Client} {request : Request}
      (present : ∀ client, client? = some client → client ∈ moment.before.clients)
      (asks : (client?.map fun client => Inquiry.mk client request) = some inquiry) :
      inquiry.client ∈ moment.before.clients := by
    obtain ⟨client, found, rfl⟩ := Option.map_eq_some_iff.mp asks
    exact present client found
  obtain outside | inside := List.mem_append.mp member
  · rw [Option.mem_toList] at outside
    unfold Event.inquiry? at outside
    split at outside
    · exact there (fun _ found => List.mem_of_getElem? found) outside
    · cases outside
  · obtain ⟨effect, -, asks⟩ := List.mem_filterMap.mp inside
    unfold Effect.inquiry? at asks
    split at asks
    · refine there (fun client fills => ?_) asks
      obtain ⟨engine, -, fills⟩ := Option.bind_eq_some_iff.mp fills
      obtain ⟨present, -, fills⟩ := Option.bind_eq_some_iff.mp fills
      exact List.mem_of_getElem? fills
    · exact there (fun _ found => List.mem_of_getElem? found) asks
    · cases asks

/-! ## Parts of calls -/

theorem parts_append (number : Nat) (first second : List Inquiry) :
    parts number (first ++ second) =
      parts number first ++ parts (number + first.length) second := by
  rw [parts, List.zipIdx_append, List.flatMap_append]
  rfl

theorem openParts_append (first second : List CallRecord) :
    openParts (first ++ second) = openParts first ++ openParts second :=
  List.flatMap_append

/-- All parts of calls that begin are open. -/
theorem openParts_begun {begun : List CallRecord} {now number : Nat}
    (entered : begun.map (fun record => (record.id, record.call)) = entries now number asked) :
    openParts begun = parts number asked := by
  have same : openParts begun = (begun.map fun record => (record.id, record.call)).flatMap
      fun (id, call) => call.legs.map fun leg => (id, leg.place) := by
    rw [List.flatMap_map]
    rfl
  rw [same, entered, entries, List.flatMap_map]
  rfl

theorem mem_parts {part : Nat × Nat} (member : part ∈ parts 0 asked) :
    ∃ inquiry, asked[part.1]? = some inquiry ∧ part ∈ inquiry.parts part.1 := by
  obtain ⟨⟨inquiry, number⟩, entry, there⟩ := List.mem_flatMap.mp member
  obtain ⟨leg, -, rfl⟩ := List.mem_map.mp there
  rw [List.mem_zipIdx_iff_getElem?] at entry
  exact ⟨inquiry, entry, there⟩

/-- Every part has a number of its own. -/
theorem nodup_parts (handles : ∀ inquiry ∈ asked,
      inquiry.client.handles.length = inquiry.client.set.endpoints.length) (number : Nat) :
    (parts number asked).Nodup := by
  induction asked generalizing number with
  | nil => exact List.nodup_nil
  | cons first rest inductionHypothesis =>
    -- The parts of one call differ by their places, and from those of later calls by the number.
    have split : parts number (first :: rest) = first.parts number ++ parts (number + 1) rest := rfl
    rw [split, List.nodup_append]
    refine ⟨?_, inductionHypothesis (fun inquiry member =>
      handles inquiry (List.mem_cons_of_mem _ member)) _, ?_⟩
    · have places := (Client.places_nodup (handles first List.mem_cons_self)).sublist
        ((first.client.legsFor_sublist first.request).map Leg.place)
      have numbered : first.parts number = ((first.client.legsFor first.request).map
          Leg.place).map fun place => (number, place) := by
        rw [List.map_map]
        rfl
      rw [numbered]
      exact places.map fun _ _ same => (Prod.mk.inj same).2
    · intro part here other there same
      obtain ⟨leg, -, rfl⟩ := List.mem_map.mp here
      obtain ⟨⟨inquiry, later⟩, entry, there⟩ := List.mem_flatMap.mp there
      obtain ⟨leg, -, rfl⟩ := List.mem_map.mp there
      have after := (List.mem_zipIdx entry).1
      have equal := (Prod.mk.inj same).1
      omega

/-! ## Steps -/

/-- A part that has ended belongs to a call that has begun. -/
theorem Ledger.inquired (ledger : Ledger trace system) {completion : Completion}
    (member : completion ∈ completions trace) :
    ∃ inquiry, (inquiries trace)[completion.call]? = some inquiry ∧
      completion.part ∈ inquiry.parts completion.call :=
  mem_parts (ledger.balanced.symm.subset
    (List.mem_append_left _ (List.mem_map_of_mem member)))

/-- The calls that begin later make no difference to the labels of those that have ended. -/
theorem Ledger.label?_concat (ledger : Ledger trace system) (moment : Moment)
    {completion : Completion} (member : completion ∈ completions trace) :
    label? (trace ++ [moment]) completion.call = label? trace completion.call := by
  obtain ⟨inquiry, found, -⟩ := ledger.inquired member
  rw [label?, label?, inquiries_concat,
    List.getElem?_append_left (List.getElem?_eq_some_iff.mp found).1]

/-- What is counted of the parts by outcome and label grows by what ends. -/
theorem countP_concat
    (labels : ∀ completion ∈ completions trace,
      label? (trace ++ [moment]) completion.call = label? trace completion.call)
    (counts : Completion → Option String → Bool) :
    ((completions (trace ++ [moment])).countP fun completion =>
        counts completion (label? (trace ++ [moment]) completion.call)) =
      ((completions trace).countP fun completion =>
        counts completion (label? trace completion.call)) +
      moment.event.completion?.toList.countP fun completion =>
        counts completion (label? (trace ++ [moment]) completion.call) := by
  rw [completions_concat, List.countP_append]
  refine congrArg (· + _) (List.countP_congr fun completion member => ?_)
  rw [labels completion member]

/-- Nothing is booked when no part ends. -/
theorem Ledger.counted_mono (ledger : Ledger trace system) (health : next.health = system.health)
    (unended : moment.event.completion? = none) : Counted (trace ++ [moment]) next := by
  have same (counts : Completion → Option String → Bool) :=
    countP_concat (fun _ member => ledger.label?_concat moment member) counts
  rw [unended] at same
  constructor
  · intro label now
    rw [health, ledger.counted.calls]
    exact (same fun _ given => given = some label).symm
  · intro label now
    rw [health, ledger.counted.errors]
    exact (same fun completion given => completion.isFailure && given = some label).symm

/-- What begins in a turn is entered in the books. -/
theorem Ledger.enters (ledger : Ledger trace system) (enters : Enters moment.inquiries system turn)
    (clients : moment.before.clients = system.clients) (effects : moment.effects = turn.2)
    (unended : moment.event.completion? = none) : Ledger (trace ++ [moment]) turn.1 := by
  obtain ⟨begun, calls, entered, -⟩ := enters.calls
  have done : completions (trace ++ [moment]) = completions trace := by
    rw [completions_concat, unended, Option.toList_none, List.append_nil]
  refine ⟨?_, ?_, ?_, ?_, ?_, ?_, ?_, ledger.counted_mono enters.health unended⟩
  · exact enters.health ▸ ledger.ordered
  · rw [enters.clients, enters.health]
    exact ledger.registered
  · intro inquiry member
    rw [enters.clients]
    rw [inquiries_concat, List.mem_append] at member
    exact member.elim (ledger.clients inquiry) fun last => clients ▸ Moment.mem_inquiries last
  · rw [enters.nextCall, ledger.nextCall, inquiries_concat, List.length_append]
  · rw [launches_concat, inquiries_concat, effects, enters.launches, ledger.launched,
      ledger.nextCall, List.zipIdx_append, List.flatMap_append, Nat.zero_add]
  · intro record member
    rw [calls, List.mem_append] at member
    obtain earlier | later := member
    · exact (ledger.recorded record earlier).mono moment
    · have entry : (record.id, record.call) ∈ entries system.now system.nextCall moment.inquiries :=
        entered ▸ List.mem_map_of_mem later
      obtain ⟨⟨inquiry, number⟩, asked, same⟩ := List.mem_map.mp entry
      obtain ⟨rfl, begins⟩ := Prod.mk.inj same
      rw [List.mk_mem_zipIdx_iff_le_and_getElem?_sub, ledger.nextCall] at asked
      have there : inquiry.client ∈ system.clients :=
        clients ▸ Moment.mem_inquiries (List.mem_of_getElem? asked.2)
      refine ⟨⟨inquiry, ?_, ?_⟩, ?_⟩
      · rw [inquiries_concat, List.getElem?_append_right asked.1]
        exact asked.2
      · rw [← begins]
        exact List.Sublist.refl _
      · intro verdict decided
        rw [← begins, Client.call_undecided (ledger.registered _ there).handles] at decided
        cases decided
  · rw [done, inquiries_concat, parts_append, calls, openParts_append, openParts_begun entered,
      ← List.append_assoc, ledger.nextCall, Nat.zero_add]
    exact ledger.balanced.append_right _

/-- One call of a system has become another, or is gone with all its parts if nobody waits for it,
and the rest is as it was. -/
structure Replaces (system : System) (record after : CallRecord) (next : System) : Prop where
  clients : next.clients = system.clients
  nextCall : next.nextCall = system.nextCall
  member : ∀ other ∈ next.calls, other ∈ system.calls ∧ other.id ≠ record.id ∨ other = after
  kept : ∀ other ∈ system.calls, other.id ≠ record.id → other ∈ next.calls
  own : after ∈ next.calls ∨ after.owner = none
  parts : ∃ before behind, openParts system.calls = before ++ record.openParts ++ behind ∧
    openParts next.calls = before ++ after.openParts ++ behind

theorem Numbered.replaces_setCall (numbered : system.Numbered) {call : Nat} {record : CallRecord}
    (found : system.call? call = some record) {after : CallRecord} (same : after.id = record.id) :
    system.Replaces record after (system.setCall after) := by
  have clients : (system.setCall after).clients = system.clients := by
    rw [setCall_eq]
  obtain ⟨earlier, later, calls, others, became⟩ := numbered.calls_setCall found same
  have member : ∀ other ∈ (system.setCall after).calls,
      other ∈ earlier ++ later ∨ other = after := by
    intro other there
    obtain kept | ⟨-, gone⟩ := became
    · rw [kept] at there
      simp only [List.mem_append, List.mem_cons] at there ⊢
      tauto
    · exact .inl (gone ▸ there)
  have kept : ∀ other ∈ earlier ++ later, other ∈ (system.setCall after).calls := by
    intro other there
    obtain kept | ⟨-, gone⟩ := became
    · rw [kept]
      simp only [List.mem_append, List.mem_cons] at there ⊢
      tauto
    · exact gone ▸ there
  refine ⟨clients, (frame_setCall system after).2.2.2, fun other there => ?_,
    fun other there different => kept other ?_, ?_, ?_⟩
  · refine (member other there).imp_left fun remains => ⟨?_, others other remains⟩
    rw [calls]
    simp only [List.mem_append, List.mem_cons] at remains ⊢
    tauto
  · rw [calls] at there
    simp only [List.mem_append, List.mem_cons] at there ⊢
    obtain before | rfl | behind := there
    · exact .inl before
    · exact absurd rfl different
    · exact .inr behind
  · refine became.imp (fun kept => ?_) fun gone => gone.1.1
    rw [kept]
    exact List.mem_append_right _ List.mem_cons_self
  · refine ⟨openParts earlier, openParts later, by simp [calls, openParts], ?_⟩
    obtain kept | ⟨⟨-, closed⟩, gone⟩ := became
    · simp [kept, openParts]
    · simp [gone, openParts, CallRecord.openParts, closed]

/-- When a part ends its call goes on without it, the outcome is booked, and no time passes. -/
theorem Numbered.replaces_endLeg (numbered : system.Numbered) {call : Nat} {record : CallRecord}
    (found : system.call? call = some record) (leg : Leg) (outcome : Outcome) :
    system.Replaces record { record with call := record.call.endLeg leg outcome system.now }
        (system.endLeg record leg outcome).1 ∧
      (system.endLeg record leg outcome).1.now = system.now ∧
      (system.endLeg record leg outcome).1.health =
        system.health.record leg.handle outcome.isFailure system.now := by
  let booked : System :=
    { system with health := system.health.record leg.handle outcome.isFailure system.now }
  let after : CallRecord := { record with call := record.call.endLeg leg outcome system.now }
  obtain ⟨clients, nextCall, member, kept, own, parts⟩ : booked.Replaces record after
      (booked.setCall after) :=
    @Numbered.replaces_setCall booked ⟨numbered.distinct, numbered.below⟩ _ _ found after rfl
  have same : (booked.setCall after).now = booked.now ∧
      (booked.setCall after).health = booked.health := by
    rw [setCall_eq]
    exact ⟨rfl, rfl⟩
  exact ⟨⟨clients, nextCall, member, kept, own, parts⟩, same⟩

/-- When a verdict has gone to its owner nothing is different in the books. -/
theorem Ledger.released (ledger : Ledger trace system) (numbered : system.Numbered) {call : Nat}
    {record : CallRecord} (found : system.call? call = some record) :
    Ledger trace (system.setCall { record with owner := none }) := by
  have health : (system.setCall { record with owner := none }).health = system.health := by
    rw [setCall_eq]
  have replaces : system.Replaces record { record with owner := none } _ :=
    numbered.replaces_setCall found rfl
  refine ⟨?_, ?_, ?_, ?_, ledger.launched, ?_, ?_, ⟨?_, ?_⟩⟩
  · exact health ▸ ledger.ordered
  · rw [replaces.clients, health]
    exact ledger.registered
  · exact replaces.clients ▸ ledger.clients
  · exact replaces.nextCall.trans ledger.nextCall
  · intro other there
    obtain ⟨earlier, -⟩ | rfl := replaces.member other there
    · exact ledger.recorded other earlier
    · have recorded := ledger.recorded record (mem_of_call? found).1
      exact ⟨recorded.inquired, recorded.comes⟩
  · obtain ⟨before, behind, parts, after_parts⟩ := replaces.parts
    exact (after_parts.trans parts.symm) ▸ ledger.balanced
  · exact health ▸ ledger.counted.calls
  · exact health ▸ ledger.counted.errors

/-- What ends is counted under the label of the client of its call. -/
theorem Counted.ended (counted : Counted trace system) (ordered : system.health.IsOrdered)
    {completion : Completion} {handle : Nat}
    (health : next.health = system.health.record handle completion.isFailure system.now)
    (label : label? trace completion.call = some (system.health.labelOf handle))
    (ends : moment.event.completion? = some completion) (uninquired : moment.inquiries = []) :
    Counted (trace ++ [moment]) next := by
  have labels : ∀ call, label? (trace ++ [moment]) call = label? trace call := fun call => by
    rw [label?, label?, inquiries_concat, uninquired, List.append_nil]
  have grown (counts : Completion → Option String → Bool) :=
    countP_concat (fun completion _ => labels completion.call) counts
  simp only [ends, Option.toList_some, List.countP_singleton, labels completion.call,
    label] at grown
  constructor
  · intro other now
    refine Eq.trans ?_ (grown fun _ given => given = some other).symm
    rw [← counted.calls other now, Health.calls_stats, Health.calls_stats, health,
      Health.countersOf_record ordered]
    by_cases same : system.health.labelOf handle = other
    · simp [same, LabelCounters.calls_record]
    · simp [same]
  · intro other now
    refine Eq.trans ?_ (grown fun completion given =>
      completion.isFailure && given = some other).symm
    rw [← counted.errors other now, Health.errors_stats, Health.errors_stats, health,
      Health.countersOf_record ordered]
    by_cases same : system.health.labelOf handle = other
    · cases failed : completion.isFailure <;> simp [same, LabelCounters.errors_record]
    · simp [same]

/-- What is open after the end of a part, and the part itself, is what was open before. -/
theorem CallRecord.openParts_endLeg {record : CallRecord} {leg : Leg} {place : Nat}
    (opened : record.call.leg? place = some leg) (distinct : (record.call.legs.map Leg.place).Nodup)
    (outcome : Outcome) (now : Nat) :
    record.openParts.Perm ((record.id, leg.place) ::
      { record with call := record.call.endLeg leg outcome now : CallRecord }.openParts) :=
  (Call.legs_perm opened distinct).map _

/-- A part that ends is booked, and decides its call if anything does. -/
theorem Ledger.ended (ledger : Ledger trace system) (numbered : system.Numbered) {call place : Nat}
    {record : CallRecord} {leg : Leg} (found : system.call? call = some record)
    (opened : record.call.leg? place = some leg) {completion : Completion}
    (ends : moment.event.completion? = some completion) (part : completion.part = (call, place))
    (uninquired : moment.inquiries = []) (unlaunched : moment.effects.filter Effect.isLaunch = []) :
    Ledger (trace ++ [moment])
      (system.endLeg record leg (completion.result leg.endpoint)).1 := by
  obtain ⟨rfl, rfl⟩ := Prod.mk.inj part
  obtain ⟨present, number⟩ := mem_of_call? found
  obtain ⟨waits, spot⟩ := Call.mem_of_leg? opened
  have recorded := ledger.recorded record present
  obtain ⟨inquiry, inquired, legs⟩ := recorded.inquired
  have there : inquiry.client ∈ system.clients :=
    ledger.clients inquiry (List.mem_of_getElem? inquired)
  have registered := ledger.registered inquiry.client there
  have all_legs := legs.trans (inquiry.client.legsFor_sublist inquiry.request)
  obtain ⟨endpoint, handle⟩ := Client.leg_spec (all_legs.subset waits)
  have distinct : (record.call.legs.map Leg.place).Nodup :=
    (Client.places_nodup registered.handles).sublist (all_legs.map Leg.place)
  generalize closed : completion.result leg.endpoint = outcome
  obtain ⟨replaces, -, health⟩ := numbered.replaces_endLeg found leg outcome
  have asked : inquiries (trace ++ [moment]) = inquiries trace := by
    rw [inquiries_concat, uninquired, List.append_nil]
  have done : completions (trace ++ [moment]) = completions trace ++ [completion] := by
    rw [completions_concat, ends, Option.toList_some]
  refine ⟨?_, ?_, ?_, ?_, ?_, ?_, ?_, ?_⟩
  · exact health ▸ Health.isOrdered_record ledger.ordered _ _ _
  · intro client member
    rw [replaces.clients] at member
    rw [health]
    exact ⟨(ledger.registered client member).handles, (ledger.registered client member).label⟩
  · rw [asked, replaces.clients]
    exact ledger.clients
  · rw [asked, replaces.nextCall]
    exact ledger.nextCall
  · rw [launches_concat, unlaunched, List.append_nil, asked]
    exact ledger.launched
  · intro other there
    obtain ⟨earlier, -⟩ | rfl := replaces.member other there
    · exact (ledger.recorded other earlier).mono moment
    · refine ⟨⟨inquiry, asked ▸ inquired, List.filter_sublist.trans legs⟩, ?_⟩
      intro verdict decided
      obtain earlier | ⟨-, -, rfl⟩ := Call.judge_cases decided
      · exact (recorded.comes verdict earlier).mono moment
      · refine ⟨completion, ?_, number.symm, inquiry, asked ▸ inquired, leg.endpoint,
          spot ▸ endpoint, _, by rw [closed]⟩
        rw [done]
        exact List.mem_append_right _ List.mem_cons_self
  · -- The part that has ended moves from the open ones to those that have ended.
    obtain ⟨before, behind, parts, after_parts⟩ := replaces.parts
    have closes := CallRecord.openParts_endLeg opened distinct outcome system.now
    have own : [completion].map Completion.part = [(record.id, leg.place)] := by
      rw [List.map_singleton, number, spot]
      rfl
    have balanced : (System.parts 0 (inquiries trace)).Perm
        ((completions trace).map Completion.part ++ (before ++ record.openParts ++ behind)) :=
      parts ▸ ledger.balanced
    rw [asked, done, after_parts, List.map_append, own, List.append_assoc]
    refine balanced.trans (List.Perm.append_left _ ?_)
    exact ((closes.append_left before).append_right behind).trans
      (List.perm_middle.append_right behind)
  · rw [← closed, completion.isFailure_result leg.endpoint, closed] at health
    have label : label? trace completion.call = some (system.health.labelOf leg.handle) := by
      rw [label?, ← number, inquired, registered.labelOf handle]
      rfl
    exact ledger.counted.ended ledger.ordered health label ends uninquired

/-- Nothing is different in the books when time has passed. -/
theorem Ledger.passed (ledger : Ledger trace system) (now : Nat)
    (uninquired : moment.inquiries = []) (unlaunched : moment.effects.filter Effect.isLaunch = [])
    (unended : moment.event.completion? = none) :
    Ledger (trace ++ [moment]) { system with now } where
  ordered := ledger.ordered
  registered := ledger.registered
  clients := by
    rw [inquiries_concat, uninquired, List.append_nil]
    exact ledger.clients
  nextCall := by
    rw [inquiries_concat, uninquired, List.append_nil]
    exact ledger.nextCall
  launched := by
    rw [launches_concat, inquiries_concat, unlaunched, uninquired, List.append_nil, List.append_nil]
    exact ledger.launched
  recorded := fun record there => (ledger.recorded record there).mono moment
  balanced := by
    rw [inquiries_concat, completions_concat, uninquired, unended, List.append_nil,
      Option.toList_none, List.append_nil]
    exact ledger.balanced
  counted := ledger.counted_mono rfl unended

theorem Ledger.step (ledger : Ledger trace system) (numbered : system.Numbered)
    (stepped : system.step event = some turn) :
    Ledger (trace ++ [⟨system, event, turn.2⟩]) turn.1 := by
  cases posting stepped with
  | begun enters unreturned unexpired unended =>
    refine ledger.enters enters rfl rfl ?_
    cases event with
    | legExpired call place => exact absurd rfl (unexpired call place)
    | legEnded call place outcome => exact absurd rfl (unended call place outcome)
    | _ => rfl
  | @returned call record owner verdict returns found owned decided delivered enters =>
    subst returns
    have released := ledger.released numbered found
    have replaces : system.Replaces record { record with owner := none } _ :=
      numbered.replaces_setCall found rfl
    exact released.enters enters replaces.clients.symm rfl rfl
  | @expired call place record leg expires found opened due after =>
    subst expires after
    let completion : Completion := ⟨call, place, none⟩
    exact @Ledger.ended system trace ⟨system, _, _⟩ ledger numbered call place record leg found
      opened completion rfl rfl rfl rfl
  | @ended call place record leg outcome ends found opened fit after =>
    subst ends after
    let completion : Completion := ⟨call, place, some outcome⟩
    exact @Ledger.ended system trace ⟨system, _, _⟩ ledger numbered call place record leg found
      opened completion rfl rfl rfl rfl
  | passed passes settled forward due after =>
    subst passes after
    exact ledger.passed _ rfl rfl rfl

/-- Nothing is entered in the books of a system that has just been set up. -/
theorem ledger_nil (new : start.IsNew) (first : start.nextCall = 0) {sets : List EndpointSet}
    (built : (start.health, start.clients) = Client.ofSets {} sets) : Ledger [] start := by
  have fresh : Health.IsUnused {} := ⟨List.Pairwise.nil, fun _ => rfl⟩
  obtain ⟨unused, -, registered⟩ := Client.ofSets_spec fresh sets
  rw [← built] at unused registered
  refine ⟨unused.ordered, registered, nofun, first, rfl, ?_, ?_, ⟨?_, ?_⟩⟩
  · rw [new.calls]
    exact List.forall_mem_nil _
  · rw [new.calls]
    exact List.Perm.refl _
  · intro label now
    rw [Health.calls_stats, unused.zero]
    rfl
  · intro label now
    rw [Health.errors_stats, unused.zero]
    rfl

theorem Run.ledger (run : Run start trace final) (new : start.IsNew) (first : start.nextCall = 0)
    {sets : List EndpointSet} (built : (start.health, start.clients) = Client.ofSets {} sets) :
    Ledger trace final := by
  induction run with
  | refl => exact ledger_nil new first built
  | step prior stepped inductionHypothesis =>
    exact inductionHypothesis.step (prior.converses new).numbered stepped

/-- Every request that is put to a client reaches the endpoints that it is meant for, each of them
once, and no endpoint is reached otherwise. A part of a call ends only if it has begun, and only
once. At every moment the figures of every label are the numbers of parts that have ended so far in
calls of the clients with that label. When a call returns, the part that it returns because of has
ended and is counted. -/
theorem Run.calls_are_accounted (run : Run start trace final) (new : start.IsNew)
    (first : start.nextCall = 0) {sets : List EndpointSet}
    (built : (start.health, start.clients) = Client.ofSets {} sets) :
    (launches trace =
      (inquiries trace).zipIdx.flatMap fun (inquiry, call) => inquiry.reaches call) ∧
    (∀ completion ∈ completions trace, ∃ inquiry,
      (inquiries trace)[completion.call]? = some inquiry ∧
        ∃ endpoint, .launched completion.call completion.place endpoint inquiry.request ∈
          inquiry.reaches completion.call) ∧
    ((completions trace).map Completion.part).Nodup ∧
    Counted trace final ∧
    ∀ before moment after call, trace = before ++ moment :: after →
      moment.event = .callReturned call →
        Counted before moment.before ∧ ∃ record verdict, moment.before.call? call = some record ∧
          record.call.verdict = some verdict ∧ ComesOf before call verdict := by
  have ledger := run.ledger new first built
  have handles : ∀ inquiry ∈ inquiries trace,
      inquiry.client.handles.length = inquiry.client.set.endpoints.length :=
    fun inquiry member => (ledger.registered _ (ledger.clients inquiry member)).handles
  refine ⟨?_, ?_, ?_, ledger.counted, ?_⟩
  · rw [ledger.launched]
    refine List.flatMap_congr fun ⟨inquiry, call⟩ member => ?_
    have there : inquiry ∈ inquiries trace :=
      List.mem_of_getElem? (List.mem_zipIdx_iff_getElem?.mp member)
    exact Inquiry.launches_eq_reaches (handles inquiry there) call
  · intro completion member
    obtain ⟨inquiry, found, part⟩ := ledger.inquired member
    obtain ⟨leg, there, same⟩ := List.mem_map.mp part
    refine ⟨inquiry, found, leg.endpoint.name, ?_⟩
    rw [← Inquiry.launches_eq_reaches (handles _ (List.mem_of_getElem? found))]
    exact List.mem_map.mpr ⟨leg, there, by rw [(Prod.mk.inj same).2]⟩
  · have distinct := ledger.balanced.nodup_iff.mp (nodup_parts handles 0)
    exact (List.nodup_append.mp distinct).1
  · rintro before moment after call rfl returns
    obtain ⟨prior, next, stepped⟩ := run.split
    have then_ledger := prior.ledger new first built
    rw [returns] at stepped
    cases move_of_step stepped with
    | @returned _ record _ verdict _ found owned decided delivered =>
      obtain ⟨present, number⟩ := mem_of_call? found
      have recorded := then_ledger.recorded record present
      exact ⟨then_ledger.counted, record, verdict, found, decided,
        number ▸ recorded.comes verdict decided⟩

/-- Two sets with a node in common. -/
def sharedSets : List EndpointSet :=
  [⟨"general", [⟨"shared", .ofSeconds 10⟩, ⟨"other", .ofSeconds 10⟩], by simp, by decide⟩,
    ⟨"work", [⟨"shared", .ofSeconds 10⟩], by simp, by decide⟩]

/-- A system with a client of each set. -/
def sharedSystem : System where
  health := (Client.ofSets {} sharedSets).1
  clients := (Client.ofSets {} sharedSets).2
  monitor := { config := {} }

/-- Balances are asked for and given by the common node. The other node fails later, while the
common one does not answer to what is put to it through the other client. -/
def straggling : List Event :=
  [.request 0 (.getBalances [] 100) 7, .legEnded 0 0 (.replied (.amounts [])), .callReturned 0,
    .request 1 (.storeAndBroadcast []) 8, .legEnded 0 1 (.failed (.http "down")),
    .timePassed 10_000_000_000, .legExpired 1 0, .callReturned 1]

/-- What has failed after the answer is counted under the label of the first client, and what the
common node has not answered under that of the second. -/
theorem calls_are_accounted_shared : ∃ trace final, Run sharedSystem trace final ∧
    (launches trace).length = 3 ∧ (completions trace).length = 3 ∧
      (final.health.stats "general" 10_000_000_000).calls = 2 ∧
      (final.health.stats "general" 10_000_000_000).errors = 1 ∧
      (final.health.stats "work" 10_000_000_000).calls = 1 ∧
      (final.health.stats "work" 10_000_000_000).errors = 1 := by
  let count (trace : List Moment) (label : String) : Nat :=
    (completions trace).countP fun completion => label? trace completion.call = some label
  let failures (trace : List Moment) (label : String) : Nat :=
    (completions trace).countP fun completion =>
      completion.isFailure && label? trace completion.call = some label
  obtain ⟨trace, final, run, checked⟩ := @exists_replayed_run straggling sharedSystem
    (fun trace _ => decide (
      ((inquiries trace).zipIdx.flatMap fun (inquiry, call) => inquiry.reaches call).length = 3 ∧
      (completions trace).length = 3 ∧ count trace "general" = 2 ∧ failures trace "general" = 1 ∧
      count trace "work" = 1 ∧ failures trace "work" = 1)) (by decide)
  obtain ⟨reached, ended, general, general_failed, work, work_failed⟩ := of_decide_eq_true checked
  obtain ⟨launched, -, -, counted, -⟩ := run.calls_are_accounted ⟨rfl, rfl⟩ rfl rfl
  exact ⟨trace, final, run, launched ▸ reached, ended, (counted.calls _ _).trans general,
    (counted.errors _ _).trans general_failed, (counted.calls _ _).trans work,
    (counted.errors _ _).trans work_failed⟩

end System

end Inclusion
