import Inclusion.Proofs.System.Dialogue
import Inclusion.Proofs.System.Updates
import Inclusion.Proofs.Task.Record

/-!
# What a task does to the ledger

Whatever the order in which the loops of a task act, however long nodes take and whatever they
answer, the calls by which a task changes the ledger come in blocks, one for each attempt. What an
attempt refers to and what it attaches follow from the attempts before it, and nothing that is no
part of the task's bundle takes the place of the bundle.
-/

namespace Inclusion

/-- The call for an operation of an attempt, if an effect is one. -/
def Task.Effect.attemptCall? : Task.Effect → Option (Party × Request)
  | call party _ request =>
    if request.operation.isForAttempt then some (party, request) else none
  | _ => none

/-- The calls for operations of attempts among effects, in order, with the loops that make them. -/
def Task.attemptCalls (effects : List Task.Effect) : List (Party × Request) :=
  effects.filterMap Task.Effect.attemptCall?

/-- The kinds of the attempts that begin among effects, in order. -/
def Task.begunKinds (effects : List Task.Effect) : List AttemptKind :=
  effects.filterMap fun
    | .began kind => some kind
    | _ => none

namespace System

variable {start final : System} {trace : List Moment} {id : Nat} {task : Task}

/-- The attempts of a task in a run, in order. -/
def attempts (id : Nat) (trace : List Moment) : List Attempt :=
  (History.of (dialogue id trace)).attempts

/-- A task that hears something says nothing by it. -/
theorem Event.heard_silent {event : Event} {system : System} {act : Task.Act}
    (heard : act ∈ event.heard system id) : act.begun? = none ∧ act.call? = none := by
  unfold Event.heard at heard
  split at heard
  · split at heard
    · split at heard
      · split at heard
        · obtain rfl := List.mem_singleton.mp heard
          exact ⟨rfl, rfl⟩
        · cases heard
      · cases heard
    · cases heard
  · cases heard

/-- Effects are kept in what they add to a dialogue. -/
theorem acts_kept (effects : List Task.Effect) :
    (Task.acts effects).filterMap Task.Act.begun? = Task.begunKinds effects ∧
      (Task.acts effects).filterMap Task.Act.call? = Task.attemptCalls effects := by
  rw [Task.acts, List.filterMap_filterMap, List.filterMap_filterMap]
  exact ⟨List.filterMap_congr fun effect _ => by cases effect <;> rfl,
    List.filterMap_congr fun effect _ => by cases effect <;> rfl⟩

/-- The dialogue of a task keeps every beginning of an attempt and every call for one. -/
theorem dialogue_kept (id : Nat) (trace : List Moment) :
    (dialogue id trace).filterMap Task.Act.begun? = Task.begunKinds (seen id trace) ∧
      (dialogue id trace).filterMap Task.Act.call? = Task.attemptCalls (seen id trace) := by
  induction trace with
  | nil => exact ⟨rfl, rfl⟩
  | cons moment rest inductionHypothesis =>
    obtain ⟨begun, calls⟩ := inductionHypothesis
    obtain ⟨shownBegun, shownCalls⟩ := acts_kept (taskEffects id moment.effects)
    have unbegun : (moment.event.heard moment.before id).filterMap Task.Act.begun? = [] :=
      List.filterMap_eq_nil_iff.mpr fun act heard => (Event.heard_silent heard).1
    have uncalled : (moment.event.heard moment.before id).filterMap Task.Act.call? = [] :=
      List.filterMap_eq_nil_iff.mpr fun act heard => (Event.heard_silent heard).2
    rw [← List.singleton_append, dialogue_append, dialogue_single, seen_append, seen_single,
      Moment.acts, Task.begunKinds, Task.attemptCalls]
    constructor
    · rw [List.filterMap_append, List.filterMap_append, List.filterMap_append, unbegun, shownBegun,
        begun]
      rfl
    · rw [List.filterMap_append, List.filterMap_append, List.filterMap_append, uncalled, shownCalls,
        calls]
      rfl

/-- A task that is there at the end of a run goes by what its attempts have made of the trytes with
which it was started. -/
theorem Run.records (run : Run start trace final) (new : start.IsNew)
    (present : final.task? id = some task) :
    ∃ moment ∈ trace, ∃ trytes tail, moment.Starts id trytes ∧ tailOf trytes = .ok tail ∧
      tail.bundle = task.setup.bundle ∧ task.Records trytes (dialogue id trace) := by
  obtain ⟨moment, member, trytes, initial, entries, starts, origin, follows, said⟩ :=
    run.alive new present
  obtain ⟨setup, tail, now, forced, read, own, rfl⟩ := origin
  have kept : task.setup = setup := follows.run.preserves
    (fun move same => move.setup.trans same) rfl
  have records := follows.run.records (Task.sound_start setup tail trytes now forced)
    (Task.records_start read own now forced)
  exact ⟨moment, member, trytes, tail, starts, read, kept ▸ own, said ▸ records⟩

/-! ## A run with four attempts -/

/-- Settings under which promotions are chained, and a reattachment is forced after a minute. -/
def chainedPromotions : ConfirmerConfig :=
  { forceReattachAfterMinutes := 1
    promoteChain := true
    promoteTickMilliseconds := 20000
    reattachTickMilliseconds := 61000
    promotabilityCheckSeconds := 1000 }

/-- By this a promotion is known that a node has attached. -/
def promotionMark : Tryte := .ofTrits .plus .zero .zero

/-- By this the bundle is known that a node has reattached. -/
def reattachmentMark : Tryte := .ofTrits .zero .plus .zero

/-- What it makes of a system that a node has attached trytes for an attempt of its first task: the
loop to which they come back goes on to broadcast them. -/
def attachedTurn (system : System) (record : CallRecord) (owned : TaskRecord) (kind : AttemptKind)
    (attached : List String) (tail : Transaction) : Turn :=
  let next := owned.task.place kind (.attempting (.broadcasting attached tail))
  carryOut (serveTask owned.engine 0 next.setup.bundle)
    ((system.setCall { record with owner := none }).setTask 0 next)
    [.call kind.party .general (.storeAndBroadcast attached)]

theorem step_attached {system : System} {call : Nat} {record : CallRecord} {owned : TaskRecord}
    {kind : AttemptKind} {attached : List String} {tail : Transaction} {endpoint : String}
    (found : system.call? call = some record) (owner : record.owner = some (.loop 0 kind.party))
    (decided : record.call.verdict = some (.answered ⟨.trytes attached, endpoint, 0⟩))
    (present : (system.setCall { record with owner := none }).tasks[0]? = some owned)
    (stands : owned.task.attempter kind = .attempting .attaching)
    (read : tailOf attached = .ok tail)
    (own : kind = .reattachment → tail.bundle = owned.task.setup.bundle) :
    system.step (.callReturned call) =
      some (attachedTurn system record owned kind attached tail) :=
  step_callReturned found owner decided present
    (.answered stands (.attached read fun other => other.2 (own other.1)))

/-- The system with those settings after the start of its task. -/
def chainStart : System :=
  engaged chainedPromotions 60_000_000_000 (.blank transactionLength) blankBundle

/-- A promotion after twenty seconds, up to the point at which a node has attached it. -/
def chainPromotes : List Event :=
  let loop (event : Task.Event) : Event := .task 0 event
  [.feedChanged true, loop (.entered .checker), loop (.granted .checker),
    .legEnded 0 0 (.failed (.http "down")), .callReturned 0, loop (.entered .promoter),
    loop (.entered .reattacher), loop (.entered .supervisor), .poller (.pollerEntered 1),
    .timePassed 20_000_000_000, loop (.elapsed .promoter), loop (.granted .promoter),
    .legEnded 1 0 (.replied (.trytes ["A"])), .callReturned 1,
    .legEnded 2 0 (.replied (.tips ⟨.null, .null⟩)), .callReturned 2,
    .legEnded 3 0 (.replied (.trytes [markedText promotionMark]))]

/-- The system at that point. -/
def chainPromoting : System :=
  ((chainStart.replay chainPromotes).get (by decide)).2

/-- The call by which the promotion comes back. -/
def chainPromotionCall : CallRecord :=
  (chainPromoting.call? 3).get (by decide)

/-- The task to which it comes back. -/
def chainPromotionTask : TaskRecord :=
  (chainPromoting.setCall { chainPromotionCall with owner := none }).tasks[0]?.get (by decide)

/-- What the return of that call makes of the system. -/
def chainPromoted : Turn :=
  attachedTurn chainPromoting chainPromotionCall chainPromotionTask .promotion
    [markedText promotionMark] (.marked promotionMark)

/-- The promotion is broadcast. The next one fails, and a reattachment follows, up to the point at
which a node has attached the bundle once more. -/
def chainReattaches : List Event :=
  let loop (event : Task.Event) : Event := .task 0 event
  [.legEnded 4 0 (.replied .done), .callReturned 4, loop (.sent .promoter), .received 0,
    .timePassed 40_000_000_000, loop (.elapsed .promoter), loop (.granted .promoter),
    .legEnded 5 0 (.replied (.trytes ["A"])), .callReturned 5,
    .legEnded 6 0 (.replied (.tips ⟨.null, .null⟩)), .callReturned 6,
    .legEnded 7 0 (.failed (.http "down")), .callReturned 7, loop (.sent .promoter), .received 0,
    .timePassed 45_000_000_000, loop (.elapsed .promoter),
    .timePassed 61_000_000_000, loop (.elapsed .reattacher), loop (.granted .reattacher),
    .legEnded 8 0 (.replied (.tips ⟨.null, .null⟩)), .callReturned 8,
    .legEnded 9 0 (.replied (.trytes [markedText reattachmentMark]))]

/-- The system at that point. -/
def chainReattaching : System :=
  ((chainPromoted.1.replay chainReattaches).get (by decide)).2

/-- The call by which the bundle comes back. -/
def chainReattachmentCall : CallRecord :=
  (chainReattaching.call? 9).get (by decide)

/-- The task to which it comes back. -/
def chainReattachmentTask : TaskRecord :=
  (chainReattaching.setCall { chainReattachmentCall with owner := none }).tasks[0]?.get (by decide)

/-- What the return of that call makes of the system. -/
def chainReattached : Turn :=
  attachedTurn chainReattaching chainReattachmentCall chainReattachmentTask .reattachment
    [markedText reattachmentMark] (.marked reattachmentMark)

/-- The bundle is broadcast once more, and another promotion comes as far as its attachment. -/
def chainGoesOn : List Event :=
  let loop (event : Task.Event) : Event := .task 0 event
  [.legEnded 10 0 (.replied .done), .callReturned 10, loop (.sent .reattacher), .received 0,
    .timePassed 65_000_000_000, loop (.elapsed .promoter), loop (.granted .promoter),
    .legEnded 11 0 (.replied (.trytes ["A"])), .callReturned 11,
    .legEnded 12 0 (.replied (.tips ⟨.null, .null⟩)), .callReturned 12]

/-- The moments after the start of the task. -/
def chainMoments : List Moment :=
  ((chainStart.replay chainPromotes).get (by decide)).1 ++
    [⟨chainPromoting, .callReturned 3, chainPromoted.2⟩] ++
    ((chainPromoted.1.replay chainReattaches).get (by decide)).1 ++
    [⟨chainReattaching, .callReturned 9, chainReattached.2⟩] ++
    ((chainReattached.1.replay chainGoesOn).get (by decide)).1

/-- The system at the end of that run. -/
def chainFinal : System :=
  ((chainReattached.1.replay chainGoesOn).get (by decide)).2

/-- The task at the end of that run. -/
def chainTask : Task :=
  (chainFinal.task? 0).get (by decide)

theorem task_chainFinal : chainFinal.task? 0 = some chainTask :=
  (Option.some_get _).symm

theorem step_chainPromoting : chainPromoting.step (.callReturned 3) = some chainPromoted := by
  have verdict : chainPromotionCall.call.verdict =
      some (.answered ⟨.trytes [markedText promotionMark], "node", 0⟩) := rfl
  exact step_attached (Option.some_get _).symm (by decide) verdict (Option.some_get _).symm
    (by decide) (tailOf_marked _ []) nofun

theorem step_chainReattaching :
    chainReattaching.step (.callReturned 9) = some chainReattached := by
  have verdict : chainReattachmentCall.call.verdict =
      some (.answered ⟨.trytes [markedText reattachmentMark], "node", 0⟩) := rfl
  exact step_attached (Option.some_get _).symm (by decide) verdict (Option.some_get _).symm
    (by decide) (tailOf_marked _ []) fun _ => rfl

theorem run_chain :
    Run (idle chainedPromotions) (startMoment chainedPromotions :: chainMoments) chainFinal := by
  have started : (idle chainedPromotions).step (.start 0 blankBundle) =
      some (chainStart, [.started 0 0]) :=
    @step_start chainedPromotions (.ofSeconds 60) _ _ tailOf_blankBundle (by decide) (by decide)
  have promoting := (Run.step .refl started).trans
    (@run_replay chainPromotes chainStart (by decide))
  have reattaching := (promoting.step step_chainPromoting).trans
    (@run_replay chainReattaches chainPromoted.1 (by decide))
  exact (reattaching.step step_chainReattaching).trans
    (@run_replay chainGoesOn chainReattached.1 (by decide))

/-- A promotion succeeds and another fails; then a reattachment succeeds, and a third promotion is
under way. -/
theorem attempts_chain : ∃ first second third fourth,
    attempts 0 (startMoment chainedPromotions :: chainMoments) = [first, second, third, fourth] ∧
      (first.kind = .promotion ∧
        first.requests.map Request.operation = AttemptKind.promotion.operations ∧
        first.output? = some [markedText promotionMark]) ∧
      (second.kind = .promotion ∧ second.requests.map Request.operation =
        [.prepareTransfers, .selectTips, .attachToTangle] ∧ second.output? = none) ∧
      (third.kind = .reattachment ∧
        third.requests.map Request.operation = AttemptKind.reattachment.operations ∧
        third.output? = some [markedText reattachmentMark]) ∧
      fourth.kind = .promotion ∧ fourth.requests.map Request.operation =
        [.prepareTransfers, .selectTips, .attachToTangle] ∧ fourth.exchanges.length = 2 := by
  have shapes : (attempts 0 (startMoment chainedPromotions :: chainMoments)).map (fun attempt =>
      (attempt.kind, attempt.requests.map Request.operation, attempt.output?,
        attempt.exchanges.length)) =
      [(.promotion, AttemptKind.promotion.operations, some [markedText promotionMark], 4),
        (.promotion, [.prepareTransfers, .selectTips, .attachToTangle], none, 3),
        (.reattachment, AttemptKind.reattachment.operations,
          some [markedText reattachmentMark], 3),
        (.promotion, [.prepareTransfers, .selectTips, .attachToTangle], none, 2)] := rfl
  obtain ⟨first, others, all, firstly, shapes⟩ := List.map_eq_cons_iff.mp shapes
  obtain ⟨second, others, rfl, secondly, shapes⟩ := List.map_eq_cons_iff.mp shapes
  obtain ⟨third, others, rfl, thirdly, shapes⟩ := List.map_eq_cons_iff.mp shapes
  obtain ⟨fourth, others, rfl, fourthly, nothing⟩ := List.map_eq_cons_iff.mp shapes
  obtain rfl := List.map_eq_nil_iff.mp nothing
  simp only [Prod.mk.injEq] at firstly secondly thirdly fourthly
  exact ⟨first, second, third, fourth, all, ⟨firstly.1, firstly.2.1, firstly.2.2.1⟩,
    ⟨secondly.1, secondly.2.1, secondly.2.2.1⟩, ⟨thirdly.1, thirdly.2.1, thirdly.2.2.1⟩,
    fourthly.1, fourthly.2.1, fourthly.2.2.2⟩

/-! ## The ledger and the attempts -/

/-- The calls by which a task changes the ledger are those of its attempts, one attempt after
another. The calls of an attempt follow one another in the order of its kind, and each goes on with
what the earlier ones have brought. An attempt makes all the calls of its kind unless one of them
fails or what it has attached is rejected, or it is the last one and waits for its last call. -/
theorem Run.attempts_are_blocks (run : Run start trace final) (new : start.IsNew)
    (present : final.task? id = some task) :
    Task.attemptCalls (seen id trace) = (attempts id trace).flatMap Attempt.calls ∧
      Task.begunKinds (seen id trace) = (attempts id trace).map Attempt.kind ∧
      (∀ attempt ∈ attempts id trace, attempt.Conforms) ∧
      ∀ earlier attempt later, attempts id trace = earlier ++ attempt :: later →
        attempt.IsClosed ∧ (attempt.IsComplete ∨ attempt.IsStopped task.setup.bundle) ∨
          attempt.IsOpen ∧ later = [] := by
  obtain ⟨moment, member, trytes, tail, starts, read, own, records⟩ := run.records new present
  obtain ⟨begun, calls⟩ := dialogue_kept id trace
  refine ⟨calls ▸ records.calls, begun ▸ records.kinds, ?_, ?_⟩
  · intro attempt among
    obtain ⟨earlier, later, split⟩ := List.append_of_mem among
    obtain ⟨⟨tail, trytes, -, goesBy⟩, -⟩ := records.goesBy split
    exact goesBy.conforms
  · intro earlier attempt later split
    exact (records.goesBy split).2

/-- Two of the attempts of that run are complete, one was stopped by its third call, and the last
one waits for its third. -/
theorem attempts_are_blocks_chain : ∃ trace final task first second third fourth,
    Run (idle chainedPromotions) trace final ∧ final.task? 0 = some task ∧
      attempts 0 trace = [first, second, third, fourth] ∧
      Task.attemptCalls (seen 0 trace) =
        first.calls ++ second.calls ++ third.calls ++ fourth.calls ∧
      (first.kind = .promotion ∧ first.IsComplete ∧ first.IsClosed) ∧
      second.IsStopped task.setup.bundle ∧
      (third.kind = .reattachment ∧ third.IsComplete ∧ third.IsClosed) ∧
      fourth.Conforms ∧ fourth.IsOpen := by
  obtain ⟨first, second, third, fourth, all, ⟨promotes, made, -⟩, ⟨tries, called, -⟩,
    ⟨reattaches, remade, -⟩, -, last, returned⟩ := attempts_chain
  obtain ⟨calls, -, conforms, ends⟩ := run_chain.attempts_are_blocks (isNew_idle _) task_chainFinal
  rw [all] at calls conforms ends
  have ended : ∀ earlier attempt next later,
      [first, second, third, fourth] = earlier ++ attempt :: next :: later →
        attempt.IsClosed ∧ (attempt.IsComplete ∨ attempt.IsStopped chainTask.setup.bundle) := by
    intro earlier attempt next later split
    obtain ended | ⟨-, nothing⟩ := ends earlier attempt (next :: later) split
    · exact ended
    · cases nothing
  refine ⟨_, _, _, first, second, third, fourth, run_chain, task_chainFinal, all,
    by simpa using calls, ⟨promotes, ?_, (ended [] first second _ rfl).1⟩, ?_,
    ⟨reattaches, ?_, (ended [first, second] third fourth [] rfl).1⟩, conforms fourth (by simp), ?_⟩
  · rw [Attempt.IsComplete, made, promotes]
  · refine (ended [first] second third [fourth] rfl).2.resolve_left fun complete => ?_
    rw [Attempt.IsComplete, called, tries] at complete
    cases complete
  · rw [Attempt.IsComplete, remade, reattaches]
  · obtain ⟨closed, -⟩ | ⟨waits, -⟩ := ends [first, second, third] fourth [] rfl
    · have lengths := congrArg List.length (congrArg (List.map Request.operation) closed)
      simp [last, returned] at lengths
    · exact waits

/-- A promotion is attached to the tail of what the last successful reattachment before it has
attached or, if promotions are chained, of what the last successful attempt has. A reattachment
attaches what the last successful reattachment before it has attached. Before there is one the
trytes with which the task was started take its place. An attempt is successful when its broadcast
has been answered. -/
theorem Run.references (run : Run start trace final) (new : start.IsNew)
    (present : final.task? id = some task) :
    ∃ moment ∈ trace, ∃ trytes, moment.Starts id trytes ∧
      Task.attemptCalls (seen id trace) = (attempts id trace).flatMap Attempt.calls ∧
      ∀ earlier attempt later, attempts id trace = earlier ++ attempt :: later →
        ∀ trunk branch weight payload,
          .attachToTangle trunk branch weight payload ∈ attempt.requests →
            (attempt.kind = .promotion → ∃ tail, tailOf (latestOutput
                (AttemptKind.replacesTail task.setup.config.promoteChain) trytes earlier) =
              .ok tail ∧ trunk = tail.hash) ∧
            (attempt.kind = .reattachment →
              payload = latestOutput AttemptKind.replacesTrytes trytes earlier) := by
  obtain ⟨moment, member, trytes, tail, starts, -, -, records⟩ := run.records new present
  refine ⟨moment, member, trytes, starts, (dialogue_kept id trace).2 ▸ records.calls, ?_⟩
  intro earlier attempt later split trunk branch weight payload attaches
  obtain ⟨⟨tail, current, basis, goesBy⟩, -⟩ := records.goesBy split
  obtain ⟨promotion, reattachment⟩ := goesBy.refers attaches
  constructor
  · intro promotes
    obtain ⟨transaction, read, same⟩ := basis.tail_eq
    exact ⟨transaction, read, (promotion promotes).trans same.symm⟩
  · intro reattaches
    exact (reattachment reattaches).trans basis.trytes_eq

/-- An attempt that has come to its attachment attaches something. -/
theorem exists_attachment {attempt : Attempt}
    (made : .attachToTangle ∈ attempt.requests.map Request.operation) :
    ∃ trunk branch weight payload,
      .attachToTangle trunk branch weight payload ∈ attempt.requests := by
  obtain ⟨request, asked, operation⟩ := List.mem_map.mp made
  cases request with
  | attachToTangle trunk branch weight payload => exact ⟨trunk, branch, weight, payload, asked⟩
  | _ => cases operation

/-- What is attached to the tail of a marked transaction is attached to that transaction. -/
theorem hash_of_marked {mark : Tryte} {trunk : Hash}
    (refers : ∃ tail, tailOf [markedText mark] = .ok tail ∧ trunk = tail.hash) :
    trunk = (Transaction.marked mark).hash := by
  obtain ⟨tail, read, rfl⟩ := refers
  rw [tailOf_marked] at read
  exact congrArg Transaction.hash (Except.ok.inj read).symm

/-- The second promotion of that run is attached to the first, which was successful. The
reattachment attaches the bundle all the same, and the promotion after it is attached to the tail of
what the reattachment has attached, for the promotion before was not successful. -/
theorem references_chain : ∃ trace final task first second third fourth,
    Run (idle chainedPromotions) trace final ∧ final.task? 0 = some task ∧
      attempts 0 trace = [first, second, third, fourth] ∧
      (second.kind = .promotion ∧ ∃ branch weight payload,
        .attachToTangle (Transaction.marked promotionMark).hash branch weight payload ∈
          second.requests) ∧
      (third.kind = .reattachment ∧ ∃ trunk branch weight,
        .attachToTangle trunk branch weight blankBundle ∈ third.requests) ∧
      fourth.kind = .promotion ∧ ∃ branch weight payload,
        .attachToTangle (Transaction.marked reattachmentMark).hash branch weight payload ∈
          fourth.requests := by
  obtain ⟨first, second, third, fourth, all, ⟨promotes, -, brought⟩, ⟨tries, called, failed⟩,
    ⟨reattaches, remade, anew⟩, retries, last, -⟩ := attempts_chain
  obtain ⟨moment, member, trytes, starts, -, refers⟩ :=
    run_chain.references (isNew_idle _) task_chainFinal
  obtain rfl := blankBundle_of_starts (by decide) member starts
  have chained : chainTask.setup.config.promoteChain = true := rfl
  refine ⟨_, _, _, first, second, third, fourth, run_chain, task_chainFinal, all, ⟨tries, ?_⟩,
    ⟨reattaches, ?_⟩, retries, ?_⟩
  · obtain ⟨trunk, branch, weight, payload, asked⟩ :=
      @exists_attachment second (by simp [called])
    have before : latestOutput (AttemptKind.replacesTail chainTask.setup.config.promoteChain)
        blankBundle [first] = [markedText promotionMark] := by
      simp [latestOutput, promotes, brought, chained, AttemptKind.replacesTail]
    obtain ⟨promotion, -⟩ := refers [first] second _ all trunk branch weight payload asked
    obtain rfl := hash_of_marked (before ▸ promotion tries)
    exact ⟨branch, weight, payload, asked⟩
  · obtain ⟨trunk, branch, weight, payload, asked⟩ :=
      @exists_attachment third (by simp [remade, AttemptKind.operations])
    have before : latestOutput AttemptKind.replacesTrytes blankBundle [first, second] =
        blankBundle := by
      simp [latestOutput, promotes, tries, AttemptKind.replacesTrytes]
    obtain ⟨-, reattachment⟩ :=
      refers [first, second] third _ all trunk branch weight payload asked
    obtain rfl := (reattachment reattaches).trans before
    exact ⟨trunk, branch, weight, asked⟩
  · obtain ⟨trunk, branch, weight, payload, asked⟩ :=
      @exists_attachment fourth (by simp [last])
    have before : latestOutput (AttemptKind.replacesTail chainTask.setup.config.promoteChain)
        blankBundle [first, second, third] = [markedText reattachmentMark] := by
      simp [latestOutput, promotes, tries, reattaches, brought, failed, anew, chained,
        AttemptKind.replacesTail]
    obtain ⟨promotion, -⟩ :=
      refers [first, second, third] fourth [] all trunk branch weight payload asked
    obtain rfl := hash_of_marked (before ▸ promotion retries)
    exact ⟨branch, weight, payload, asked⟩

/-- A call for an operation of an attempt is one of an attempt. -/
theorem mem_requests_of_call {party : Party} {role : Role} {request : Request}
    (kept : Task.attemptCalls (seen id trace) = (attempts id trace).flatMap Attempt.calls)
    (calls : .call party role request ∈ seen id trace)
    (operation : request.operation.isForAttempt = true) :
    ∃ attempt ∈ attempts id trace, attempt.kind.party = party ∧ request ∈ attempt.requests := by
  have listed : (party, request) ∈ Task.attemptCalls (seen id trace) :=
    List.mem_filterMap.mpr ⟨_, calls, if_pos operation⟩
  rw [kept] at listed
  obtain ⟨attempt, among, called⟩ := List.mem_flatMap.mp listed
  obtain ⟨same, asked, pair⟩ := List.mem_map.mp called
  obtain ⟨own, rfl⟩ := Prod.mk.inj pair
  exact ⟨attempt, among, own, asked⟩

/-- Whatever nodes answer, the trytes that a task stands by are its bundle, and its tail is theirs
if promotions are not chained. What is broadcast has a tail, and it is the bundle if a reattachment
broadcasts it. -/
theorem Run.bundle_is_kept (run : Run start trace final) (new : start.IsNew)
    (present : final.task? id = some task) :
    (∃ moment ∈ trace, ∃ trytes tail, moment.Starts id trytes ∧ tailOf trytes = .ok tail ∧
        tail.bundle = task.setup.bundle) ∧
      (∃ tail, tailOf task.currentTrytes = .ok tail ∧ tail.bundle = task.setup.bundle ∧
        (task.setup.config.promoteChain = false → task.currentTail = tail.hash)) ∧
      ∀ party role trytes, .call party role (.storeAndBroadcast trytes) ∈ seen id trace →
        ∃ tail, tailOf trytes = .ok tail ∧
          (party = .reattacher → tail.bundle = task.setup.bundle) := by
  obtain ⟨moment, member, trytes, tail, starts, read, own, records⟩ := run.records new present
  refine ⟨⟨moment, member, trytes, tail, starts, read, own⟩, ?_, ?_⟩
  · obtain ⟨transaction, read, own⟩ := records.basis.bundle
    refine ⟨transaction, read, own, fun unchained => ?_⟩
    obtain ⟨same, again, hash⟩ := records.basis.unchained unchained
    obtain rfl := Except.ok.inj (read.symm.trans again)
    exact hash.symm
  · intro party role payload calls
    have kept := (dialogue_kept id trace).2 ▸ records.calls
    have operation : (Request.storeAndBroadcast payload).operation.isForAttempt = true := rfl
    obtain ⟨attempt, among, rfl, broadcasts⟩ := mem_requests_of_call kept calls operation
    obtain ⟨earlier, later, split⟩ := List.append_of_mem among
    obtain ⟨⟨tail, current, -, goesBy⟩, -⟩ := records.goesBy split
    obtain ⟨transaction, read, own⟩ := goesBy.broadcasts broadcasts
    refine ⟨transaction, read, fun reattaches => own ?_⟩
    exact AttemptKind.party_inj.mp (reattaches.trans (rfl : _ = AttemptKind.reattachment.party))

/-- In that run the task stands by what was reattached, which is its bundle. -/
theorem bundle_is_kept_chain : ∃ trace final task tail,
    Run (idle chainedPromotions) trace final ∧ final.task? 0 = some task ∧
      (attempts 0 trace).map Attempt.kind = [.promotion, .promotion, .reattachment, .promotion] ∧
      task.currentTrytes = [markedText reattachmentMark] ∧
      tailOf task.currentTrytes = .ok tail ∧ tail.bundle = task.setup.bundle := by
  obtain ⟨-, ⟨tail, read, own, -⟩, -⟩ := run_chain.bundle_is_kept (isNew_idle _) task_chainFinal
  exact ⟨_, _, _, tail, run_chain, task_chainFinal, by decide, rfl, read, own⟩

end System

end Inclusion
