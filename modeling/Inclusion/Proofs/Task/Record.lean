import Inclusion.Proofs.Task.History
import Inclusion.Proofs.Task.Knowledge

/-!
# What a task goes by

A task stands by a tail and by trytes: promotions refer to the one, and reattachments attach the
other. Both follow from the attempts that are over. `Basis` says how, and `Records` says of a task
that it stands by what its history makes of its trytes, that every attempt of the history took what
it refers to from the attempts before it, and that the attempt under way has come as far as the
position of its loop says.
-/

namespace Inclusion

variable {setup : Setup} {first trytes : List String} {earlier : List Attempt} {tail : Hash}
  {attempt : Attempt}

/-- The tail and the trytes that a task stands by after the given attempts, if it was started with
the given trytes. -/
structure Basis (setup : Setup) (first : List String) (earlier : List Attempt) (tail : Hash)
    (trytes : List String) : Prop where
  tail_eq : ∃ transaction, tailOf (latestOutput
      (AttemptKind.replacesTail setup.config.promoteChain) first earlier) = .ok transaction ∧
    transaction.hash = tail
  trytes_eq : trytes = latestOutput AttemptKind.replacesTrytes first earlier
  /-- The trytes are the bundle of the task. -/
  bundle : ∃ transaction, tailOf trytes = .ok transaction ∧ transaction.bundle = setup.bundle

/-- Without chained promotions the tail is that of the trytes. -/
theorem Basis.unchained (basis : Basis setup first earlier tail trytes)
    (unchained : setup.config.promoteChain = false) :
    ∃ transaction, tailOf trytes = .ok transaction ∧ transaction.hash = tail := by
  have tail := basis.tail_eq
  rwa [unchained, AttemptKind.replacesTail_false, ← basis.trytes_eq] at tail

/-- An attempt without an output changes nothing. -/
theorem Basis.concat_none (basis : Basis setup first earlier tail trytes)
    (nothing : attempt.output? = none) : Basis setup first (earlier ++ [attempt]) tail trytes := by
  have same : ∀ counts, latestOutput counts first (earlier ++ [attempt]) =
      latestOutput counts first earlier := by
    intro counts
    rw [latestOutput_concat, nothing]
    exact ite_self _
  constructor
  · rw [same]
    exact basis.tail_eq
  · rw [same]
    exact basis.trytes_eq
  · exact basis.bundle

/-- A successful attempt replaces what its kind replaces. -/
theorem Basis.concat_some (basis : Basis setup first earlier tail trytes) {attached : List String}
    {transaction : Transaction} (output : attempt.output? = some attached)
    (read : tailOf attached = .ok transaction)
    (own : attempt.kind = .reattachment → transaction.bundle = setup.bundle) :
    Basis setup first (earlier ++ [attempt])
      (if attempt.kind.replacesTail setup.config.promoteChain = true then transaction.hash
        else tail)
      (if attempt.kind.replacesTrytes = true then attached else trytes) := by
  constructor
  · rw [latestOutput_concat, output]
    split
    · exact ⟨transaction, read, rfl⟩
    · exact basis.tail_eq
  · rw [latestOutput_concat, output]
    split
    · rfl
    · exact basis.trytes_eq
  · split
    · next replaced =>
      refine ⟨transaction, read, own ?_⟩
      cases kind : attempt.kind with
      | promotion => simp [kind, AttemptKind.replacesTrytes] at replaced
      | reattachment => rfl
    · exact basis.bundle

namespace Task

variable {around : Surroundings} {task : Task} {event : Event} {turn : Turn} {kind : AttemptKind}
  {said : List Act}

/-- A successful attempt is credited with what its kind replaces. -/
theorem credit_bundle (task : Task) (kind : AttemptKind) (attached : List String)
    (transaction : Transaction) :
    (task.credit kind attached transaction).currentTail =
        (if kind.replacesTail task.setup.config.promoteChain = true then transaction.hash
          else task.currentTail) ∧
      (task.credit kind attached transaction).currentTrytes =
        (if kind.replacesTrytes = true then attached else task.currentTrytes) := by
  cases kind <;> exact ⟨rfl, rfl⟩

theorem schedule_bundle (task : Task) (now : Nat) (kind : AttemptKind) (next : Nat) :
    (task.schedule now kind next).currentTail = task.currentTail ∧
      (task.schedule now kind next).currentTrytes = task.currentTrytes := by
  cases kind <;> exact ⟨rfl, rfl⟩

/-- How the attempt under way, if there is one, stands to the positions of the loops. -/
inductive Engaged (task : Task) (said : List Act) : Option Attempt → Prop where
  | idle (rests : ∀ kind, task.isAttempting kind = false) : Engaged task said none
  | busy {kind exchanges stage request} (stands : task.attempter kind = .attempting stage)
      (underway : Underway task.setup task.currentTail task.currentTrytes kind exchanges stage
        request)
      (opened : openCall kind.party said = some request) :
      Engaged task said
        (some ⟨kind, exchanges.map Exchange.request ++ [request], exchanges⟩)

/-- A task that stands by what its dialogue makes of the trytes with which it was started. -/
structure Records (first : List String) (task : Task) (said : List Act) : Prop where
  basis : Basis task.setup first (History.of said).past task.currentTail task.currentTrytes
  past : ∀ earlier attempt, earlier ++ [attempt] <+: (History.of said).past →
    ∃ tail trytes output, Basis task.setup first earlier tail trytes ∧
      Concluded task.setup tail trytes attempt output
  current : task.Engaged said (History.of said).current
  /-- No attempt is missing from the history. -/
  kinds : said.filterMap Act.begun? = (History.of said).attempts.map Attempt.kind
  /-- Nor is any call of an attempt. -/
  calls : said.filterMap Act.call? = (History.of said).attempts.flatMap Attempt.calls

/-- A task stands by its own trytes when it is started. -/
theorem records_start {setup : Setup} {tail : Transaction} {trytes : List String}
    (read : tailOf trytes = .ok tail) (own : tail.bundle = setup.bundle) (now forced : Nat) :
    (start setup tail trytes now forced).Records trytes [] where
  basis := ⟨⟨tail, read, rfl⟩, rfl, ⟨tail, read, own⟩⟩
  past := by
    intro earlier attempt part
    simp at part
  current := .idle fun kind => by cases kind <;> rfl
  kinds := rfl
  calls := rfl

/-! ## Steps that belong to no attempt -/

/-- At a step an attempt begins, or a call of an attempt returns, or nothing is seen of attempts. -/
theorem Move.attempts (move : Move around task event turn) :
    (∃ kind, event = .granted kind.party ∧ task.attempter kind = .queued ∧
      task.lock.holder = some kind.party ∧ turn = task.begin kind) ∨
    (∃ kind stage verdict, event = .answered kind.party verdict ∧
      task.attempter kind = .attempting stage ∧
      Answered task around.now kind stage verdict turn) ∨
    ((∀ effect ∈ turn.2, effect.attempt? = none) ∧
      ∀ (kind : AttemptKind) verdict, event ≠ .answered kind.party verdict) := by
  by_cases unseen : ∀ effect ∈ turn.2, effect.attempt? = none
  · by_cases unanswered : ∀ (kind : AttemptKind) verdict, event ≠ .answered kind.party verdict
    · exact .inr (.inr ⟨unseen, unanswered⟩)
    · push Not at unanswered
      obtain ⟨kind, verdict, rfl⟩ := unanswered
      refine .inr (.inl ?_)
      generalize returned : Event.answered kind.party verdict = event at move
      cases move with
      | @answered other stage brought turn stands answered =>
        exact ⟨other, stage, brought, rfl, stands, answered⟩
      | checkFailed | checkAnswered => cases kind <;> simp [AttemptKind.party] at returned
      | _ => cases returned
  · push Not at unseen
    obtain ⟨effect, member, belongs⟩ := unseen
    obtain ⟨kind, belongs⟩ := Option.ne_none_iff_exists'.mp belongs
    obtain ⟨granted, stands, held, -, -, begun⟩ | ⟨stage, verdict, returned, stands, answered⟩ :=
      move.attempt_inv member belongs
    · exact .inl ⟨kind, granted, stands, held, begun⟩
    · exact .inr (.inl ⟨kind, stage, verdict, returned, stands, answered⟩)

/-- What other loops than that of the attempt under way say does not change the history. -/
theorem foldl_add_foreign {history : History} {said : List Act}
    (foreign : ∀ act ∈ said, ∃ party, act.party? = some party ∧
      ∀ attempt, history.current = some attempt → party ≠ attempt.kind.party) :
    said.foldl History.add history = history := by
  induction said with
  | nil => rfl
  | cons act rest inductionHypothesis =>
    obtain ⟨party, speaks, other⟩ := foreign act List.mem_cons_self
    have same : history.add act = history := by
      obtain ⟨past, current⟩ := history
      cases current with
      | none => cases act <;> first | rfl | cases speaks
      | some attempt =>
        have other := other attempt rfl
        cases act with
        | asks | hears =>
          obtain rfl := Option.some.inj speaks
          simp [History.add, Attempt.add, other]
        | begins | ends => cases speaks
    rw [List.foldl_cons, same]
    exact inductionHypothesis fun act member => foreign act (List.mem_cons_of_mem _ member)

/-- A loop that makes an attempt has the lock. -/
theorem Sound.holder_of_attempting (sound : task.Sound) {stage : Stage}
    (stands : task.attempter kind = .attempting stage) : task.lock.holder = some kind.party :=
  sound.lock.owned _ (by rw [standing_party, stands]; rfl)

/-- Only one attempt is under way. -/
theorem Sound.attempting_unique (sound : task.Sound) {other : AttemptKind} {stage late : Stage}
    (stands : task.attempter kind = .attempting stage)
    (also : task.attempter other = .attempting late) : other = kind :=
  AttemptKind.party_inj.mp (Option.some.inj
    ((sound.holder_of_attempting also).symm.trans (sound.holder_of_attempting stands)))

/-- Between attempts only the checking loop makes a call, and it asks about the tail. -/
theorem Move.check_inv (move : Move around task event turn) {party : Party} {role : Role}
    {request : Request} (calls : .call party role request ∈ turn.2)
    (elsewhere : ∀ kind : AttemptKind, party ≠ kind.party) :
    task.checker = .queued ∧ party = .checker ∧ role = .general ∧
      request = .checkConsistency [task.currentTail] ∧
      turn.1.checker = .asking task.currentTail := by
  cases move with
  | @began kind =>
    obtain ⟨stage, role, request, begun⟩ := begin_shape task kind
    simp [begun, elsewhere] at calls
  | answered stands answered =>
    cases answered.progress with
    | called => simp [elsewhere] at calls
    | reported | unreported | brokeOff => simp at calls
  | asked stands =>
    obtain ⟨rfl, rfl, rfl⟩ : _ ∧ _ ∧ _ := by simpa using calls
    exact ⟨stands, rfl, rfl, rfl, rfl⟩
  | @judged tail promotable =>
    rcases restChecker_effects (task.noteVerdict tail promotable).unlock around with silent | ended
    · simp [silent] at calls
    · simp [ended] at calls
  | checkFailed =>
    rcases restChecker_effects task around with silent | ended
    · simp [silent] at calls
    · simp [ended] at calls
  | _ => simp [register, leaveChecker, confirm] at calls

/-- A loop that makes an attempt does nothing until its call returns. -/
theorem Move.elsewhere (move : Move around task event turn)
    (unanswered : ∀ (kind : AttemptKind) verdict, event ≠ .answered kind.party verdict)
    {stage : Stage} (stands : task.attempter kind = .attempting stage) :
    event.party? ≠ some kind.party := by
  intro own
  have returns : event.isReturn = true := by
    rw [← (move.own own).1, isAsking_party, Task.isAttempting, stands]
  cases event with
  | answered party verdict =>
    obtain rfl := Option.some.inj own
    exact unanswered kind verdict rfl
  | _ => cases returns

/-- What is said between attempts is no call of an attempt, and no loop says it that makes one. -/
theorem Move.said_aside (move : Move around task event turn)
    (unseen : ∀ effect ∈ turn.2, effect.attempt? = none)
    (unanswered : ∀ (kind : AttemptKind) verdict, event ≠ .answered kind.party verdict) {act : Act}
    (member : act ∈ Entry.acts said ⟨task, around, event, turn.2⟩) :
    act.begun? = none ∧ act.call? = none ∧ ∃ party, act.party? = some party ∧
      ∀ kind stage, task.attempter kind = .attempting stage → party ≠ kind.party := by
  obtain heard | shown := List.mem_append.mp member
  · cases event with
    | answered party verdict =>
      obtain ⟨request, -, rfl⟩ := List.mem_map.mp heard
      exact ⟨rfl, rfl, party, rfl, fun kind stage stands same =>
        move.elsewhere unanswered stands (congrArg some same)⟩
    | _ => cases heard
  · obtain ⟨effect, present, shows⟩ := List.mem_filterMap.mp shown
    have silent := unseen effect present
    cases effect with
    | call party role request =>
      obtain rfl := Option.some.inj shows
      have elsewhere : ∀ kind : AttemptKind, party ≠ kind.party := by
        rintro kind rfl
        rw [attempt_call] at silent
        cases silent
      obtain ⟨-, rfl, -, rfl, -⟩ := move.check_inv present elsewhere
      exact ⟨rfl, rfl, .checker, rfl, fun kind stage _ => elsewhere kind⟩
    | began | ended | brokeOff => cases silent
    | _ => cases shows

/-- An attempt under way stays as it is while other loops act. -/
theorem Engaged.aside {current : Option Attempt} (engaged : task.Engaged said current)
    (move : Move around task event turn) (unseen : ∀ effect ∈ turn.2, effect.attempt? = none)
    (unanswered : ∀ (kind : AttemptKind) verdict, event ≠ .answered kind.party verdict) :
    turn.1.Engaged (said ++ Entry.acts said ⟨task, around, event, turn.2⟩) current := by
  cases engaged with
  | idle rests =>
    refine .idle fun kind => ?_
    by_contra attempts
    obtain before | began := move.isAttempting (Bool.not_eq_false _ ▸ attempts)
    · simp [rests] at before
    · exact nomatch unseen _ began
  | @busy kind exchanges stage request stands underway opened =>
    obtain ⟨tail, trytes⟩ := move.bundle_kept unanswered
    have other := move.elsewhere unanswered stands
    refine .busy ((move.attempter_kept other).trans stands) ?_ ?_
    · rw [tail, trytes, move.setup]
      exact underway
    · rw [openCall_concat, (move.others other).1, if_neg fun own => other own.2]
      exact opened

/-- Between attempts a task goes by what it went by. -/
theorem Records.aside {first : List String} (records : task.Records first said)
    (move : Move around task event turn) (unseen : ∀ effect ∈ turn.2, effect.attempt? = none)
    (unanswered : ∀ (kind : AttemptKind) verdict, event ≠ .answered kind.party verdict) :
    turn.1.Records first (said ++ Entry.acts said ⟨task, around, event, turn.2⟩) := by
  obtain ⟨tail, trytes⟩ := move.bundle_kept unanswered
  have silent : ∀ act ∈ Entry.acts said ⟨task, around, event, turn.2⟩,
      act.begun? = none ∧ act.call? = none ∧ ∃ party, act.party? = some party ∧
        ∀ kind stage, task.attempter kind = .attempting stage → party ≠ kind.party :=
    fun _ => move.said_aside unseen unanswered
  have foreign : ∀ act ∈ Entry.acts said ⟨task, around, event, turn.2⟩,
      ∃ party, act.party? = some party ∧
        ∀ attempt, (History.of said).current = some attempt → party ≠ attempt.kind.party := by
    intro act member
    obtain ⟨-, -, party, speaks, other⟩ := silent act member
    refine ⟨party, speaks, fun attempt current => ?_⟩
    have engaged := records.current
    rw [current] at engaged
    cases engaged with
    | busy stands => exact other _ _ stands
  have kept := foldl_add_foreign foreign
  rw [← History.of_append] at kept
  constructor
  · rw [kept, tail, trytes, move.setup]
    exact records.basis
  · rw [kept, move.setup]
    exact records.past
  · rw [kept]
    exact records.current.aside move unseen unanswered
  · rw [kept, List.filterMap_append,
      List.filterMap_eq_nil_iff.mpr fun act member => (silent act member).1, List.append_nil]
    exact records.kinds
  · rw [kept, List.filterMap_append,
      List.filterMap_eq_nil_iff.mpr fun act member => (silent act member).2.1, List.append_nil]
    exact records.calls

/-! ## Steps of an attempt -/

/-- An attempt begins with the first call of its kind. -/
theorem begin_underway (task : Task) (kind : AttemptKind) :
    ∃ stage role request, task.begin kind =
        (task.place kind (.attempting stage), [.began kind, .call kind.party role request]) ∧
      Underway task.setup task.currentTail task.currentTrytes kind [] stage request := by
  cases kind with
  | promotion => exact ⟨_, _, _, rfl, .preparing⟩
  | reattachment => exact ⟨_, _, _, rfl, .selecting⟩

/-- An attempt that begins goes by what the attempts before it have left. -/
theorem Records.begins {first : List String} (records : task.Records first said)
    (sound : task.Sound) (stands : task.attempter kind = .queued)
    (held : task.lock.holder = some kind.party) :
    (task.begin kind).1.Records first
      (said ++ Entry.acts said ⟨task, around, .granted kind.party, (task.begin kind).2⟩) := by
  have idle : (History.of said).current = none := by
    have engaged := records.current
    generalize (History.of said).current = current at engaged ⊢
    cases engaged with
    | idle => rfl
    | busy attempts =>
      obtain rfl := AttemptKind.party_inj.mp (Option.some.inj
        (held.symm.trans (sound.holder_of_attempting attempts)))
      exact nomatch stands.symm.trans attempts
  obtain ⟨stage, role, request, begun, underway⟩ := task.begin_underway kind
  have shown : Entry.acts said ⟨task, around, .granted kind.party, (task.begin kind).2⟩ =
      [.begins kind, .asks kind.party request] := by
    rw [begun]
    rfl
  have history : History.of (said ++ [.begins kind, .asks kind.party request]) =
      ⟨(History.of said).past, some ⟨kind, [request], []⟩⟩ := by
    simp [History.add, History.attempts, Attempt.add, idle]
  obtain ⟨-, -, -, setup, -, placed⟩ := frame_place task kind (.attempting stage)
  obtain ⟨tail, trytes⟩ := bundle_of_knowledge (knowledge_place task kind (.attempting stage))
  rw [shown, begun]
  constructor
  · rw [history, tail, trytes, setup]
    exact records.basis
  · rw [history, setup]
    exact records.past
  · rw [history]
    have opened : openCall kind.party (said ++ [.begins kind, .asks kind.party request]) =
        some request := by
      rw [openCall, lastAct_append]
      simp [lastAct, Act.party?]
    refine @Engaged.busy _ _ kind [] stage request placed ?_ opened
    rw [tail, trytes, setup]
    exact underway
  · rw [history, List.filterMap_append, records.kinds]
    simp [History.attempts, idle, Act.begun?]
  · rw [history, List.filterMap_append, records.calls]
    simp [History.attempts, idle, List.filterMap_cons, Act.call?, Attempt.calls,
      underway.isForAttempt]

/-- What an attempt that is over leaves to its task: nothing, or what the task is credited with. -/
inductive Leaves (task : Task) (kind : AttemptKind) : Stage → Verdict → Task → Prop where
  | nothing {stage verdict next} (ending : Ending task.setup.bundle kind stage verdict none)
      (same : next.knowledge = task.knowledge) : Leaves task kind stage verdict next
  | credit {attached transaction endpoint elapsed next}
      (tail : next.currentTail = (task.credit kind attached transaction).currentTail)
      (trytes : next.currentTrytes = (task.credit kind attached transaction).currentTrytes) :
      Leaves task kind (.broadcasting attached transaction) (.answered ⟨.done, endpoint, elapsed⟩)
        next

/-- Of an attempt that ends nothing is said but that it does. -/
theorem finish_over (task : Task) (now : Nat) (kind : AttemptKind)
    (error : Option ConfirmerError) : (task.finish now kind error).1.isAttempting kind = false ∧
      acts (task.finish now kind error).2 = [.ends kind] := by
  by_cases reporting : task.phase = .running ∧ task.stop = false
  · simp [finish, reporting, isAttempting, acts, Effect.act?]
  · simp [finish, reporting, isAttempting, acts, Effect.act?, afterReport, sleep]

/-- What the return of a call makes of an attempt: it goes on with the next call, or it is over. -/
theorem Answered.underway {now : Nat} {stage : Stage} {verdict : Verdict}
    {exchanges : List Exchange} {request : Request}
    (answered : Answered task now kind stage verdict turn)
    (underway : Underway task.setup task.currentTail task.currentTrytes kind exchanges stage
      request) :
    (∃ next role following, turn.1.attempter kind = .attempting next ∧
      turn.2 = [.call kind.party role following] ∧ turn.1.knowledge = task.knowledge ∧
      Underway task.setup task.currentTail task.currentTrytes kind
        (exchanges ++ [⟨request, verdict⟩]) next following) ∨
    turn.1.isAttempting kind = false ∧ acts turn.2 = [.ends kind] ∧
      task.Leaves kind stage verdict turn.1 := by
  cases answered with
  | failed =>
    obtain ⟨past, shown⟩ := task.finish_over now kind (some (.api _))
    exact .inr ⟨past, shown, .nothing .failed (knowledge_finish ..)⟩
  | prepared =>
    refine .inl ⟨_, _, _, (frame_place ..).2.2.2.2.2, rfl, knowledge_place .., ?_⟩
    cases underway with
    | preparing => exact .prepared
  | @selected payload tips =>
    refine .inl ⟨_, _, _, (frame_place ..).2.2.2.2.2, rfl, knowledge_place .., ?_⟩
    obtain rfl : request = task.setup.tipSelection := by cases underway <;> rfl
    have trunk : task.trunkFor kind tips = kind.trunk task.currentTail tips := by
      cases kind <;> rfl
    rw [trunk]
    exact .attaching underway
  | malformed unread =>
    obtain ⟨past, shown⟩ := finish_over _ now kind _
    refine .inr ⟨past, shown, .nothing (.rejected ?_) (knowledge_finish ..)⟩
    intro tail read
    exact nomatch unread.symm.trans read
  | foreign read other =>
    obtain ⟨past, shown⟩ := finish_over _ now kind _
    refine .inr ⟨past, shown, .nothing (.rejected ?_) (knowledge_finish ..)⟩
    intro tail again
    obtain rfl := Except.ok.inj (read.symm.trans again)
    exact other
  | attached read own =>
    refine .inl ⟨_, _, _, (frame_place ..).2.2.2.2.2, rfl, knowledge_place .., ?_⟩
    exact .broadcasting underway read fun again => not_not.mp fun other => own ⟨again, other⟩
  | succeeded exists_next =>
    obtain ⟨past, shown⟩ := finish_over _ now kind none
    obtain ⟨tail, trytes⟩ := bundle_of_knowledge (knowledge_finish _ now kind none)
    obtain ⟨sameTail, sameTrytes⟩ := schedule_bundle _ now kind _
    exact .inr ⟨past, shown, .credit (tail.trans sameTail) (trytes.trans sameTrytes)⟩
  | brokeOff no_next =>
    obtain ⟨tail, trytes⟩ := bundle_of_knowledge (knowledge_place (unlock _) kind .done)
    exact .inr ⟨by simp [isAttempting], rfl, .credit tail trytes⟩

/-- An attempt that is over leaves what it has achieved to the attempts after it. -/
theorem Leaves.basis {first : List String} {exchanges : List Exchange} {stage : Stage}
    {request : Request} {verdict : Verdict} {next : Task}
    (leaves : task.Leaves kind stage verdict next)
    (underway : Underway task.setup task.currentTail task.currentTrytes kind exchanges stage
      request)
    (basis : Basis task.setup first earlier task.currentTail task.currentTrytes) :
    ∃ attempt output, attempt = ⟨kind, exchanges.map Exchange.request ++ [request],
        exchanges ++ [⟨request, verdict⟩]⟩ ∧
      Concluded task.setup task.currentTail task.currentTrytes attempt output ∧
      Basis task.setup first (earlier ++ [attempt]) next.currentTail next.currentTrytes := by
  cases leaves with
  | nothing ending same =>
    have concluded := Concluded.intro underway ending
    obtain ⟨tail, trytes⟩ := bundle_of_knowledge same
    refine ⟨_, none, rfl, concluded, ?_⟩
    rw [tail, trytes]
    exact basis.concat_none concluded.output_eq
  | @credit attached transaction endpoint elapsed next tail trytes =>
    have concluded := Concluded.intro underway
      (@Ending.succeeded task.setup.bundle kind attached transaction endpoint elapsed)
    obtain ⟨creditedTail, creditedTrytes⟩ := credit_bundle task kind attached transaction
    refine ⟨_, some attached, rfl, concluded, ?_⟩
    rw [tail, trytes, creditedTail, creditedTrytes]
    cases underway with
    | broadcasting attaching read own => exact basis.concat_some concluded.output_eq read own

/-- The attempt under way is that of the loop that makes one. -/
theorem Records.underway {first : List String} {stage : Stage} (records : task.Records first said)
    (sound : task.Sound) (stands : task.attempter kind = .attempting stage) :
    ∃ exchanges request, (History.of said).current =
        some ⟨kind, exchanges.map Exchange.request ++ [request], exchanges⟩ ∧
      Underway task.setup task.currentTail task.currentTrytes kind exchanges stage request ∧
      openCall kind.party said = some request := by
  have engaged := records.current
  generalize (History.of said).current = current at engaged ⊢
  cases engaged with
  | idle rests => exact absurd stands (isAttempting_eq_false.mp (rests kind) stage)
  | busy other underway opened =>
    obtain rfl := sound.attempting_unique stands other
    obtain rfl := Attempter.attempting.inj (other.symm.trans stands)
    exact ⟨_, _, rfl, underway, opened⟩

/-- While a call of an attempt returns, no other attempt is under way or begins. -/
theorem Sound.others_rest (sound : task.Sound) {stage : Stage} {verdict : Verdict}
    (stands : task.attempter kind = .attempting stage)
    (move : Move around task (.answered kind.party verdict) turn) {other : AttemptKind}
    (different : other ≠ kind) : turn.1.isAttempting other = false := by
  have elsewhere : (Event.answered kind.party verdict).party? ≠ some other.party := by
    simpa [Event.party?] using different.symm
  refine isAttempting_eq_false.mpr fun late also => ?_
  rw [move.attempter_kept elsewhere] at also
  exact different (sound.attempting_unique stands also)

section Answers

variable {first : List String} {exchanges : List Exchange} {request : Request} {verdict : Verdict}
  (records : task.Records first said)
  (current : (History.of said).current =
    some ⟨kind, exchanges.map Exchange.request ++ [request], exchanges⟩)
  (opened : openCall kind.party said = some request)
  (move : Move around task (.answered kind.party verdict) turn)
include records current opened move

/-- An attempt whose call has returned goes on with the next one. -/
theorem Records.goes_on {next : Stage} {role : Role} {following : Request}
    (placed : turn.1.attempter kind = .attempting next)
    (shown : turn.2 = [.call kind.party role following])
    (same : turn.1.knowledge = task.knowledge)
    (underway : Underway task.setup task.currentTail task.currentTrytes kind
      (exchanges ++ [⟨request, verdict⟩]) next following) :
    turn.1.Records first
      (said ++ Entry.acts said ⟨task, around, .answered kind.party verdict, turn.2⟩) := by
  have acts : Entry.acts said ⟨task, around, .answered kind.party verdict, turn.2⟩ =
      [.hears kind.party request verdict, .asks kind.party following] := by
    rw [acts_answered opened, shown]
    rfl
  have history : History.of
      (said ++ [.hears kind.party request verdict, .asks kind.party following]) =
        ⟨(History.of said).past, some ⟨kind,
          (exchanges ++ [Exchange.mk request verdict]).map Exchange.request ++ [following],
          exchanges ++ [⟨request, verdict⟩]⟩⟩ := by
    simp [History.add, Attempt.add, current]
  obtain ⟨tail, trytes⟩ := bundle_of_knowledge same
  rw [acts]
  constructor
  · rw [history, tail, trytes, move.setup]
    exact records.basis
  · rw [history, move.setup]
    exact records.past
  · rw [history]
    refine .busy placed ?_ ?_
    · rw [tail, trytes, move.setup]
      exact underway
    · rw [openCall, lastAct_append]
      simp [lastAct, Act.party?]
  · rw [history, List.filterMap_append, records.kinds]
    simp [History.attempts, current, Act.begun?]
  · rw [history, List.filterMap_append, records.calls]
    simp [History.attempts, current, List.filterMap_cons, Act.call?, Attempt.calls,
      underway.isForAttempt]

/-- An attempt whose call has returned is over, and takes its place behind the earlier ones. -/
theorem Records.ends {attempt : Attempt} {output : Option (List String)}
    (rests : ∀ other, turn.1.isAttempting other = false) (shown : acts turn.2 = [.ends kind])
    (whole : attempt = ⟨kind, exchanges.map Exchange.request ++ [request],
      exchanges ++ [⟨request, verdict⟩]⟩)
    (concluded : Concluded task.setup task.currentTail task.currentTrytes attempt output)
    (basis : Basis task.setup first ((History.of said).past ++ [attempt]) turn.1.currentTail
      turn.1.currentTrytes) :
    turn.1.Records first
      (said ++ Entry.acts said ⟨task, around, .answered kind.party verdict, turn.2⟩) := by
  have acts : Entry.acts said ⟨task, around, .answered kind.party verdict, turn.2⟩ =
      [.hears kind.party request verdict, .ends kind] := by
    rw [acts_answered opened, shown]
  have history : History.of (said ++ [.hears kind.party request verdict, .ends kind]) =
      ⟨(History.of said).past ++ [attempt], none⟩ := by
    simp [History.add, History.attempts, Attempt.add, current, whole]
  rw [acts]
  constructor
  · rw [history, move.setup]
    exact basis
  · rw [history, move.setup]
    intro earlier other part
    -- Either it is the attempt that has just ended, or it was over before.
    obtain all | before := List.prefix_concat_iff.mp part
    · obtain ⟨rfl, same⟩ := List.append_inj' all rfl
      obtain rfl := List.singleton_inj.mp same
      exact ⟨_, _, output, records.basis, concluded⟩
    · exact records.past earlier other before
  · rw [history]
    exact .idle rests
  · rw [history, List.filterMap_append, records.kinds]
    simp [History.attempts, current, Act.begun?, whole]
  · rw [history, List.filterMap_append, records.calls]
    simp [History.attempts, current, Act.call?, Attempt.calls, whole]

end Answers

/-- When a call of an attempt returns, the task goes by what the attempt has left, if it is over. -/
theorem Records.answered {first : List String} {stage : Stage} {verdict : Verdict}
    (records : task.Records first said) (sound : task.Sound)
    (stands : task.attempter kind = .attempting stage)
    (answered : Answered task around.now kind stage verdict turn) :
    turn.1.Records first
      (said ++ Entry.acts said ⟨task, around, .answered kind.party verdict, turn.2⟩) := by
  have move : Move around task (.answered kind.party verdict) turn := .answered stands answered
  obtain ⟨exchanges, request, current, underway, opened⟩ := records.underway sound stands
  obtain ⟨next, role, following, placed, shown, same, further⟩ | ⟨past, shown, leaves⟩ :=
    answered.underway underway
  · exact records.goes_on current opened move placed shown same further
  · obtain ⟨attempt, output, whole, concluded, basis⟩ := leaves.basis underway records.basis
    refine records.ends current opened move (fun other => ?_) shown whole concluded basis
    by_cases own : other = kind
    · exact own ▸ past
    · exact sound.others_rest stands move own

/-- Whatever happens, a task goes by what its history makes of the trytes with which it was started.
-/
theorem Records.step {first : List String} (records : task.Records first said)
    (sound : task.Sound) (move : Move around task event turn) :
    turn.1.Records first (said ++ Entry.acts said ⟨task, around, event, turn.2⟩) := by
  obtain ⟨kind, rfl, stands, held, rfl⟩ | ⟨kind, stage, verdict, rfl, stands, answered⟩ |
    ⟨unseen, unanswered⟩ := move.attempts
  · exact records.begins sound stands held
  · exact records.answered sound stands answered
  · exact records.aside move unseen unanswered

/-- This holds throughout a run. -/
theorem Run.records {first : List String} {start final : Task} {entries : List Entry}
    (run : Run start entries final) (sound : start.Sound) (records : start.Records first []) :
    final.Records first (dialogue entries) := by
  induction run with
  | refl => exact records
  | @step entries task around event next effects prior move inductionHypothesis =>
    rw [dialogue_concat]
    exact inductionHypothesis.step (prior.sound sound) move

/-! ## The attempts of a history -/

/-- Every attempt goes by what the attempts before it have left. It has made all its calls or has
been stopped, or it is the last one and waits for its last call. -/
theorem Records.goesBy {first : List String} {later : List Attempt}
    (records : task.Records first said)
    (split : (History.of said).attempts = earlier ++ attempt :: later) :
    (∃ tail trytes, Basis task.setup first earlier tail trytes ∧
        GoesBy task.setup tail trytes attempt) ∧
      (attempt.IsClosed ∧ (attempt.IsComplete ∨ attempt.IsStopped task.setup.bundle) ∨
        attempt.IsOpen ∧ later = []) := by
  -- The attempt is over, or it is the one under way, which is the last.
  by_cases part : earlier ++ [attempt] <+: (History.of said).past
  · obtain ⟨tail, trytes, output, basis, concluded⟩ := records.past earlier attempt part
    exact ⟨⟨tail, trytes, basis, concluded.goesBy⟩, .inl concluded.closed⟩
  · have engaged := records.current
    rw [History.attempts] at split
    generalize (History.of said).current = current at engaged split
    cases engaged with
    | idle => exact absurd ⟨later, by simpa using split.symm⟩ part
    | @busy kind exchanges stage request stands underway opened =>
      have all : earlier ++ [attempt] <+: (History.of said).past ++ [_] :=
        ⟨later, by simpa using split.symm⟩
      have whole := (List.prefix_concat_iff.mp all).resolve_right part
      obtain ⟨rfl, same⟩ := List.append_inj' whole rfl
      obtain rfl := List.singleton_inj.mp same
      refine ⟨⟨_, _, records.basis, ?_⟩, .inr ⟨⟨request, rfl⟩, by simpa using split⟩⟩
      simpa using GoesBy.intro underway []

end Task

end Inclusion
