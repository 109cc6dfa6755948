import Inclusion.Proofs.Task.Attempts

/-!
# The dialogue of a task with the nodes

Seen from outside, a task is known by the calls of its loops and by what they return, in the order
in which they are made and return. A loop makes one call at a time and waits for its return, so
the return of a call is always that of the last call of its loop, and the dialogue names both.

Which loop waits for a node is read off the positions of the loops, and it is the same as which
call is open in the dialogue. The beginning and the end of attempts are kept in the dialogue, so
that it can be divided into attempts.
-/

namespace Inclusion.Task

/-- What is said between the loops of a task and the nodes, and for which attempt. -/
inductive Act where
  | begins (kind : AttemptKind)
  /-- A loop makes a call. -/
  | asks (party : Party) (request : Request)
  /-- The call of a loop returns. -/
  | hears (party : Party) (request : Request) (verdict : Verdict)
  | ends (kind : AttemptKind)
deriving DecidableEq

/-- The loop that speaks to a node or hears from it. -/
def Act.party? : Act → Option Party
  | asks party _ | hears party _ _ => some party
  | begins _ | ends _ => none

/-- What an effect adds to the dialogue. -/
def Effect.act? : Effect → Option Act
  | began kind => some (.begins kind)
  | call party _ request => some (.asks party request)
  | ended kind _ | brokeOff kind => some (.ends kind)
  | _ => none

/-- What effects add to the dialogue, in order. -/
def acts (effects : List Effect) : List Act :=
  effects.filterMap Effect.act?

/-- The request of a loop, if an effect is one. -/
def Effect.request? (party : Party) : Effect → Option Request
  | call other _ request => if other = party then some request else none
  | _ => none

/-- The requests of a loop among effects, in order. -/
def requests (party : Party) (effects : List Effect) : List Request :=
  effects.filterMap (Effect.request? party)

/-- The last thing that a loop has asked or heard. -/
def lastAct (party : Party) (said : List Act) : Option Act :=
  (said.filter fun act => act.party? = some party).getLast?

/-- The call of a loop that has not returned: what it has asked, if it has heard nothing since. -/
def openCall (party : Party) (said : List Act) : Option Request :=
  match lastAct party said with
  | some (.asks _ request) => some request
  | _ => none

/-- What a loop hears by an event: the return of its open call. -/
def Event.heard (said : List Act) : Event → List Act
  | answered party verdict => (openCall party said).toList.map (.hears party · verdict)
  | _ => []

/-- What a step adds to a dialogue. -/
def Entry.acts (said : List Act) (entry : Entry) : List Act :=
  entry.event.heard said ++ Task.acts entry.effects

/-- The dialogue of a run. -/
def dialogue (entries : List Entry) : List Act :=
  entries.foldl (fun said entry => said ++ entry.acts said) []

@[simp] theorem dialogue_nil : dialogue [] = [] := rfl

theorem dialogue_concat (entries : List Entry) (entry : Entry) :
    dialogue (entries ++ [entry]) = dialogue entries ++ entry.acts (dialogue entries) := by
  simp [dialogue]

theorem lastAct_append (party : Party) (first second : List Act) :
    lastAct party (first ++ second) = (lastAct party second).or (lastAct party first) := by
  rw [lastAct, List.filter_append, List.getLast?_append]
  rfl

/-- Of a loop, effects add its requests and nothing else. -/
theorem filter_acts (party : Party) (effects : List Effect) :
    (acts effects).filter (fun act => act.party? = some party) =
      (requests party effects).map (.asks party) := by
  rw [acts, requests, List.filter_filterMap, List.map_filterMap]
  refine List.filterMap_congr fun effect _ => ?_
  cases effect with
  | call other role request =>
    by_cases same : other = party
    · simp [Effect.act?, Effect.request?, Act.party?, same]
    · simp [Effect.act?, Effect.request?, Act.party?, same]
  | _ => rfl

theorem lastAct_acts (party : Party) (effects : List Effect) :
    lastAct party (acts effects) = (requests party effects).getLast?.map (.asks party) := by
  rw [lastAct, filter_acts, List.getLast?_map]

/-! ## Who waits for a node -/

variable {around : Surroundings} {task : Task} {event : Event} {turn : Turn} {kind : AttemptKind}
  {party : Party}

/-- Whether a loop waits for a node. -/
def isAsking (task : Task) : Party → Bool
  | .checker =>
    match task.checker with
    | .asking _ => true
    | _ => false
  | .promoter => task.isAttempting .promotion
  | .reattacher => task.isAttempting .reattachment
  | .supervisor => false

@[simp] theorem isAsking_party (task : Task) (kind : AttemptKind) :
    task.isAsking kind.party = task.isAttempting kind := by
  cases kind <;> rfl

/-- Whether an event is the return of a call. -/
def Event.isReturn : Event → Bool
  | answered _ _ => true
  | _ => false

theorem requests_eq_nil {effects : List Effect}
    (others : ∀ role request, .call party role request ∉ effects) :
    requests party effects = [] := by
  refine List.filterMap_eq_nil_iff.mpr fun effect member => ?_
  cases effect with
  | call other role request =>
    by_cases same : other = party
    · exact absurd (same ▸ member) (others role request)
    · simp [Effect.request?, same]
  | _ => rfl

/-- What a loop requests it calls a node for. -/
theorem call_of_mem_requests {effects : List Effect} {request : Request}
    (member : request ∈ requests party effects) : ∃ role, .call party role request ∈ effects := by
  obtain ⟨effect, shown, requested⟩ := List.mem_filterMap.mp member
  cases effect with
  | call other role asked =>
    simp only [Effect.request?, Option.ite_none_right_eq_some, Option.some.injEq] at requested
    obtain ⟨rfl, rfl⟩ := requested
    exact ⟨role, shown⟩
  | _ => cases requested

/-- The checking loop stands where it stood, unless an event is for it. -/
theorem Move.checker_kept (move : Move around task event turn)
    (other : event.party? ≠ some .checker) : turn.1.checker = task.checker := by
  cases move with
  | answered stands answered =>
    cases answered.progress with
    | called kin | reported kin | unreported kin | brokeOff kin => simp [kin.checker]
  | @began kind =>
    obtain ⟨stage, role, request, begun⟩ := begin_shape task kind
    simp [begun]
  | entered | woke | recovered | haltedAsleep | retired | deferred => simp [sleep]
  | sent | timedOut | haltedSending | refused => exact (frame_afterReport _ _ _ _).2.2.2.2
  | checkerEntered | checkerWoke | checkerHalted | checkerRetired | asked | judged | checkFailed
  | checkAnswered => exact absurd rfl other
  | _ => rfl

/-- Only the loop that an event is for makes a call. -/
theorem Move.caller (move : Move around task event turn) {role : Role} {request : Request}
    (calls : .call party role request ∈ turn.2) : event.party? = some party := by
  cases move with
  | @began kind =>
    obtain ⟨stage, role, request, begun⟩ := begin_shape task kind
    simp_all [Event.party?]
  | answered stands answered =>
    cases answered.progress with
    | called => simp_all [Event.party?]
    | reported | unreported | brokeOff => simp at calls
  | asked => simp_all [Event.party?]
  | @judged tail promotable =>
    rcases restChecker_effects (task.noteVerdict tail promotable).unlock around with silent | ended
    · simp [silent] at calls
    · simp [ended] at calls
  | checkFailed =>
    rcases restChecker_effects task around with silent | ended
    · simp [silent] at calls
    · simp [ended] at calls
  | _ => simp [register, leaveChecker, confirm] at calls

/-- An event for another loop makes a loop neither ask nor hear. -/
theorem Move.others (move : Move around task event turn) (other : event.party? ≠ some party) :
    requests party turn.2 = [] ∧ turn.1.isAsking party = task.isAsking party := by
  refine ⟨requests_eq_nil fun role request calls => other (move.caller calls), ?_⟩
  have attempter : ∀ kind : AttemptKind, event.party? ≠ some kind.party →
      turn.1.isAttempting kind = task.isAttempting kind := by
    intro kind other
    rw [Task.isAttempting, Task.isAttempting, move.attempter_kept other]
  cases party with
  | checker => rw [isAsking, isAsking, move.checker_kept other]
  | promoter => exact attempter .promotion other
  | reattacher => exact attempter .reattachment other
  | supervisor => rfl

/-- The checking loop waits for no node while it sleeps or when it has ended. -/
theorem restChecker_asking (task : Task) (around : Surroundings) :
    requests .checker (task.restChecker around).2 = [] ∧
      (task.restChecker around).1.isAsking .checker = false := by
  constructor
  · rcases restChecker_effects task around with silent | ended
    · rw [silent]; rfl
    · rw [ended]; rfl
  · obtain ⟨wake, sleeps⟩ | ended := restChecker_position task around
    · rw [isAsking, sleeps]
    · rw [isAsking, ended]

/-- The loop that an event is for has been waiting for a node exactly if the event is the return of
its call, and makes one call if it waits afterwards. -/
theorem Move.own (move : Move around task event turn) (own : event.party? = some party) :
    task.isAsking party = event.isReturn ∧
      (requests party turn.2).length = (turn.1.isAsking party).toNat := by
  cases move with
  | @began kind stands =>
    obtain rfl : kind.party = party := Option.some.inj own
    obtain ⟨stage, role, request, begun⟩ := begin_shape task kind
    rw [begun]
    simp [requests, List.filterMap_cons, Effect.request?, Task.isAttempting, stands, Event.isReturn]
  | @answered kind stage verdict turn stands answered =>
    obtain rfl : kind.party = party := Option.some.inj own
    cases answered.progress <;>
      simp [requests, List.filterMap_cons, Effect.request?, Task.isAttempting, stands,
        Event.isReturn]
  | @entered kind stands | @woke kind wake stands | @recovered kind wake stands
  | @haltedAsleep kind pause wake stands | @retired kind stands | @deferred kind stands
  | @sent kind update failed deadline stands | @timedOut kind update failed deadline stands
  | @haltedSending kind update failed deadline stands
  | @refused kind update failed deadline stands =>
    obtain rfl : kind.party = party := Option.some.inj own
    simp [requests, List.filterMap_cons, Effect.request?, Task.isAttempting, stands,
      Event.isReturn, sleep, afterReport]
  | checkerEntered stands | checkerWoke stands | checkerHalted stands | checkerRetired stands
  | asked stands | checkAnswered stands =>
    obtain rfl : .checker = party := Option.some.inj own
    simp [requests, List.filterMap_cons, Effect.request?, isAsking, stands, Event.isReturn,
      leaveChecker]
  | @judged tail promotable stands =>
    obtain rfl : .checker = party := Option.some.inj own
    obtain ⟨silent, rests⟩ :=
      restChecker_asking (task.noteVerdict tail promotable).unlock around
    refine ⟨by rw [isAsking, stands]; rfl, ?_⟩
    rw [rests]
    exact congrArg List.length silent
  | checkFailed stands =>
    obtain rfl : .checker = party := Option.some.inj own
    obtain ⟨silent, rests⟩ := restChecker_asking task around
    refine ⟨by rw [isAsking, stands]; rfl, ?_⟩
    rw [rests]
    exact congrArg List.length silent
  | registered | confirmed | cancelled | announced | announceTimedOut | announceRefused =>
    obtain rfl : .supervisor = party := Option.some.inj own
    exact ⟨rfl, rfl⟩
  | signalled | dropSeen | confirmSeen | cancelSeen | announceCancelled | joined | cancelRequested
  | received | streamDropped => cases own

/-! ## Open calls -/

/-- A request opens a call. -/
theorem openCall_acts (party : Party) (said : List Act) (effects : List Effect) :
    openCall party (said ++ acts effects) =
      (requests party effects).getLast?.or (openCall party said) := by
  rw [openCall, lastAct_append, lastAct_acts]
  cases (requests party effects).getLast? <;> rfl

/-- The return of a call is heard before anything is said. -/
theorem acts_answered {verdict : Verdict} {effects : List Effect} {said : List Act}
    {request : Request} (opened : openCall party said = some request) :
    Entry.acts said ⟨task, around, .answered party verdict, effects⟩ =
      .hears party request verdict :: acts effects := by
  rw [Entry.acts, Event.heard, opened]
  rfl

/-- A return closes the open call of its loop. -/
theorem openCall_heard (party : Party) (said : List Act) (event : Event) :
    openCall party (said ++ event.heard said) =
      if event.isReturn = true ∧ event.party? = some party then none else openCall party said := by
  cases event with
  | answered other verdict =>
    by_cases same : other = party
    · subst same
      cases opened : openCall other said with
      | none => simp [Event.heard, Event.isReturn, Event.party?, opened]
      | some request =>
        have heard : Event.heard said (.answered other verdict) =
            [.hears other request verdict] := by simp [Event.heard, opened]
        have last : lastAct other [.hears other request verdict] =
            some (.hears other request verdict) := by simp [lastAct, Act.party?]
        rw [heard, openCall, lastAct_append, last]
        exact (if_pos ⟨rfl, rfl⟩).symm
    · have unheard : lastAct party (Event.heard said (.answered other verdict)) = none := by
        simp [Event.heard, lastAct, Act.party?, same]
      simp [Event.isReturn, Event.party?, same, openCall, lastAct_append, unheard]
  | _ => simp [Event.heard, Event.isReturn]

/-- What a step makes of the open call of a loop. -/
theorem openCall_concat (party : Party) (said : List Act) (entry : Entry) :
    openCall party (said ++ entry.acts said) =
      (requests party entry.effects).getLast?.or
        (if entry.event.isReturn = true ∧ entry.event.party? = some party then none
          else openCall party said) := by
  rw [Entry.acts, ← List.append_assoc, openCall_acts, openCall_heard]

/-- The loops of a task wait for a node exactly if they have a call open. -/
def Attentive (task : Task) (said : List Act) : Prop :=
  ∀ party, (openCall party said).isSome = task.isAsking party

theorem Attentive.step {said : List Act} (attentive : task.Attentive said)
    (move : Move around task event turn) :
    turn.1.Attentive (said ++ Entry.acts said ⟨task, around, event, turn.2⟩) := by
  intro party
  rw [openCall_concat]
  by_cases own : event.party? = some party
  · obtain ⟨before, calls⟩ := move.own own
    have closed : (if event.isReturn = true ∧ event.party? = some party then none
        else openCall party said) = none := by
      split
      · rfl
      · next open_still =>
        have idle : task.isAsking party = false := by simpa [own, before] using open_still
        rwa [← attentive, Option.isSome_eq_false_iff, Option.isNone_iff_eq_none] at idle
    rw [closed, Option.or_none]
    cases made : requests party turn.2 with
    | nil =>
      rw [made] at calls
      exact (Bool.toNat_eq_zero.mp calls.symm).symm
    | cons first rest =>
      rw [made] at calls
      cases asks : turn.1.isAsking party with
      | true => rw [List.getLast?_cons]; rfl
      | false => simp [asks] at calls
  · obtain ⟨silent, same⟩ := move.others own
    simp [silent, own, same, attentive party]

/-- If what a loop waits for is its open call, it is so after a step that adds the calls of the loop
and takes away the one that has returned. -/
theorem Attentive.waiting {said : List Act} (attentive : task.Attentive said)
    (move : Move around task event turn) {before after : List Request}
    (waits : before.Sublist (openCall party said).toList)
    (made : after.Sublist ((if event.isReturn = true ∧ event.party? = some party then []
      else before) ++ requests party turn.2)) :
    after.Sublist
      (openCall party (said ++ Entry.acts said ⟨task, around, event, turn.2⟩)).toList := by
  rw [openCall_concat]
  by_cases own : event.party? = some party
  · obtain ⟨waited, calls⟩ := move.own own
    have nothing : (if event.isReturn = true ∧ event.party? = some party then []
        else before) = [] := by
      split
      · rfl
      · next goes_on =>
        have idle : (openCall party said).isSome = false := by
          rw [attentive party, waited]
          simpa [own] using goes_on
        rw [Option.isSome_eq_false_iff, Option.isNone_iff_eq_none] at idle
        rw [idle] at waits
        exact List.sublist_nil.mp waits
    rw [nothing, List.nil_append] at made
    cases asked : requests party turn.2 with
    | nil =>
      rw [asked] at made
      rw [List.sublist_nil.mp made]
      exact List.nil_sublist _
    | cons request rest =>
      rw [asked] at made calls
      have single : rest = [] := by
        refine List.length_eq_zero_iff.mp ?_
        rw [List.length_cons] at calls
        have most := Bool.toNat_le (turn.1.isAsking party)
        omega
      rw [single] at made ⊢
      exact made
  · rw [(move.others own).1, List.append_nil, if_neg fun both => own both.2] at made
    rw [(move.others own).1, if_neg fun both => own both.2]
    exact made.trans waits

/-- A loop waits for a node exactly if it has a call open. -/
theorem Run.attentive {start final : Task} {entries : List Entry} (run : Run start entries final)
    (attentive : start.Attentive []) : final.Attentive (dialogue entries) := by
  induction run with
  | refl => exact attentive
  | @step entries task around event next effects prior move inductionHypothesis =>
    rw [dialogue_concat]
    exact inductionHypothesis.step move

end Inclusion.Task
