import Inclusion.Proofs.Task.Cancellation
import Inclusion.Proofs.Task.Reports

/-!
# The loops of a task that have not ended

A loop is live until it ends, which is seen when it happens and happens at most once to each. A step
ends one loop at most. The checking loop counts towards the load from its beginning to its end.

A task that is over does nothing any more: its consumer may take what is left, or go away.
-/

namespace Inclusion

namespace Task

/-- Whether a loop has not ended. -/
def isLive (task : Task) : Party → Bool
  | .checker => task.checker ≠ .done
  | .promoter => task.promoter ≠ .done
  | .reattacher => task.reattacher ≠ .done
  | .supervisor => task.supervisor ≠ .done

/-- The number of loops that have not ended. -/
def liveLoops (task : Task) : Nat :=
  parties.countP task.isLive

/-- Whether the checking loop is at work: it has begun and not ended. -/
def isChecking (task : Task) : Bool :=
  task.checker ≠ .starting && task.checker ≠ .done

/-- The loops that are seen to end. -/
def ended (effects : List Effect) : List Party :=
  effects.filterMap fun
    | .loopEnded party => some party
    | _ => none

/-- What an effect makes of the load. -/
def Effect.onLoad : Effect → Nat → Nat
  | enterLoad, load => load + 1
  | leaveLoad, load => load - 1
  | _, load => load

/-- What effects make of the load, in order. -/
def onLoad (effects : List Effect) (load : Nat) : Nat :=
  effects.foldl (fun load effect => effect.onLoad load) load

/-- What a step is to the loops that have not ended. -/
inductive Parting (task next : Task) (effects : List Effect) : Prop where
  | none (none_ended : ended effects = []) (live : next.isLive = task.isLive)
  | one (party : Party) (was : task.isLive party = true) (one_ended : ended effects = [party])
      (live : next.isLive = Function.update task.isLive party false)

variable {around : Surroundings} {task next : Task} {event : Event} {turn : Turn} {party : Party}

theorem isLive_congr (checker : next.checker = task.checker)
    (attempter : next.attempter = task.attempter) (supervisor : next.supervisor = task.supervisor) :
    next.isLive = task.isLive := by
  have promoter : next.promoter = task.promoter := congrFun attempter .promotion
  have reattacher : next.reattacher = task.reattacher := congrFun attempter .reattachment
  funext party
  cases party <;> simp [isLive, checker, promoter, reattacher, supervisor]

theorem isLive_party (task : Task) (kind : AttemptKind) :
    task.isLive kind.party = (task.attempter kind ≠ .done : Bool) := by
  cases kind <;> rfl

theorem isLive_place (task : Task) (kind : AttemptKind) (position : Attempter) :
    (task.place kind position).isLive =
      Function.update task.isLive kind.party (position ≠ .done : Bool) := by
  funext party
  cases kind <;> cases party <;> rfl

theorem Kin.isLive {other : Task} (kin : task.Kin other) : other.isLive = task.isLive :=
  isLive_congr kin.checker kin.attempter (congrArg Course.supervisor kin.course)

/-- A loop that makes attempts goes on. -/
theorem isLive_goes_on {kind : AttemptKind} {position : Attempter}
    (same : next.isLive = task.isLive) (works : task.attempter kind ≠ .done)
    (goes_on : position ≠ .done) :
    (next.place kind position).isLive = task.isLive := by
  rw [isLive_place, same]
  refine Function.update_eq_self_iff.mpr ?_
  rw [isLive_party, decide_eq_true goes_on, decide_eq_true works]

/-- It ends. -/
theorem parting_place {kind : AttemptKind} {effects : List Effect}
    (same : next.isLive = task.isLive) (works : task.attempter kind ≠ .done)
    (one_ended : ended effects = [kind.party]) :
    Parting task (next.place kind .done) effects := by
  refine .one kind.party ?_ one_ended ?_
  · rw [isLive_party, decide_eq_true works]
  · rw [isLive_place, same]
    rfl

/-- The checking loop goes on. -/
theorem isLive_checker (promoter : next.promoter = task.promoter)
    (reattacher : next.reattacher = task.reattacher)
    (supervisor : next.supervisor = task.supervisor) (works : task.checker ≠ .done)
    (goes_on : next.checker ≠ .done) : next.isLive = task.isLive := by
  funext party
  cases party <;> simp [isLive, promoter, reattacher, supervisor, works, goes_on]

theorem parting_checker {effects : List Effect} (promoter : next.promoter = task.promoter)
    (reattacher : next.reattacher = task.reattacher)
    (supervisor : next.supervisor = task.supervisor) (works : task.checker ≠ .done)
    (left : next.checker = .done) (one_ended : ended effects = [.checker]) :
    Parting task next effects := by
  refine .one .checker (decide_eq_true works) one_ended (funext fun party => ?_)
  cases party <;> simp [isLive, promoter, reattacher, supervisor, left, Function.update]

/-- The supervisor goes on. -/
theorem isLive_supervisor (checker : next.checker = task.checker)
    (promoter : next.promoter = task.promoter) (reattacher : next.reattacher = task.reattacher)
    (works : task.supervisor ≠ .done) (goes_on : next.supervisor ≠ .done) :
    next.isLive = task.isLive := by
  funext party
  cases party <;> simp [isLive, checker, promoter, reattacher, works, goes_on]

theorem Parting.of_same {other : Task} {effects : List Effect}
    (parting : Parting other next effects) (same : other.isLive = task.isLive) :
    Parting task next effects := by
  cases parting with
  | none none_ended live => exact .none none_ended (live.trans same)
  | one party was one_ended live => exact .one party (same ▸ was) one_ended (same ▸ live)

/-- After a verdict the checking loop sleeps or ends. -/
theorem parting_restChecker (around : Surroundings) (works : task.checker ≠ .done) :
    Parting task (task.restChecker around).1 (task.restChecker around).2 := by
  unfold restChecker
  split
  · exact .none rfl (isLive_checker rfl rfl rfl works nofun)
  · exact parting_checker rfl rfl rfl works rfl rfl

/-- Every step ends one loop at most. -/
theorem Move.parting (move : Move around task event turn) : Parting task turn.1 turn.2 := by
  cases move with
  | @entered kind stands =>
    exact .none rfl (isLive_goes_on rfl (by simp [stands]) nofun)
  | @recovered kind wake stands => exact .none rfl (isLive_goes_on rfl (by simp [stands]) nofun)
  | @woke kind wake stands =>
    have works : task.attempter kind ≠ .done := by simp [stands]
    exact .none rfl (@isLive_goes_on task (task.requestLock kind.party) kind _ rfl works nofun)
  | haltedAsleep stands => exact parting_place rfl (by simp [stands]) rfl
  | retired stands => exact parting_place rfl (by simp [stands]) rfl
  | @began kind stands =>
    obtain ⟨stage, role, request, begun⟩ := begin_shape task kind
    rw [begun]
    exact .none rfl (isLive_goes_on rfl (by simp [stands]) nofun)
  | deferred stands => exact .none rfl (isLive_goes_on rfl (by simp [stands]) nofun)
  | answered stands answered =>
    cases answered.progress with
    | called kin => exact .none rfl (isLive_goes_on kin.isLive (by simp [stands]) nofun)
    | reported kin => exact .none rfl (isLive_goes_on kin.isLive (by simp [stands]) nofun)
    | unreported kin => exact .none rfl (isLive_goes_on kin.isLive (by simp [stands]) nofun)
    | brokeOff kin => exact parting_place kin.isLive (by simp [stands]) rfl
  | sent stands | timedOut stands | haltedSending stands | refused stands =>
    exact .none rfl (isLive_goes_on rfl (by simp [stands]) nofun)
  | checkerEntered stands | checkerWoke stands | asked stands | checkAnswered stands =>
    exact .none rfl (isLive_checker rfl rfl rfl (by simp [stands]) nofun)
  | checkerHalted stands | checkerRetired stands =>
    exact parting_checker rfl rfl rfl (by simp [stands]) rfl rfl
  | @judged tail promotable stands =>
    have kin := kin_noteVerdict task tail promotable
    have works : (task.noteVerdict tail promotable).unlock.checker ≠ .done :=
      kin.checker.trans stands ▸ nofun
    have rest := (parting_restChecker around works).of_same kin.isLive
    cases rest with
    | none none_ended live => exact .none none_ended live
    | one party was one_ended live => exact .one party was one_ended live
  | checkFailed stands => exact parting_restChecker around (by simp [stands])
  | registered stands | signalled stands | dropSeen stands | confirmSeen stands | cancelSeen stands
  | confirmed stands | cancelled stands | announced stands | announceTimedOut stands
  | announceCancelled stands | announceRefused stands =>
    exact .none rfl (isLive_supervisor rfl rfl rfl (by simp [stands]) nofun)
  | joined stands =>
    refine .one .supervisor (by simp [isLive, stands]) rfl (funext fun party => ?_)
    cases party <;> simp [isLive, Function.update]
  | cancelRequested | received | streamDropped => exact .none rfl rfl

/-! ## How many loops are live -/

theorem mem_ended {effects : List Effect} {party : Party} :
    party ∈ ended effects ↔ .loopEnded party ∈ effects := by
  constructor
  · intro member
    obtain ⟨effect, there, shown⟩ := List.mem_filterMap.mp member
    split at shown
    · obtain rfl := Option.some.inj shown
      exact there
    · cases shown
  · exact fun member => List.mem_filterMap.mpr ⟨_, member, rfl⟩

theorem mem_parties (party : Party) : party ∈ parties := by
  cases party <;> simp [parties]

theorem liveLoops_le (task : Task) : task.liveLoops ≤ 4 :=
  List.countP_le_length

theorem liveLoops_eq_four_iff : task.liveLoops = 4 ↔ ∀ party, task.isLive party = true := by
  rw [liveLoops, show 4 = parties.length from rfl, List.countP_eq_length]
  exact ⟨fun all party => all party (mem_parties party), fun all party _ => all party⟩

/-- All loops of a task that is over have ended. -/
theorem Sound.done_of_over (sound : task.Sound) (past : task.isOver = true) :
    task.supervisor = .done ∧ task.checker = .done ∧ ∀ kind, task.attempter kind = .done := by
  have ended : task.supervisor = .done := of_decide_eq_true past
  have workers := sound.last ended
  simp only [workersDone, Bool.and_eq_true, decide_eq_true_eq] at workers
  obtain ⟨⟨checker, promoter⟩, reattacher⟩ := workers
  refine ⟨ended, checker, fun kind => ?_⟩
  cases kind with
  | promotion => exact promoter
  | reattachment => exact reattacher

theorem Sound.isLive_of_over (sound : task.Sound) (past : task.isOver = true) (party : Party) :
    task.isLive party = false := by
  obtain ⟨supervisor, checker, attempter⟩ := sound.done_of_over past
  cases party with
  | checker => simp [isLive, checker]
  | promoter => simp [isLive, show task.promoter = .done from attempter .promotion]
  | reattacher => simp [isLive, show task.reattacher = .done from attempter .reattachment]
  | supervisor => simp [isLive, supervisor]

/-- A task has no live loop exactly if it is over. -/
theorem Sound.liveLoops_eq_zero_iff (sound : task.Sound) :
    task.liveLoops = 0 ↔ task.isOver = true := by
  rw [liveLoops, List.countP_eq_zero]
  constructor
  · intro none_live
    simpa [isLive, isOver] using none_live .supervisor (mem_parties _)
  · intro past party _
    simp [sound.isLive_of_over past party]

theorem Parting.liveLoops {effects : List Effect} (parting : Parting task next effects) :
    next.liveLoops + (ended effects).length = task.liveLoops := by
  cases parting with
  | none none_ended live =>
    simp only [Task.liveLoops, live, none_ended, List.length_nil, Nat.add_zero]
  | one party was one_ended live =>
    rw [Task.liveLoops, Task.liveLoops, live, one_ended]
    cases party <;> simp [parties, List.countP_cons, Function.update, was] <;> omega

/-- A loop that is live has been live before, and has not been seen to end. -/
theorem Parting.isLive_iff {effects : List Effect} (parting : Parting task next effects)
    (party : Party) :
    next.isLive party = true ↔ task.isLive party = true ∧ .loopEnded party ∉ effects := by
  rw [← mem_ended]
  cases parting with
  | none none_ended live => simp [live, none_ended]
  | one other was one_ended live =>
    rw [live, Function.update_apply, one_ended]
    split
    · next same => simp [same]
    · next different => simp [different]

/-! ## Loops that end before their time -/

/-- The loops of a task that is no longer running have been told to end. -/
theorem Sound.stop_of_past (sound : task.Sound) (past : task.phase ≠ .running) :
    task.stop = true := by
  have course : task.course.Consistent := sound.course
  unfold Course.Consistent at course
  split at course
  · exact absurd course.1 past
  · exact absurd course.1 past
  · exact absurd course.1 past
  · exact course.2.1
  · exact course.2
  · exact course.2
  · exact course.2

theorem restChecker_ended (left : .loopEnded party ∈ (task.restChecker around).2) :
    party = .checker ∧ task.setup.config.promotabilityInterval? around.load = none := by
  unfold restChecker at left
  split at left
  · cases left
  · next no_interval => exact ⟨by simpa [leaveChecker] using left, no_interval⟩

/-- A loop that ends although nobody has told it to breaks off an attempt, or finds no pause between
two checks. -/
theorem Move.ended_inv (sound : task.Sound) (move : Move around task event turn)
    (left : .loopEnded party ∈ turn.2) (going : task.stop = false) :
    (∃ kind, party = kind.party ∧ .brokeOff kind ∈ turn.2) ∨
      party = .checker ∧ task.setup.config.promotabilityInterval? around.load = none := by
  have told : task.stop ≠ true := by simp [going]
  cases move with
  | @began kind =>
    obtain ⟨stage, role, request, begun⟩ := begin_shape task kind
    simp [begun] at left
  | answered stands answered =>
    cases answered.progress with
    | called | reported | unreported => simp at left
    | brokeOff => exact .inl ⟨_, by simpa using left, .head _⟩
  | haltedAsleep _ stopped | checkerHalted _ stopped => exact absurd stopped told
  | retired _ _ past | checkerRetired _ _ past => exact absurd (sound.stop_of_past past) told
  | @judged tail promotable =>
    obtain ⟨⟨⟩⟩ | left := List.mem_cons.mp left
    obtain ⟨rfl, no_interval⟩ := restChecker_ended left
    have same := (kin_noteVerdict task tail promotable).setup
    have unlocked : (task.noteVerdict tail promotable).unlock.setup = task.setup := same
    exact .inr ⟨rfl, unlocked ▸ no_interval⟩
  | checkFailed => exact .inr (restChecker_ended left)
  | joined stands => exact absurd (sound.course.ended (.inl stands)).2 told
  | _ => simp [register, confirm] at left

/-- In a task whose loops have not been told to end, a loop has ended only so. -/
theorem Run.live {start final : Task} {entries : List Entry} (run : Run start entries final)
    (sound : start.Sound) (begun : ∀ party, start.isLive party = true) (going : final.stop = false)
    (gone : final.isLive party = false) :
    (∃ kind, party = kind.party ∧ .brokeOff kind ∈ seen entries) ∨
      ∃ entry ∈ entries, .loopEnded party ∈ entry.effects ∧
        entry.before.setup.config.promotabilityInterval? entry.around.load = none := by
  induction run with
  | refl => exact nomatch (begun party).symm.trans gone
  | @step entries task around event next effects prior move inductionHypothesis =>
    have went : task.stop = false := by
      cases stopped : task.stop with
      | false => rfl
      | true => exact nomatch (move.course.stop stopped).symm.trans going
    cases lived : task.isLive party with
    | false =>
      obtain ⟨kind, own, broke⟩ | ⟨entry, member, no_interval⟩ := inductionHypothesis went lived
      · exact .inl ⟨kind, own, by simp [broke]⟩
      · exact .inr ⟨entry, List.mem_append_left _ member, no_interval⟩
    | true =>
      have left : .loopEnded party ∈ effects := by
        by_contra stays
        exact nomatch gone.symm.trans ((move.parting.isLive_iff party).mpr ⟨lived, stays⟩)
      obtain ⟨kind, own, broke⟩ | ⟨-, no_interval⟩ :=
        move.ended_inv (prior.sound sound) left went
      · exact .inl ⟨kind, own, by simp [show .brokeOff kind ∈ effects from broke]⟩
      · exact .inr ⟨_, List.mem_append_right _ (List.mem_singleton_self _), left, no_interval⟩

/-- A loop is live until it is seen to end. -/
theorem Run.isLive_iff {start final : Task} {entries : List Entry} (run : Run start entries final)
    (begun : ∀ party, start.isLive party = true) (party : Party) :
    final.isLive party = true ↔ .loopEnded party ∉ seen entries := by
  induction run with
  | refl => simp [begun party]
  | step prior move inductionHypothesis =>
    rw [move.parting.isLive_iff party, inductionHypothesis, seen_append, seen_single,
      List.mem_append, not_or]

/-! ## The load -/

theorem isChecking_congr (checker : next.checker = task.checker) :
    next.isChecking = task.isChecking := by
  rw [isChecking, isChecking, checker]

/-- A turn in which the load changes by what the checking loop contributes to it. -/
def Weighs (task next : Task) (effects : List Effect) : Prop :=
  ∀ load, task.isChecking.toNat ≤ load →
    onLoad effects load + task.isChecking.toNat = load + next.isChecking.toNat

theorem Weighs.of_eq {effects : List Effect} (silent : ∀ load, onLoad effects load = load)
    (same : next.isChecking = task.isChecking) : Weighs task next effects :=
  fun load _ => by rw [silent, same]

theorem weighs_leaveChecker (works : task.isChecking = true) :
    Weighs task task.leaveChecker.1 task.leaveChecker.2 := by
  intro load counted
  have left : task.leaveChecker.1.isChecking = false := by simp [leaveChecker, isChecking]
  rw [works] at counted ⊢
  rw [left]
  exact Nat.sub_add_cancel counted

theorem weighs_restChecker (around : Surroundings) (works : task.isChecking = true) :
    Weighs task (task.restChecker around).1 (task.restChecker around).2 := by
  unfold restChecker
  split
  · exact .of_eq (fun _ => rfl) works.symm
  · exact weighs_leaveChecker works

/-- A checking loop counts from its beginning to its end. -/
theorem Move.weighs (move : Move around task event turn) : Weighs task turn.1 turn.2 := by
  cases move with
  | checkerEntered stands =>
    intro load _
    simp [isChecking, stands, onLoad, Effect.onLoad]
  | checkerWoke stands | asked stands | checkAnswered stands =>
    exact .of_eq (fun _ => rfl) (by simp [isChecking, stands])
  | checkerHalted stands => exact weighs_leaveChecker (by simp [isChecking, stands])
  | checkerRetired stands =>
    exact @weighs_leaveChecker task.unlock (by simp [isChecking, frame_unlock, stands])
  | @judged tail promotable stands =>
    have kin := kin_noteVerdict task tail promotable
    have works : (task.noteVerdict tail promotable).unlock.isChecking = true := by
      simp [isChecking, frame_unlock, kin.checker, stands]
    have same : task.isChecking = true := by simp [isChecking, stands]
    intro load counted
    have rests := weighs_restChecker around works load
    rw [works] at rests
    rw [same] at counted ⊢
    exact rests counted
  | checkFailed stands => exact weighs_restChecker around (by simp [isChecking, stands])
  | @began kind =>
    obtain ⟨stage, role, request, begun⟩ := begin_shape task kind
    rw [begun]
    exact .of_eq (fun _ => rfl) (isChecking_congr (by simp))
  | answered stands answered =>
    cases answered.progress with
    | called kin | reported kin | unreported kin | brokeOff kin =>
      exact .of_eq (fun _ => rfl) (isChecking_congr (by simp [kin.checker]))
  | entered | woke | recovered | haltedAsleep | retired | deferred =>
    exact .of_eq (fun _ => rfl) (isChecking_congr (by simp [sleep]))
  | sent | timedOut | haltedSending | refused =>
    exact .of_eq (fun _ => rfl) (isChecking_congr (by simp))
  | registered | signalled | dropSeen | confirmSeen | cancelSeen | confirmed | cancelled | announced
  | announceTimedOut | announceCancelled | announceRefused | joined | cancelRequested | received
  | streamDropped => exact .of_eq (fun _ => rfl) rfl

/-! ## Tasks that are over -/

/-- Of a task that is over nothing is seen but that its consumer takes an update. -/
theorem Move.delivered_of_over (sound : task.Sound) (past : task.isOver = true)
    (move : Move around task event turn) :
    ∀ effect ∈ turn.2, ∃ update, effect = .delivered update := by
  obtain ⟨supervisor, checker, attempter⟩ := sound.done_of_over past
  cases move with
  | cancelRequested | streamDropped => exact fun _ member => nomatch member
  | @received update => exact fun effect member => ⟨update, List.mem_singleton.mp member⟩
  | entered stands | woke stands | recovered stands | haltedAsleep stands | retired stands
  | began stands | deferred stands | answered stands | sent stands | timedOut stands
  | haltedSending stands | refused stands => exact nomatch (attempter _).symm.trans stands
  | checkerEntered stands | checkerWoke stands | checkerHalted stands | checkerRetired stands
  | asked stands | judged stands | checkFailed stands | checkAnswered stands =>
    exact nomatch checker.symm.trans stands
  | registered stands | signalled stands | dropSeen stands | confirmSeen stands | cancelSeen stands
  | confirmed stands | cancelled stands | announced stands | announceTimedOut stands
  | announceCancelled stands | announceRefused stands | joined stands =>
    exact nomatch supervisor.symm.trans stands

theorem Run.delivered_of_over {start final : Task} {entries : List Entry}
    (run : Run start entries final) (sound : start.Sound) (past : start.isOver = true) :
    final.isOver = true ∧ ∀ effect ∈ seen entries, ∃ update, effect = .delivered update := by
  induction run with
  | refl => exact ⟨past, fun _ member => nomatch member⟩
  | step prior move inductionHypothesis =>
    obtain ⟨ended, before⟩ := inductionHypothesis
    refine ⟨move.isOver ended, fun effect member => ?_⟩
    rw [seen_append, seen_single] at member
    obtain earlier | now := List.mem_append.mp member
    · exact before effect earlier
    · exact move.delivered_of_over (prior.sound sound) ended effect now

end Task

end Inclusion
