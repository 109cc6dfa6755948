import Mathlib.Data.List.DropRight
import Mathlib.Data.List.Infix
import Inclusion.Proofs.Task.History
import Inclusion.Proofs.Task.Knowledge
import Inclusion.Proofs.Task.Record

/-!
# What a task makes of the nodes' word on its tail

A check of the tail goes on without the lock, so the tail may have been replaced when the answer is
noted. `Heeds` says that the flag of a task nevertheless follows the last word on the present tail,
and is clear as long as there is none, because a reattachment clears it and a promotion is only made
while it is clear. There is one exception: a reattachment that breaks off replaces the tail without
clearing the flag.

What is noted is what a node has answered. `Recalls` says so of the checking loop.
-/

namespace Inclusion

/-- A phrase is found exactly where it stands. -/
theorem Consistency.mentions_iff {phrase text : List Char} :
    mentions phrase text = true ↔ phrase <:+: text := by
  induction text with
  | nil => simp [mentions]
  | cons character rest inductionHypothesis =>
    rw [mentions, Bool.or_eq_true, List.isPrefixOf_iff_prefix, inductionHypothesis,
      List.infix_cons_iff]

/-- A tail can be promoted if it is consistent, or if the node says that it is not solid, in letters
of either case. -/
theorem Consistency.isPromotable_iff {consistency : Consistency} :
    consistency.isPromotable = true ↔ consistency.consistent = true ∨
      notSolid <:+: consistency.info.toList.map Char.toLower := by
  rw [isPromotable, Bool.or_eq_true, mentions_iff]

namespace Task

variable {around : Surroundings} {task : Task} {event : Event} {turn : Turn} {kind : AttemptKind}
  {effects : List Effect} {chain : Bool} {tail : Hash}

/-- Whether an effect is the success of an attempt that replaces the tail, promotions being chained
or not. -/
def Effect.replacesTail (chain : Bool) : Effect → Bool
  | ended kind none | brokeOff kind => kind.replacesTail chain
  | _ => false

/-- What a node has said about a given tail, if an effect is a note of it. -/
def Effect.opinion? (tail : Hash) : Effect → Option Bool
  | judged other promotable => if other = tail then some promotable else none
  | _ => none

/-- What was seen since the tail was last replaced. -/
def sinceReplaced (chain : Bool) (effects : List Effect) : List Effect :=
  effects.rtakeWhile fun effect => !effect.replacesTail chain

/-- The last success by which the tail was replaced. -/
def lastReplacement (chain : Bool) (effects : List Effect) : Option Effect :=
  (effects.filter (·.replacesTail chain)).getLast?

/-- The opinions on a tail that were noted since the tail was last replaced, in order. -/
def opinions (chain : Bool) (tail : Hash) (effects : List Effect) : List Bool :=
  (sinceReplaced chain effects).filterMap (Effect.opinion? tail)

/-- A task whose flag follows the last opinion on its tail. -/
structure Heeds (task : Task) (effects : List Effect) : Prop where
  last : ∀ promotable, (opinions task.setup.config.promoteChain task.currentTail effects).getLast? =
    some promotable → task.notPromotable = !promotable
  /-- Without an opinion the flag is clear, unless a reattachment has broken off. -/
  clear : opinions task.setup.config.promoteChain task.currentTail effects = [] →
    task.notPromotable = true →
      lastReplacement task.setup.config.promoteChain effects = some (.brokeOff .reattachment)
  promoting : task.isAttempting .promotion = true → task.notPromotable = false

/-- A new task has heard no opinion. -/
theorem heeds_start (setup : Setup) (tail : Transaction) (trytes : List String)
    (now forced : Nat) : (start setup tail trytes now forced).Heeds [] where
  last := nofun
  clear := nofun
  promoting := fun _ => rfl

/-- If the tail was not last replaced by a reattachment that broke off, or was spoken about since,
the flag is set exactly if the last opinion on it was a bad one. -/
theorem Heeds.notPromotable_iff (heeds : task.Heeds effects)
    (unbroken : opinions task.setup.config.promoteChain task.currentTail effects = [] →
      lastReplacement task.setup.config.promoteChain effects ≠ some (.brokeOff .reattachment)) :
    task.notPromotable = true ↔
      (opinions task.setup.config.promoteChain task.currentTail effects).getLast? =
        some false := by
  constructor
  · intro flagged
    cases latest : (opinions task.setup.config.promoteChain task.currentTail effects).getLast? with
    | none =>
      have silent := List.getLast?_eq_none_iff.mp latest
      exact absurd (heeds.clear silent flagged) (unbroken silent)
    | some promotable =>
      have said := heeds.last promotable latest
      rw [flagged, eq_comm, Bool.not_eq_true'] at said
      rw [said]
  · exact heeds.last false

/-! ## Effects -/

theorem opinions_concat (effects : List Effect) (effect : Effect) :
    opinions chain tail (effects ++ [effect]) =
      if effect.replacesTail chain = true then []
      else opinions chain tail effects ++ (effect.opinion? tail).toList := by
  by_cases replaces : effect.replacesTail chain = true
  · simp [opinions, sinceReplaced, replaces]
  · cases said : effect.opinion? tail <;> simp [opinions, sinceReplaced, replaces, said]

theorem lastReplacement_concat (effects : List Effect) (effect : Effect) :
    lastReplacement chain (effects ++ [effect]) =
      if effect.replacesTail chain = true then some effect else lastReplacement chain effects := by
  by_cases replaces : effect.replacesTail chain = true
  · simp [lastReplacement, List.filter_append, replaces]
  · simp [lastReplacement, List.filter_append, replaces]

/-- Effects that neither replace the tail nor are a note change nothing. -/
theorem opinions_append_quiet {added : List Effect}
    (kept : ∀ effect ∈ added, effect.replacesTail chain = false)
    (unjudged : ∀ tail promotable, .judged tail promotable ∉ added) :
    opinions chain tail (effects ++ added) = opinions chain tail effects ∧
      lastReplacement chain (effects ++ added) = lastReplacement chain effects := by
  induction added generalizing effects with
  | nil => simp
  | cons effect rest inductionHypothesis =>
    have unsaid : effect.opinion? tail = none := by
      cases effect with
      | judged other promotable => exact absurd List.mem_cons_self (unjudged other promotable)
      | _ => rfl
    obtain ⟨same, last⟩ := @inductionHypothesis (effects ++ [effect])
      (fun other member => kept other (List.mem_cons_of_mem _ member))
      (fun other promotable member => unjudged other promotable (List.mem_cons_of_mem _ member))
    have keeps := kept effect List.mem_cons_self
    rw [List.append_cons, same, last, opinions_concat, lastReplacement_concat, unsaid]
    simp [keeps]

/-! ## Steps -/

/-- The end of an attempt is seen first, and nothing after it replaces the tail. -/
theorem finish_effects (task : Task) (now : Nat) (kind : AttemptKind)
    (error : Option ConfirmerError) : ∃ rest, (task.finish now kind error).2 =
      .ended kind error :: rest ∧ ∀ effect ∈ rest, ∀ chain, effect.replacesTail chain = false := by
  by_cases reporting : task.phase = .running ∧ task.stop = false
  · simp [finish, reporting, Effect.replacesTail]
  · simp [finish, reporting]

/-- A success that does not replace the tail leaves what is known about the bundle. -/
theorem knowledge_credit (task : Task) (now : Nat) (attached : List String)
    (transaction : Transaction) (next : Nat)
    (keeps : kind.replacesTail task.setup.config.promoteChain = false) :
    (task.credit kind attached transaction).knowledge = task.knowledge ∧
      ((task.credit kind attached transaction).schedule now kind next).knowledge =
        task.knowledge := by
  cases kind with
  | promotion =>
    have unchained : task.setup.config.promoteChain = false := keeps
    simp [credit, schedule, knowledge, unchained]
  | reattachment => cases keeps

/-- Only a successful attempt replaces the tail, when its last call has returned. The flag is clear
after a reattachment unless it breaks off, and is otherwise as it was. -/
theorem Answered.replaces {now : Nat} {stage : Stage} {verdict : Verdict}
    (answered : Answered task now kind stage verdict turn) :
    (turn.1.knowledge = task.knowledge ∧
        ∀ effect ∈ turn.2, effect.replacesTail task.setup.config.promoteChain = false) ∨
      kind.replacesTail task.setup.config.promoteChain = true ∧ ∃ first rest,
        turn.2 = first :: rest ∧ (∀ effect ∈ rest, ∀ chain, effect.replacesTail chain = false) ∧
        (first = .ended kind none ∧
            turn.1.notPromotable = (decide (kind = .promotion) && task.notPromotable) ∨
          first = .brokeOff kind ∧ turn.1.notPromotable = task.notPromotable) := by
  have fails : ∀ (other : Task) error, other.knowledge = task.knowledge →
      (other.finish now kind (some error)).1.knowledge = task.knowledge ∧
        ∀ effect ∈ (other.finish now kind (some error)).2,
          effect.replacesTail task.setup.config.promoteChain = false := by
    intro other error same
    obtain ⟨rest, shown, keep⟩ := other.finish_effects now kind (some error)
    refine ⟨(knowledge_finish ..).trans same, ?_⟩
    rw [shown, List.forall_mem_cons]
    exact ⟨rfl, fun effect member => keep effect member _⟩
  cases answered with
  | failed => exact .inl (fails task _ rfl)
  | malformed | foreign => exact .inl (fails _ _ rfl)
  | prepared | selected | attached =>
    exact .inl ⟨knowledge_place .., by simp [Effect.replacesTail]⟩
  | @succeeded attached transaction endpoint elapsed next exists_next =>
    obtain ⟨rest, shown, keep⟩ :=
      ((task.credit kind attached transaction).schedule now kind next).finish_effects now kind none
    have known := knowledge_finish ((task.credit kind attached transaction).schedule now kind next)
      now kind none
    cases replaces : kind.replacesTail task.setup.config.promoteChain with
    | false =>
      refine .inl ⟨known.trans (task.knowledge_credit now attached transaction next replaces).2, ?_⟩
      rw [shown, List.forall_mem_cons]
      exact ⟨replaces, fun effect member => keep effect member _⟩
    | true =>
      refine .inr ⟨rfl, _, rest, shown, keep, .inl ⟨rfl, ?_⟩⟩
      refine (congrArg (·.2.2) known).trans ?_
      cases kind <;> simp [knowledge, credit, schedule]
  | @brokeOff attached transaction =>
    have known := knowledge_place (task.credit kind attached transaction).unlock kind .done
    cases replaces : kind.replacesTail task.setup.config.promoteChain with
    | false =>
      refine .inl ⟨known.trans (task.knowledge_credit now attached transaction 0 replaces).1, ?_⟩
      rw [List.forall_mem_cons]
      exact ⟨replaces, by simp [Effect.replacesTail]⟩
    | true =>
      refine .inr ⟨rfl, _, _, rfl, by simp [Effect.replacesTail], .inr ⟨rfl, ?_⟩⟩
      refine (congrArg (·.2.2) known).trans ?_
      cases kind <;> rfl

/-- A step at which the tail is not replaced and no opinion is noted. -/
theorem Heeds.quiet (heeds : task.Heeds effects) (move : Move around task event turn)
    (same : turn.1.knowledge = task.knowledge)
    (kept : ∀ effect ∈ turn.2, effect.replacesTail task.setup.config.promoteChain = false)
    (unjudged : ∀ tail promotable, .judged tail promotable ∉ turn.2) :
    turn.1.Heeds (effects ++ turn.2) := by
  obtain ⟨opinions, last⟩ := @opinions_append_quiet effects _ task.currentTail turn.2 kept unjudged
  have tail : turn.1.currentTail = task.currentTail := congrArg Prod.fst same
  have flag : turn.1.notPromotable = task.notPromotable := congrArg (·.2.2) same
  constructor
  · rw [move.setup, tail, opinions, flag]
    exact heeds.last
  · rw [move.setup, tail, opinions, flag, last]
    exact heeds.clear
  · intro attempts
    rw [flag]
    obtain before | began := move.isAttempting attempts
    · exact heeds.promoting before
    · have due := (move.began_inv began).2.2.2.2.1
      simp only [isDue, Bool.and_eq_true, Bool.not_eq_true'] at due
      exact due.1

/-- A note keeps the tail, and sets the flag if it is about that tail. -/
theorem Move.judged_flag (move : Move around task event turn) {about : Hash} {promotable : Bool}
    (judged : .judged about promotable ∈ turn.2) : turn.1.currentTail = task.currentTail ∧
      turn.1.notPromotable =
        if task.currentTail = about then !promotable else task.notPromotable := by
  obtain ⟨-, -, -, known, -⟩ := move.judged_inv judged
  obtain ⟨sameTail, -⟩ := noteVerdict_bundle task about promotable
  have flag : turn.1.notPromotable = (task.noteVerdict about promotable).notPromotable :=
    congrArg (·.2.2) known
  refine ⟨(congrArg Prod.fst known).trans sameTail, ?_⟩
  rw [flag, noteVerdict]
  split <;> rfl

/-- A note is the last opinion on the tail that it is about. -/
theorem Move.noted (move : Move around task event turn) {about : Hash} {promotable : Bool}
    (judged : .judged about promotable ∈ turn.2) (effects : List Effect) (chain : Bool)
    (tail : Hash) :
    opinions chain tail (effects ++ turn.2) = opinions chain tail effects ++
        (if about = tail then [promotable] else []) ∧
      lastReplacement chain (effects ++ turn.2) = lastReplacement chain effects := by
  obtain ⟨-, -, -, -, shown⟩ := move.judged_inv judged
  obtain ⟨rest, split, quiet⟩ : ∃ rest, turn.2 = .judged about promotable :: rest ∧
      (rest = [] ∨ rest = [.leaveLoad, .loopEnded .checker]) := by
    rcases shown with alone | ending
    · exact ⟨[], alone, .inl rfl⟩
    · exact ⟨_, ending, .inr rfl⟩
  obtain ⟨opinions, last⟩ := @opinions_append_quiet (effects ++ [.judged about promotable]) chain
    tail rest (by rcases quiet with rfl | rfl <;> simp [Effect.replacesTail])
    (by rcases quiet with rfl | rfl <;> simp)
  rw [split, List.append_cons, opinions, last, opinions_concat, lastReplacement_concat]
  by_cases same : about = tail <;> simp [Effect.replacesTail, Effect.opinion?, same]

/-- While the checking loop has the lock no attempt is under way. -/
theorem Sound.rests_of_checker (sound : task.Sound) (held : task.lock.holder = some .checker)
    (kind : AttemptKind) : task.isAttempting kind = false := by
  refine isAttempting_eq_false.mpr fun stage stands => ?_
  exact kind.party_ne_checker
    (Option.some.inj ((sound.holder_of_attempting stands).symm.trans held))

/-- An opinion on the present tail sets the flag, and one on another tail does not. -/
theorem Heeds.judged (heeds : task.Heeds effects) (sound : task.Sound)
    (move : Move around task event turn) {about : Hash} {promotable : Bool}
    (judged : .judged about promotable ∈ turn.2) : turn.1.Heeds (effects ++ turn.2) := by
  obtain ⟨-, -, held, -, shown⟩ := move.judged_inv judged
  obtain ⟨tail, flag⟩ := move.judged_flag judged
  obtain ⟨noted, replacement⟩ :=
    move.noted judged effects task.setup.config.promoteChain task.currentTail
  constructor
  · intro last latest
    rw [move.setup, tail, noted] at latest
    rw [flag]
    by_cases same : about = task.currentTail
    · obtain rfl : promotable = last := by simpa [same] using latest
      rw [if_pos same.symm]
    · rw [if_neg (Ne.symm same)]
      exact heeds.last last (by simpa [same] using latest)
  · intro silent
    rw [move.setup, tail, noted] at silent
    rw [move.setup, replacement, flag]
    by_cases same : about = task.currentTail
    · simp [same] at silent
    · rw [if_neg (Ne.symm same)]
      exact heeds.clear (by simpa [same] using silent)
  · -- No promotion begins either: the checking loop gives the lock back only at this step.
    intro attempts
    obtain before | began := move.isAttempting attempts
    · simp [sound.rests_of_checker held] at before
    · rcases shown with shown | shown <;> simp [shown] at began

/-- After a replacement nobody has spoken about the new tail, and the flag is clear unless a
reattachment has broken off. -/
theorem Heeds.replaced (heeds : task.Heeds effects) (sound : task.Sound) {stage : Stage}
    {verdict : Verdict} (stands : task.attempter kind = .attempting stage)
    (answered : Answered task around.now kind stage verdict turn)
    (replaces : kind.replacesTail task.setup.config.promoteChain = true) {first : Effect}
    {rest : List Effect} (shown : turn.2 = first :: rest)
    (quiet : ∀ effect ∈ rest, ∀ chain, effect.replacesTail chain = false)
    (outcome : first = .ended kind none ∧
        turn.1.notPromotable = (decide (kind = .promotion) && task.notPromotable) ∨
      first = .brokeOff kind ∧ turn.1.notPromotable = task.notPromotable) :
    turn.1.Heeds (effects ++ turn.2) := by
  have move : Move around task (.answered kind.party verdict) turn := .answered stands answered
  have anew : first.replacesTail task.setup.config.promoteChain = true := by
    rcases outcome with ⟨rfl, -⟩ | ⟨rfl, -⟩ <;> exact replaces
  have promoting : kind = .promotion → task.notPromotable = false := by
    rintro rfl
    exact heeds.promoting (by simp [isAttempting, stands])
  have unjudged : ∀ tail promotable, .judged tail promotable ∉ rest := by
    intro tail promotable judged
    have held := (move.judged_inv (shown ▸ List.mem_cons_of_mem first judged)).2.2.1
    exact isAttempting_eq_false.mp (sound.rests_of_checker held kind) stage stands
  obtain ⟨opinions, last⟩ := @opinions_append_quiet (effects ++ [first]) _ turn.1.currentTail rest
    (fun effect member => quiet effect member task.setup.config.promoteChain) unjudged
  rw [← List.append_cons, ← shown, opinions_concat, if_pos anew] at opinions
  rw [← List.append_cons, ← shown, lastReplacement_concat, if_pos anew] at last
  have flag : kind = .promotion → turn.1.notPromotable = false := by
    intro promotes
    rcases outcome with ⟨-, flag⟩ | ⟨-, flag⟩ <;> simp [flag, promoting promotes]
  constructor
  · intro promotable latest
    rw [move.setup, opinions] at latest
    cases latest
  · rintro - flagged
    rw [move.setup, last]
    cases kind with
    | promotion => simp [flag rfl] at flagged
    | reattachment =>
      rcases outcome with ⟨-, clear⟩ | ⟨rfl, -⟩
      · simp [clear] at flagged
      · rfl
  · intro attempts
    obtain before | began := move.isAttempting attempts
    · obtain ⟨late, also⟩ := isAttempting_iff.mp before
      exact flag (sound.attempting_unique also stands)
    · obtain ⟨granted, -⟩ := move.began_inv began
      cases granted

/-- Whatever happens, the flag follows the last opinion on the present tail. -/
theorem Heeds.step (heeds : task.Heeds effects) (sound : task.Sound)
    (move : Move around task event turn) : turn.1.Heeds (effects ++ turn.2) := by
  -- Only a note is about a tail. The other steps differ in what they do to an attempt.
  by_cases unjudged : ∀ tail promotable, .judged tail promotable ∉ turn.2
  · obtain ⟨kind, rfl, stands, held, rfl⟩ | ⟨kind, stage, verdict, rfl, stands, answered⟩ |
      ⟨unseen, unanswered⟩ := move.attempts
    · obtain ⟨stage, role, request, begun⟩ := task.begin_shape kind
      refine heeds.quiet move ?_ ?_ unjudged
      · rw [begun]
        exact knowledge_place ..
      · simp [begun, Effect.replacesTail]
    · obtain ⟨same, kept⟩ | ⟨replaces, first, rest, shown, quiet, outcome⟩ := answered.replaces
      · exact heeds.quiet move same kept unjudged
      · exact heeds.replaced sound stands answered replaces shown quiet outcome
    · refine heeds.quiet move (move.knowledge_kept unanswered unjudged) ?_ unjudged
      intro effect member
      have silent := unseen effect member
      cases effect with
      | ended | brokeOff => cases silent
      | _ => rfl
  · push Not at unjudged
    obtain ⟨tail, promotable, judged⟩ := unjudged
    exact heeds.judged sound move judged

/-- Throughout a run the flag follows the last opinion on the present tail. -/
theorem Run.heeds {start final : Task} {entries : List Entry} (run : Run start entries final)
    (sound : start.Sound) (heeds : start.Heeds []) : final.Heeds (seen entries) := by
  induction run with
  | refl => exact heeds
  | @step entries task around event next effects prior move inductionHypothesis =>
    rw [seen_append, seen_single]
    exact inductionHypothesis.step (prior.sound sound) move

/-- The flag changes only when an opinion on the present tail is noted or a reattachment ends well,
and the tail only when an attempt succeeds that replaces it. -/
theorem Move.changes (move : Move around task event turn) :
    (turn.1.notPromotable ≠ task.notPromotable →
      (∃ promotable, .judged task.currentTail promotable ∈ turn.2 ∧
          turn.1.notPromotable = !promotable) ∨
        .ended .reattachment none ∈ turn.2 ∧ turn.1.notPromotable = false) ∧
      (turn.1.currentTail ≠ task.currentTail →
        ∃ effect ∈ turn.2, effect.replacesTail task.setup.config.promoteChain = true) := by
  have kept : turn.1.knowledge = task.knowledge → turn.1.notPromotable = task.notPromotable ∧
      turn.1.currentTail = task.currentTail :=
    fun same => ⟨congrArg (·.2.2) same, congrArg Prod.fst same⟩
  by_cases unjudged : ∀ tail promotable, .judged tail promotable ∉ turn.2
  · by_cases unanswered : ∀ (kind : AttemptKind) verdict, event ≠ .answered kind.party verdict
    · obtain ⟨flag, tail⟩ := kept (move.knowledge_kept unanswered unjudged)
      exact ⟨absurd flag, absurd tail⟩
    · obtain ⟨kind, rfl, -⟩ | ⟨kind, stage, verdict, rfl, stands, answered⟩ | ⟨-, silent⟩ :=
        move.attempts
      · exact absurd nofun unanswered
      · obtain ⟨same, -⟩ | ⟨replaces, first, rest, shown, quiet, outcome⟩ := answered.replaces
        · exact ⟨absurd (kept same).1, absurd (kept same).2⟩
        · rw [shown]
          rcases outcome with ⟨rfl, flag⟩ | ⟨rfl, flag⟩
          · refine ⟨fun changed => .inr ?_, fun _ => ⟨_, List.mem_cons_self, replaces⟩⟩
            cases kind with
            | promotion => exact absurd flag (by simpa using changed)
            | reattachment => exact ⟨List.mem_cons_self, flag⟩
          · exact ⟨absurd flag, fun _ => ⟨_, List.mem_cons_self, replaces⟩⟩
      · exact absurd silent unanswered
  · push Not at unjudged
    obtain ⟨about, promotable, judged⟩ := unjudged
    obtain ⟨tail, flag⟩ := move.judged_flag judged
    refine ⟨fun changed => .inl ?_, absurd tail⟩
    by_cases same : task.currentTail = about
    · exact ⟨promotable, same ▸ judged, by rw [flag, if_pos same]⟩
    · exact absurd (by rw [flag, if_neg same]) changed

/-! ## What is noted -/

/-- What the checking loop is told about a tail, if an act is that. -/
def Act.answer? : Act → Option (Hash × Consistency)
  | .hears .checker (.checkConsistency [tail]) (.answered ⟨.consistency consistency, _, _⟩) =>
    some (tail, consistency)
  | _ => none

/-- What the checking loop is told about tails, in order. A check that fails tells it nothing. -/
def answers (said : List Act) : List (Hash × Consistency) :=
  said.filterMap Act.answer?

/-- The tail and the opinion of a note, if an effect is one. -/
def Effect.note? : Effect → Option (Hash × Bool)
  | judged tail promotable => some (tail, promotable)
  | _ => none

/-- What is noted about tails, in order. -/
def notes (effects : List Effect) : List (Hash × Bool) :=
  effects.filterMap Effect.note?

/-- What the checking loop has been told and will note when it gets the lock. -/
def unnoted (task : Task) : List (Hash × Bool) :=
  match task.checker with
  | .reporting tail promotable => [(tail, promotable)]
  | _ => []

/-- The opinion that an answer is. -/
def opinion (answer : Hash × Consistency) : Hash × Bool :=
  (answer.1, answer.2.isPromotable)

/-- The checking loop remembers about which tail it has asked, and notes all that it is told. -/
structure Recalls (task : Task) (effects : List Effect) (said : List Act) : Prop where
  asking : ∀ tail, task.checker = .asking tail →
    openCall .checker said = some (.checkConsistency [tail])
  noted : notes effects ++ task.unnoted = (answers said).map opinion

/-- A new task has been told nothing. -/
theorem recalls_start (setup : Setup) (tail : Transaction) (trytes : List String)
    (now forced : Nat) : (start setup tail trytes now forced).Recalls [] [] where
  asking := nofun
  noted := rfl

@[simp] theorem answers_append (first second : List Act) :
    answers (first ++ second) = answers first ++ answers second :=
  List.filterMap_append

@[simp] theorem notes_append (first second : List Effect) :
    notes (first ++ second) = notes first ++ notes second :=
  List.filterMap_append

/-- A task that says something is told nothing by it. -/
@[simp] theorem answers_acts (effects : List Effect) : answers (acts effects) = [] := by
  rw [answers, acts, List.filterMap_filterMap, List.filterMap_eq_nil_iff]
  intro effect member
  cases effect <;> rfl

theorem notes_eq_nil {effects : List Effect}
    (unjudged : ∀ tail promotable, .judged tail promotable ∉ effects) : notes effects = [] := by
  refine List.filterMap_eq_nil_iff.mpr fun effect member => ?_
  cases effect with
  | judged tail promotable => exact absurd member (unjudged tail promotable)
  | _ => rfl

/-- At rest the checking loop has nothing to note. -/
theorem unnoted_restChecker (task : Task) (around : Surroundings) :
    (task.restChecker around).1.unnoted = [] ∧ notes (task.restChecker around).2 = [] := by
  constructor
  · obtain ⟨wake, sleeps⟩ | ended := restChecker_position task around
    · rw [unnoted, sleeps]
    · rw [unnoted, ended]
  · rcases restChecker_effects task around with silent | ended
    · rw [silent]
      rfl
    · rw [ended]
      rfl

/-- What the checking loop is told is noted, or waits to be noted. -/
theorem Move.notes_kept (move : Move around task event turn) {said : List Act}
    (asking : ∀ tail, task.checker = .asking tail →
      openCall .checker said = some (.checkConsistency [tail])) :
    notes turn.2 ++ turn.1.unnoted =
      task.unnoted ++ (answers (event.heard said)).map opinion := by
  by_cases own : event.party? = some .checker
  · cases move with
    | checkerEntered stands | checkerWoke stands | checkerHalted stands | checkerRetired stands
    | asked stands =>
      rw [unnoted, unnoted, stands]
      rfl
    | @judged tail promotable stands held =>
      obtain ⟨nothing, silent⟩ :=
        unnoted_restChecker (task.noteVerdict tail promotable).unlock around
      rw [nothing, unnoted, stands, notes, List.filterMap_cons]
      exact congrArg (· ++ []) (congrArg ((tail, promotable) :: ·) silent)
    | @checkFailed tail cause stands =>
      obtain ⟨nothing, silent⟩ := unnoted_restChecker task around
      rw [nothing, silent, unnoted, stands, Event.heard, asking tail stands]
      rfl
    | @checkAnswered tail consistency endpoint elapsed stands =>
      rw [unnoted, unnoted, stands, Event.heard, asking tail stands]
      rfl
    | entered | woke | recovered | haltedAsleep | retired | began | deferred | answered | sent
    | timedOut | haltedSending | refused =>
      exact absurd (Option.some.inj own) (AttemptKind.party_ne_checker _)
    | _ => cases own
  · have unjudged : ∀ tail promotable, .judged tail promotable ∉ turn.2 :=
      fun tail promotable judged => own (congrArg Event.party? (move.judged_inv judged).1)
    have untold : answers (event.heard said) = [] := by
      refine List.filterMap_eq_nil_iff.mpr fun act heard => ?_
      cases event with
      | answered party verdict =>
        obtain ⟨request, -, rfl⟩ := List.mem_map.mp heard
        cases party with
        | checker => exact absurd rfl own
        | _ => rfl
      | _ => cases heard
    rw [notes_eq_nil unjudged, untold, unnoted, move.checker_kept own, unnoted]
    simp

theorem Recalls.step {said : List Act} (recalls : task.Recalls effects said)
    (move : Move around task event turn) : turn.1.Recalls (effects ++ turn.2)
      (said ++ Entry.acts said ⟨task, around, event, turn.2⟩) := by
  constructor
  · intro tail asks
    by_cases own : event.party? = some .checker
    · cases move with
      | asked =>
        obtain rfl := Checker.asking.inj asks
        rw [openCall_concat]
        rfl
      | judged | checkFailed =>
        obtain ⟨wake, sleeps⟩ | ended := restChecker_position _ around
        · exact nomatch asks.symm.trans sleeps
        · exact nomatch asks.symm.trans ended
      | checkerEntered | checkerWoke | checkerHalted | checkerRetired | checkAnswered => cases asks
      | entered | woke | recovered | haltedAsleep | retired | began | deferred | answered | sent
      | timedOut | haltedSending | refused =>
        exact absurd (Option.some.inj own) (AttemptKind.party_ne_checker _)
      | _ => cases own
    · rw [openCall_concat, (move.others own).1, if_neg fun both => own both.2]
      exact recalls.asking tail (move.checker_kept own ▸ asks)
  · rw [notes_append, List.append_assoc, move.notes_kept recalls.asking, ← List.append_assoc,
      recalls.noted, Entry.acts, answers_append, answers_append, answers_acts, List.append_nil,
      List.map_append]

/-- Throughout a run the checking loop notes all that it is told. -/
theorem Run.recalls {start final : Task} {entries : List Entry} (run : Run start entries final)
    (recalls : start.Recalls [] []) : final.Recalls (seen entries) (dialogue entries) := by
  induction run with
  | refl => exact recalls
  | @step entries task around event next effects prior move inductionHypothesis =>
    rw [seen_append, seen_single, dialogue_concat]
    exact inductionHypothesis.step move

end Task

end Inclusion
