import Inclusion.Proofs.Monitor.Permits
import Inclusion.Proofs.Monitor.Pollers

/-!
# The end of a poller

When the call of a poller returns and nobody waits for its hash any longer, the poller asks nothing
more. It has only to look around, by which it retires, and to end; a monitor is not settled before
that is done. Afterwards its hash has no poller and no record.
-/

namespace Inclusion.Monitor

variable {Watcher : Type} {monitor : Monitor Watcher} {now id : Nat} {bundle : Hash}
  {poller after : Poller} {event : Event Watcher} {turn : Turn Watcher}

/-- The last poller of a hash that is unwatched asks nothing, or is gone. -/
structure Parting (monitor : Monitor Watcher) (bundle : Hash) (id : Nat) : Prop where
  used : id < monitor.nextId
  silent : monitor.asking id = none
  own : ∀ poller, monitor.poller? id = some poller → poller.bundle = bundle
  alone : ∀ other poller, monitor.poller? other = some poller → poller.isLive = true →
    poller.bundle = bundle → other = id

/-- A poller decides to ask the nodes about its hash only if that is watched. -/
theorem Move.watched_of_query (move : Move now monitor event turn) {hashes : List Hash}
    (asks : .findTransactions hashes ∈ queries id turn.2) :
    ∃ poller, monitor.poller? id = some poller ∧ poller.position = .looking ∧
      hashes = [poller.bundle] ∧ monitor.isWatching poller.bundle = true := by
  obtain ⟨poller, found, -, -, -, ⟨rfl, stands, same⟩ | ⟨_, _, _, -, -, -, ⟨⟩⟩⟩ :=
    move.queries_inv asks
  refine ⟨poller, found, stands, Request.findTransactions.inj same, ?_⟩
  generalize same_event : Event.pollerLooked id = event at move
  cases move with
  | @asked other again _ watched =>
    obtain rfl := Event.pollerLooked.inj same_event
    obtain rfl := Option.some.inj (found.symm.trans again)
    exact watched
  | retired => simp [queries] at asks
  | _ => cases same_event

theorem Parting.step (parting : Parting monitor bundle id) (move : Move now monitor event turn)
    (unwatched : monitor.isWatching bundle = false) (after : turn.1.isWatching bundle = false) :
    Parting turn.1 bundle id ∧ queries id turn.2 = [] := by
  have silent : queries id turn.2 = [] := by
    refine List.eq_nil_iff_forall_not_mem.mpr fun request asks => ?_
    obtain ⟨poller, found, -, -, -, ⟨-, -, rfl⟩ | ⟨_, _, _, -, stands, -⟩⟩ := move.queries_inv asks
    · obtain ⟨other, again, -, -, watched⟩ := move.watched_of_query asks
      rw [parting.own other again, unwatched] at watched
      cases watched
    · have asking := parting.silent
      simp [found, Poller.inquiry?, stands, Monitor.asking] at asking
  refine ⟨⟨?_, ?_, ?_, ?_⟩, silent⟩
  · obtain ⟨-, same⟩ | ⟨-, -, -, -, same⟩ := move.numbers
    · exact same ▸ parting.used
    · exact same ▸ Nat.lt_succ_of_lt parting.used
  · rw [move.asking_kept silent, parting.silent, ite_self]
  · intro poller there
    obtain ⟨rfl, -⟩ | ⟨before, found, becomes⟩ := move.becomes there
    · exact absurd parting.used (Nat.lt_irrefl _)
    · exact becomes.bundle.trans (parting.own before found)
  · intro other poller there alive same
    obtain ⟨-, watcher, rfl⟩ | ⟨before, found, becomes⟩ := move.becomes there
    · cases move
      simp [isWatching_register, same] at after
    · exact parting.alone other before found (becomes.isLive alive) (becomes.bundle ▸ same)

/-- As long as its hash stays unwatched such a poller asks nothing. -/
theorem Run.parting {start final : Monitor Watcher} {entries : List (Entry Watcher)}
    (run : Run start entries final) (parting : Parting start bundle id)
    (unwatched : ∀ entry ∈ entries, entry.before.isWatching bundle = false)
    (last : final.isWatching bundle = false) :
    Parting final bundle id ∧ queries id (seen entries) = [] := by
  induction run with
  | refl => exact ⟨parting, rfl⟩
  | @step entries monitor now event next effects prior move inductionHypothesis =>
    have here : monitor.isWatching bundle = false :=
      unwatched _ (List.mem_append_right _ (List.mem_singleton_self _))
    obtain ⟨before, silent⟩ := inductionHypothesis
      (fun entry member => unwatched entry (List.mem_append_left _ member)) here
    obtain ⟨after, quiet⟩ := before.step move here last
    refine ⟨after, ?_⟩
    rw [seen_append, queries_append, silent, seen_single, quiet]
    rfl

/-- Once it is gone its hash has no record. -/
theorem Parting.unrecorded (parting : Parting monitor bundle id) (sound : monitor.Sound)
    (gone : monitor.poller? id = none) : monitor.records.lookup bundle = none := by
  refine Option.eq_none_iff_forall_ne_some.mpr fun number recorded => ?_
  obtain ⟨poller, alive, same, rfl⟩ :=
    sound.mem_records.mp ((lookup_eq_some_iff_mem sound.single).mp recorded)
  obtain ⟨member, lives⟩ := mem_live.mp alive
  have found := sound.poller?_eq member
  have own := parting.alone _ poller found lives same
  rw [own, gone] at found
  cases found

/-- It is gone as soon as nothing more can be done. -/
theorem Parting.gone (parting : Parting monitor bundle id) (permitted : monitor.Permitted)
    (settled : monitor.nextEvent? now = none) (unwatched : monitor.isWatching bundle = false) :
    monitor.poller? id = none := by
  refine Option.eq_none_iff_forall_ne_some.mpr fun poller found => ?_
  have own := parting.own poller found
  have silent := parting.silent
  rw [asking, found, Option.bind_some] at silent
  obtain ⟨rfl, -⟩ := poller?_eq_some found
  obtain stands | ⟨hashes, stands⟩ := permitted.inquiring settled found (own ▸ unwatched)
  · simp [Poller.inquiry?, stands] at silent
  · simp [Poller.inquiry?, stands] at silent

/-! ## The last call -/

theorem poller?_place (found : monitor.poller? poller.id = some poller)
    (position : PollerPosition) :
    (monitor.place poller.id position).poller? poller.id = some { poller with position } := by
  rw [place, poller?_modifyPoller (by simp), if_pos rfl, found]
  rfl

/-- When a poller hears of the last call of a query it goes to sleep or looks around. -/
theorem Move.answered {verdict : Verdict}
    (move : Move now monitor (.pollerAnswered id verdict) turn)
    (ended : turn.1.asking id = none) :
    ∃ poller after, monitor.poller? id = some poller ∧ turn.1.poller? id = some after ∧
      after.bundle = poller.bundle ∧
      (after.position = .looking ∨ ∃ wake, after.position = .asleep wake) := by
  generalize same_event : Event.pollerAnswered id verdict = event at move
  cases move with
  | failed found | unknown found | unconfirmed found =>
    obtain ⟨rfl, -⟩ := Event.pollerAnswered.inj same_event
    exact ⟨_, _, found, poller?_place found _, rfl, .inr ⟨_, rfl⟩⟩
  | @known poller hashes endpoint elapsed found =>
    obtain ⟨rfl, -⟩ := Event.pollerAnswered.inj same_event
    rw [asking, poller?_place found] at ended
    cases ended
  | @confirmed poller _ _ _ _ found =>
    obtain ⟨rfl, -⟩ := Event.pollerAnswered.inj same_event
    obtain ⟨heard, there⟩ := (trimmed_complete monitor poller.bundle).poller? poller.id
    rw [found] at there
    exact ⟨_, _, found, @poller?_place _ _ { poller with woken := poller.woken || heard } there _,
      rfl, .inl rfl⟩
  | _ => cases same_event

/-- If its hash is unwatched then it is the last poller of its hash. -/
theorem Move.parting {verdict : Verdict} (sound : monitor.Sound)
    (move : Move now monitor (.pollerAnswered id verdict) turn)
    (ended : turn.1.asking id = none) (found : monitor.poller? id = some poller) :
    Parting turn.1 poller.bundle id := by
  obtain ⟨before, after, again, there, same, position⟩ := move.answered ended
  obtain rfl := Option.some.inj (found.symm.trans again)
  have lives : after.isLive = true := by
    obtain stands | ⟨wake, stands⟩ := position <;> simp [Poller.isLive, stands]
  have sound := sound.step move
  obtain ⟨own, member⟩ := poller?_eq_some there
  refine ⟨own ▸ sound.below _ (List.mem_map_of_mem member), ended, ?_, ?_⟩
  · intro other again
    obtain rfl := Option.some.inj (there.symm.trans again)
    exact same
  · intro number other found alive here
    obtain ⟨rfl, there⟩ := poller?_eq_some found
    rw [sound.live_unique (mem_live.mpr ⟨member, lives⟩) (mem_live.mpr ⟨there, alive⟩)
      (here.trans same.symm)]
    exact own

/-- A poller can come to its end within so many steps of its own, all of them now. -/
def Ends (monitor : Monitor Watcher) (now : Nat) (poller : Poller) (most : Nat) : Prop :=
  ∃ entries final, Run monitor entries final ∧ entries.length ≤ most ∧
    (∀ entry ∈ entries, entry.now = now ∧ entry.event ∈ ownEvents poller ∧
      entry.before.isWatching poller.bundle = false) ∧
    final.isWatching poller.bundle = false ∧ final.poller? poller.id = none

theorem ends_of_looking (now : Nat) (found : monitor.poller? poller.id = some poller)
    (unwatched : monitor.isWatching poller.bundle = false) (stands : poller.position = .looking) :
    monitor.Ends now poller 2 := by
  let gone : Poller := { poller with position := .leaving }
  have retires : Move now monitor _ _ := .retired found stands unwatched
  have leaves := @Move.left _ now _ gone
    (@poller?_place _ (monitor.unrecord poller) _ found .leaving) rfl
  refine ⟨_, _, retires.run.trans leaves.run, by simp, ?_, unwatched, ?_⟩
  · intro entry member
    obtain rfl | rfl : entry = _ ∨ entry = _ := by simpa using member
    · exact ⟨rfl, by simp [ownEvents], unwatched⟩
    · exact ⟨rfl, by simp [ownEvents, gone], unwatched⟩
  · exact (poller?_leave _ gone poller.id).trans (if_pos rfl)

/-- A poller of an unwatched hash that sleeps gets up for the wake-up that waits for it. -/
theorem ends_of_woken {wake : Nat} (now : Nat) (found : monitor.poller? poller.id = some poller)
    (unwatched : monitor.isWatching poller.bundle = false)
    (stands : poller.position = .asleep wake) (woken : poller.woken = true) :
    monitor.Ends now poller 3 := by
  let awake : Poller := { poller with woken := false, position := .looking }
  have rises : Move now monitor _ _ := .roused found stands woken
  have there : (monitor.rouse poller.id).poller? awake.id = some awake := by
    rw [rouse, poller?_modifyPoller (by simp), if_pos rfl, found]
    rfl
  obtain ⟨entries, final, run, short, own, last, gone⟩ := ends_of_looking now there unwatched rfl
  refine ⟨_, final, rises.run.trans run, Nat.succ_le_succ short, ?_, last, gone⟩
  intro entry member
  obtain rfl | later := List.mem_cons.mp member
  · exact ⟨rfl, by simp [ownEvents], unwatched⟩
  · exact own entry later

/-- When the last call of a poller has returned, and its hash is unwatched, it can end without
delay. -/
theorem Move.ends {verdict : Verdict} (permitted : turn.1.Permitted)
    (move : Move now monitor (.pollerAnswered id verdict) turn)
    (ended : turn.1.asking id = none) (found : monitor.poller? id = some poller)
    (unwatched : turn.1.isWatching poller.bundle = false) : turn.1.Ends now poller 3 := by
  obtain ⟨before, after, again, there, same, position⟩ := move.answered ended
  obtain rfl := Option.some.inj (found.symm.trans again)
  obtain ⟨own, -⟩ := poller?_eq_some found
  obtain ⟨number, -⟩ := poller?_eq_some there
  have unwatched : turn.1.isWatching after.bundle = false := same ▸ unwatched
  have ends : turn.1.Ends now after 3 := by
    have here := number.symm ▸ there
    obtain stands | ⟨wake, stands⟩ := position
    · obtain ⟨entries, final, run, short, steps⟩ := ends_of_looking now here unwatched stands
      exact ⟨entries, final, run, Nat.le_succ_of_le short, steps⟩
    · have woken := permitted id after there (by simp [Poller.isLive, stands]) unwatched
      exact ends_of_woken now here unwatched stands (woken.resolve_right (by simp [stands]))
  rwa [Ends, same, number, ownEvents, number, ← own] at ends

/-! ## All runs -/

/-- In every run of a monitor, a poller of an unwatched hash is asking the nodes whenever the
monitor is settled. When its last call returns, whatever the answer, and its hash is unwatched, the
poller asks nothing more as long as that stays so: no settled monitor has the poller any longer or a
record of the hash, and by its own steps the poller can be gone without delay. Whatever is asked
about a hash is asked while the hash is watched, or follows from what was found then. -/
theorem Run.no_poller_for_nobody {start final : Monitor Watcher} {entries : List (Entry Watcher)}
    (run : Run start entries final) (new : start.IsNew) :
    (∀ now, final.nextEvent? now = none → ∀ poller ∈ final.pollers,
      final.isWatching poller.bundle = false →
      poller.position = .finding ∨ ∃ found, poller.position = .judging found) ∧
    (∀ now id verdict turn poller, Move now final (.pollerAnswered id verdict) turn →
      turn.1.asking id = none → final.poller? id = some poller →
      turn.1.isWatching poller.bundle = false →
      queries id turn.2 = [] ∧
      (∀ later last, Run turn.1 later last →
        (∀ entry ∈ later, entry.before.isWatching poller.bundle = false) →
        last.isWatching poller.bundle = false →
        queries id (seen later) = [] ∧
          ∀ time, last.nextEvent? time = none →
            last.poller? id = none ∧ last.records.lookup poller.bundle = none) ∧
      ∃ later last, Run turn.1 later last ∧ later.length ≤ 3 ∧
        (∀ entry ∈ later, entry.now = now ∧ entry.event ∈ ownEvents poller) ∧
        queries id (seen later) = [] ∧ last.poller? id = none ∧
        last.records.lookup poller.bundle = none) ∧
    ∀ entry ∈ entries, ∀ id request, .query id request ∈ entry.effects →
      ∃ poller, entry.before.poller? id = some poller ∧
        ((poller.position = .looking ∧ request = .findTransactions [poller.bundle] ∧
            entry.before.isWatching poller.bundle = true) ∨
          ∃ hashes, poller.position = .finding ∧ request = .getInclusionStates hashes) := by
  have sound := run.sound new.sound
  have permitted := run.permitted new.sound new.permitted
  refine ⟨?_, ?_, ?_⟩
  · intro now settled poller member unwatched
    exact permitted.inquiring settled (sound.poller?_eq member) unwatched
  · intro now id verdict turn poller move ended found unwatched
    have parting := move.parting sound ended found
    have permitted := permitted.step sound move
    have sound := sound.step move
    refine ⟨?_, ?_, ?_⟩
    · refine List.eq_nil_iff_forall_not_mem.mpr fun request asks => ?_
      obtain ⟨_, -, -, -, asking, -⟩ := move.queries_inv asks
      rw [ended] at asking
      cases asking
    · intro later last after unwatched here
      obtain ⟨parting, silent⟩ := after.parting parting unwatched here
      refine ⟨silent, fun time settled => ?_⟩
      have gone := parting.gone (after.permitted sound permitted) settled here
      exact ⟨gone, parting.unrecorded (after.sound sound) gone⟩
    · obtain ⟨later, last, after, short, own, here, gone⟩ :=
        move.ends permitted ended found unwatched
      obtain ⟨parting, silent⟩ :=
        after.parting parting (fun entry member => (own entry member).2.2) here
      exact ⟨later, last, after, short, fun entry member =>
        ⟨(own entry member).1, (own entry member).2.1⟩, silent, (poller?_eq_some found).1 ▸ gone,
        parting.unrecorded (after.sound sound) ((poller?_eq_some found).1 ▸ gone)⟩
  · intro entry member id request effect
    obtain ⟨next, move⟩ := run.moved member
    have asks : request ∈ queries id entry.effects := List.mem_filterMap.mpr ⟨_, effect, by simp⟩
    obtain ⟨poller, found, -, -, -, ⟨-, stands, rfl⟩ | ⟨hashes, _, _, -, stands, -, rfl⟩⟩ :=
      move.queries_inv asks
    · obtain ⟨other, again, -, -, watched⟩ := move.watched_of_query asks
      obtain rfl := Option.some.inj (found.symm.trans again)
      exact ⟨poller, found, .inl ⟨stands, rfl, watched⟩⟩
    · exact ⟨poller, found, .inr ⟨hashes, stands, rfl⟩⟩

/-- A hash is left and watched again before its poller has looked around, and left for good while
the poller asks the nodes. -/
def leftTwice : List (Event Nat) :=
  [.register .null 7, .pollerEntered 1, .cancelPolling .null, .register .null 8, .pollerWoken 1,
    .pollerLooked 1, .cancelRegistration .null 2]

/-- Nothing more can be done before the nodes have replied. Once they have, the poller can be gone
within three steps of its own. -/
theorem no_poller_for_nobody_leftTwice : ∃ entries final, Run unused entries final ∧
    final.nextEvent? 0 = none ∧ final.pollers.map Poller.position = [.finding] ∧
    ∃ turn, Move 0 final (.pollerAnswered 1 (.answered ⟨.hashes [], "node", 3⟩)) turn ∧
      ∃ later last, Run turn.1 later last ∧ later.length ≤ 3 ∧ last.poller? 1 = none ∧
        last.records.lookup .null = none := by
  obtain ⟨entries, final, run, checked⟩ : ∃ entries final, Run unused entries final ∧
      decide (final.nextEvent? 0 = none ∧ final.pollers.map Poller.position = [.finding] ∧
        final.poller? 1 = some ⟨1, .null, true, .finding⟩ ∧
        (final.step 0 (.pollerAnswered 1 (.answered ⟨.hashes [], "node", 3⟩))).any (fun turn =>
          turn.1.asking 1 = none ∧ turn.1.isWatching .null = false) = true) = true :=
    @exists_run _ _ leftTwice _ (by decide)
  obtain ⟨settled, positions, found, answered⟩ := of_decide_eq_true checked
  obtain ⟨turn, stepped, ended⟩ := (Option.any_eq_true ..).mp answered
  obtain ⟨ended, unwatched⟩ := of_decide_eq_true ended
  have move := step_eq_some_iff.mp stepped
  obtain ⟨-, ends, -⟩ := run.no_poller_for_nobody isNew_unused
  obtain ⟨-, -, later, last, after, short, -, -, gone, unrecorded⟩ :=
    ends 0 1 _ turn _ move ended found unwatched
  exact ⟨entries, final, run, settled, positions, turn, move, later, last, after, short, gone,
    unrecorded⟩

end Inclusion.Monitor
