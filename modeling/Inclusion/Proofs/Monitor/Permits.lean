import Inclusion.Proofs.Monitor.Polls

/-!
# Wake-ups that are not lost

A poller is woken whenever its hash loses its last registration, whichever way that comes about. If
it is asking the nodes just then the wake-up waits for it, so that it never sleeps while nobody
waits for its hash: it looks around, finds nobody, and retires. It asks the nodes only for a hash
that is watched when it looks around.
-/

namespace Inclusion

/-- What a step makes of a poller. Whether its hash is watched matters only when it looks around. -/
inductive Poller.Becomes (watched : Bool) (poller : Poller) : Poller → Prop where
  | stays {heard} : Becomes watched poller { poller with woken := poller.woken || heard }
  | rests {wake} (stands : poller.position = .starting ∨ poller.inquiry?.isSome = true) :
      Becomes watched poller { poller with position := .asleep wake }
  | elapses {wake} (stands : poller.position = .asleep wake) :
      Becomes watched poller { poller with position := .looking }
  | rouses {wake} (stands : poller.position = .asleep wake) (woken : poller.woken = true) :
      Becomes watched poller { poller with woken := false, position := .looking }
  | asks (stands : poller.position = .looking) (watches : watched = true) :
      Becomes watched poller { poller with position := .finding }
  | retires (stands : poller.position = .looking) (unwatched : watched = false) :
      Becomes watched poller { poller with position := .leaving }
  | finds {found} (stands : poller.position = .finding) :
      Becomes watched poller { poller with position := .judging found }
  | confirms {found heard} (stands : poller.position = .judging found) :
      Becomes watched poller
        { poller with woken := poller.woken || heard, position := .looking }

namespace Poller.Becomes

variable {watched : Bool} {poller after : Poller}

theorem refl (poller : Poller) : poller.Becomes watched poller := by
  simpa using @stays watched poller false

theorem bundle (becomes : poller.Becomes watched after) : after.bundle = poller.bundle := by
  cases becomes <;> rfl

/-- A poller that has retired stays so. -/
theorem isLive (becomes : poller.Becomes watched after) (alive : after.isLive = true) :
    poller.isLive = true := by
  cases becomes with
  | stays => exact alive
  | rests stands =>
    obtain stands | asks := stands
    · simp [Poller.isLive, stands]
    · cases stands : poller.position <;> simp_all [Poller.isLive, Poller.inquiry?]
  | retires => simp [Poller.isLive] at alive
  | elapses stands | rouses stands | asks stands | finds stands | confirms stands =>
    simp [Poller.isLive, stands]

end Poller.Becomes

namespace Monitor

variable {Watcher : Type} {monitor : Monitor Watcher} {now id : Nat} {bundle : Hash}
  {poller after : Poller} {event : Event Watcher} {turn : Turn Watcher}

/-! ## What becomes of a poller -/

/-- Where a registration is taken out a poller at most hears of it. -/
theorem Trimmed.becomes {next : Monitor Watcher} (trimmed : Trimmed monitor bundle next)
    (there : next.poller? id = some after) :
    ∃ poller, monitor.poller? id = some poller ∧
      poller.Becomes (monitor.isWatching poller.bundle) after := by
  obtain ⟨heard, same⟩ := trimmed.poller? id
  rw [same] at there
  obtain ⟨poller, found, rfl⟩ := Option.map_eq_some_iff.mp there
  exact ⟨poller, found, .stays⟩

/-- Where one poller moves the others stay as they are. -/
theorem becomes_of_modified {change : Poller → Poller}
    (kept : ∀ poller, (change poller).id = poller.id)
    (found : monitor.poller? poller.id = some poller)
    (becomes : poller.Becomes (monitor.isWatching poller.bundle) (change poller))
    (there : (monitor.modifyPoller poller.id change).poller? id = some after) :
    ∃ poller, monitor.poller? id = some poller ∧
      poller.Becomes (monitor.isWatching poller.bundle) after := by
  rw [poller?_modifyPoller kept] at there
  split at there
  · next own =>
    subst own
    rw [found] at there
    obtain rfl := Option.some.inj there
    exact ⟨poller, found, becomes⟩
  · exact ⟨after, there, .refl after⟩

/-- Every poller is one that was there before the step, or the one that a registration has brought
along. -/
theorem Move.becomes (move : Move now monitor event turn)
    (there : turn.1.poller? id = some after) :
    (id = monitor.nextId ∧ ∃ watcher, event = .register after.bundle watcher) ∨
      ∃ poller, monitor.poller? id = some poller ∧
        poller.Becomes (monitor.isWatching poller.bundle) after := by
  cases move with
  | @register bundle watcher =>
    obtain same | ⟨own, -, new⟩ := poller?_register monitor bundle watcher id
    · exact .inr ⟨after, same.symm.trans there, .refl after⟩
    · obtain rfl := Option.some.inj (new.symm.trans there)
      exact .inl ⟨own, watcher, rfl⟩
  | cancelRegistration => exact .inr ((trimmed_cancelRegistration ..).becomes there)
  | cancelPolling => exact .inr ((trimmed_cancelPolling ..).becomes there)
  | notifyConfirmed => exact .inr ((trimmed_complete ..).becomes there)
  | feedChanged => exact .inr ⟨after, there, .refl after⟩
  | entered found stands =>
    exact .inr (becomes_of_modified (by simp) found (.rests (.inl stands)) there)
  | elapsed found stands => exact .inr (becomes_of_modified (by simp) found (.elapses stands) there)
  | roused found stands woken =>
    exact .inr (becomes_of_modified (by simp) found (.rouses stands woken) there)
  | asked found stands watched =>
    exact .inr (becomes_of_modified (by simp) found (.asks stands watched) there)
  | retired found stands unwatched =>
    exact .inr (becomes_of_modified (by simp) found (.retires stands unwatched) there)
  | @left poller =>
    rw [poller?_leave] at there
    split at there
    · cases there
    · exact .inr ⟨after, there, .refl after⟩
  | failed found stands =>
    refine .inr (becomes_of_modified (by simp) found (.rests (.inr ?_)) there)
    rcases stands with stands | ⟨_, stands⟩ <;> simp [Poller.inquiry?, stands]
  | unknown found stands | unconfirmed found stands =>
    refine .inr (becomes_of_modified (by simp) found (.rests (.inr ?_)) there)
    simp [Poller.inquiry?, stands]
  | known found stands => exact .inr (becomes_of_modified (by simp) found (.finds stands) there)
  | @confirmed poller _ _ _ _ found stands =>
    obtain ⟨heard, same⟩ := (trimmed_complete monitor poller.bundle).poller? id
    have placed : ((monitor.complete poller.bundle).1.place poller.id .looking).poller? id =
        some after := there
    refine .inr ?_
    rw [place, poller?_modifyPoller (by simp), same] at placed
    split at placed
    · next own =>
      subst own
      rw [found] at placed
      obtain rfl := Option.some.inj placed
      exact ⟨poller, found, .confirms stands⟩
    · obtain ⟨other, found, rfl⟩ := Option.map_eq_some_iff.mp placed
      exact ⟨other, found, .stays⟩

/-- Where the last registration is taken out the live poller of the hash is woken. -/
theorem Trimmed.woken {next : Monitor Watcher} (trimmed : Trimmed monitor bundle next)
    (sound : monitor.Sound) (found : monitor.poller? id = some poller)
    (alive : poller.isLive = true) (watched : monitor.isWatching poller.bundle = true)
    (unwatched : next.isWatching poller.bundle = false) :
    next.poller? id = some { poller with woken := true } := by
  obtain ⟨rfl, rfl⟩ := trimmed.cleared_of_unwatched watched unwatched
  obtain ⟨own, member⟩ := poller?_eq_some found
  have recorded := own ▸ sound.recorded (mem_live.mpr ⟨member, alive⟩)
  have unchanged : (monitor.forget poller.bundle).poller? id = some poller := found
  have records : (monitor.forget poller.bundle).records.lookup poller.bundle = some id := recorded
  rw [poller?_wake, unchanged, records]
  simp

/-- Of a hash that a step leaves unwatched, the live poller is woken. -/
theorem Move.woken (sound : monitor.Sound) (move : Move now monitor event turn)
    (found : monitor.poller? id = some poller) (alive : poller.isLive = true)
    (watched : monitor.isWatching poller.bundle = true)
    (unwatched : turn.1.isWatching poller.bundle = false)
    (there : turn.1.poller? id = some after) : after.woken = true := by
  have woken : ∀ {bundle : Hash} {next : Monitor Watcher}, Trimmed monitor bundle next →
      next.isWatching poller.bundle = false → next.poller? id = some after →
      after.woken = true := by
    intro bundle next trimmed unwatched there
    have woken := trimmed.woken sound found alive watched unwatched
    obtain rfl := Option.some.inj (woken.symm.trans there)
    rfl
  cases move with
  | @register bundle watcher =>
    simp [isWatching_register, watched] at unwatched
  | cancelRegistration => exact woken (trimmed_cancelRegistration ..) unwatched there
  | cancelPolling => exact woken (trimmed_cancelPolling ..) unwatched there
  | notifyConfirmed => exact woken (trimmed_complete ..) unwatched there
  | @confirmed other =>
    have placed : ((monitor.complete other.bundle).1.place other.id .looking).poller? id =
        some after := there
    have woken := (trimmed_complete ..).woken sound found alive watched unwatched
    rw [place, poller?_modifyPoller (by simp), woken] at placed
    split at placed <;> exact Option.some.inj placed ▸ rfl
  | _ => exact absurd (watched.symm.trans unwatched) (by simp)

/-! ## Wake-ups -/

/-- No live poller sleeps while its hash is unwatched, unless a wake-up is there for it. -/
def Permitted (monitor : Monitor Watcher) : Prop :=
  ∀ id poller, monitor.poller? id = some poller → poller.isLive = true →
    monitor.isWatching poller.bundle = false → poller.woken = true ∨ poller.position = .looking

theorem IsNew.permitted (new : monitor.IsNew) : monitor.Permitted := by
  intro id poller found
  rw [poller?, new.pollers] at found
  cases found

theorem Permitted.step (permitted : monitor.Permitted) (sound : monitor.Sound)
    (move : Move now monitor event turn) : turn.1.Permitted := by
  intro id after there alive unwatched
  obtain ⟨-, watcher, rfl⟩ | ⟨poller, found, becomes⟩ := move.becomes there
  · cases move
    simp [isWatching_register] at unwatched
  rw [becomes.bundle] at unwatched
  have lives := becomes.isLive alive
  cases watched : monitor.isWatching poller.bundle with
  | true => exact .inl (move.woken sound found lives watched unwatched there)
  | false =>
    have ready := permitted id poller found lives watched
    rw [watched] at becomes
    cases becomes with
    | stays => exact ready.imp_left fun woken => by simp [woken]
    | rests stands =>
      obtain woken | looking := ready
      · exact .inl woken
      · simp [looking, Poller.inquiry?] at stands
    | elapses | rouses | confirms => exact .inr rfl
    | asks _ watches => cases watches
    | retires => simp [Poller.isLive] at alive
    | finds stands => exact .inl (ready.resolve_right (by simp [stands]))

theorem Run.permitted {start final : Monitor Watcher} {entries : List (Entry Watcher)}
    (run : Run start entries final) (sound : start.Sound) (permitted : start.Permitted) :
    final.Permitted := by
  induction run with
  | refl => exact permitted
  | step prior move inductionHypothesis =>
    exact inductionHypothesis.step (prior.sound sound) move

/-! ## Pollers of a settled monitor -/

/-- A poller that can do nothing by itself, and whose hash is unwatched, waits for a node. -/
theorem Permitted.inquiring (permitted : monitor.Permitted)
    (settled : monitor.nextEvent? now = none)
    (found : monitor.poller? poller.id = some poller)
    (unwatched : monitor.isWatching poller.bundle = false) :
    poller.position = .finding ∨ ∃ found, poller.position = .judging found := by
  have stuck : ∀ event ∈ ownEvents poller, ∀ turn : Turn Watcher, ¬Move now monitor event turn := by
    intro event own turn move
    have member := (poller?_eq_some found).2
    have unable := List.find?_eq_none.mp settled event
      (List.mem_flatMap.mpr ⟨poller, member, own⟩)
    rw [step_eq_some_iff.mpr move] at unable
    simp at unable
  have ready := permitted poller.id poller found
  cases stands : poller.position with
  | starting => exact absurd (.entered found stands) (stuck _ (by simp [ownEvents]) _)
  | asleep wake =>
    have woken : poller.woken = true := by
      simpa [stands] using ready (by simp [Poller.isLive, stands]) unwatched
    exact absurd (.roused found stands woken) (stuck _ (by simp [ownEvents]) _)
  | looking =>
    exact absurd (.retired found stands unwatched) (stuck _ (by simp [ownEvents]) _)
  | finding => exact .inl rfl
  | judging hashes => exact .inr ⟨hashes, rfl⟩
  | leaving => exact absurd (.left found stands) (stuck _ (by simp [ownEvents]) _)

end Monitor

end Inclusion
