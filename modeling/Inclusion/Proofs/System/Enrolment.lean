import Inclusion.Proofs.System.Dialogue
import Inclusion.Proofs.System.Fates
import Inclusion.Proofs.Task.Enlistment

/-!
# Where the registration of a supervisor is

The supervisor of a task that is not on its way to the end stands by one registration at most. While
it has been told nothing of it, the registration is pending, or it is completed and its supervisor
in line to be told; a registration that is removed is told of at once. A supervisor on its way to
the end has no registration pending, but one that was completed may still be in line for it.

This holds at every moment of a run, whoever else registers for the hash and whatever becomes of
those registrations. While what the monitor asks for is carried out, the registrations that are
completed or removed but not dealt with yet count as those in line.
-/

namespace Inclusion.System

/-- The registrations of the supervisor of a task, among others. -/
def ofTask (id : Nat) (items : List (Hash × Registration Watcher)) :
    List (Hash × Registration Watcher) :=
  items.filter fun item => item.2.watcher = .supervisor id

/-- Which registrations the supervisor of a task has pending, and of which it is still to be told,
by where it stands. -/
inductive Owns (id : Nat) : Option Task → (pending untold : List (Hash × Registration Watcher)) →
    Prop where
  | absent : Owns id none [] []
  | starting {task} (stands : task.supervisor = .starting) : Owns id (some task) [] []
  | pending {task ticket} (stands : task.supervisor = .watching ticket none) :
      Owns id (some task) [(task.setup.bundle, ⟨ticket, .supervisor id⟩)] []
  | untold {task ticket} (stands : task.supervisor = .watching ticket none) :
      Owns id (some task) [] [(task.setup.bundle, ⟨ticket, .supervisor id⟩)]
  | told {task ticket signal} (stands : task.supervisor = .watching ticket (some signal)) :
      Owns id (some task) [] []
  | ending {task untold} (ends : task.supervisor.isEnding = true) : Owns id (some task) [] untold

/-- Every supervisor has the registrations that it accounts for, if it is still to be told of those
of a list. -/
def Enrolled (system : System) (untold : List (Hash × Registration Watcher)) : Prop :=
  ∀ id, Owns id (system.task? id) (ofTask id system.monitor.waiting) (ofTask id untold)

variable {start system next final : System} {trace : List Moment} {id ticket : Nat}
  {task after : Task} {event : Event} {turn : Turn}
  {item : Hash × Registration Watcher}
  {items rest pending untold : List (Hash × Registration Watcher)}

theorem ofTask_append (id : Nat) (first second : List (Hash × Registration Watcher)) :
    ofTask id (first ++ second) = ofTask id first ++ ofTask id second :=
  List.filter_append ..

theorem ofTask_cons_own (own : item.2.watcher = .supervisor id) :
    ofTask id (item :: rest) = item :: ofTask id rest :=
  List.filter_cons_of_pos (by simpa using own)

theorem ofTask_cons_other (other : item.2.watcher ≠ .supervisor id) :
    ofTask id (item :: rest) = ofTask id rest :=
  List.filter_cons_of_neg (by simpa using other)

theorem mem_ofTask : item ∈ ofTask id items ↔ item ∈ items ∧ item.2.watcher = .supervisor id := by
  simp [ofTask]

/-! ## A single supervisor -/

theorem Owns.perm {task : Option Task} {same again : List (Hash × Registration Watcher)}
    (owns : Owns id task pending untold) (pending_perm : pending.Perm same)
    (untold_perm : untold.Perm again) : Owns id task same again := by
  cases owns with
  | absent =>
    rw [pending_perm.nil_eq.symm, untold_perm.nil_eq.symm]
    exact .absent
  | starting stands =>
    rw [pending_perm.nil_eq.symm, untold_perm.nil_eq.symm]
    exact .starting stands
  | pending stands =>
    rw [← List.singleton_perm.mp pending_perm, untold_perm.nil_eq.symm]
    exact .pending stands
  | untold stands =>
    rw [pending_perm.nil_eq.symm, ← List.singleton_perm.mp untold_perm]
    exact .untold stands
  | told stands =>
    rw [pending_perm.nil_eq.symm, untold_perm.nil_eq.symm]
    exact .told stands
  | ending ends =>
    rw [pending_perm.nil_eq.symm]
    exact .ending ends

/-- A registration that is no longer pending is one of which the supervisor is still to be told. -/
theorem Owns.parted {task : Option Task} {kept gone : List (Hash × Registration Watcher)}
    (owns : Owns id task pending untold) (parts : pending.Perm (kept ++ gone)) :
    Owns id task kept (untold ++ gone) := by
  have none_pending : pending = [] → kept = [] ∧ gone = [] := by
    rintro rfl
    exact List.append_eq_nil_iff.mp parts.nil_eq.symm
  cases owns with
  | absent =>
    obtain ⟨rfl, rfl⟩ := none_pending rfl
    exact .absent
  | starting stands =>
    obtain ⟨rfl, rfl⟩ := none_pending rfl
    exact .starting stands
  | pending stands =>
    obtain ⟨rfl, rfl⟩ | ⟨rfl, rfl⟩ :=
      List.append_eq_singleton_iff.mp (List.singleton_perm.mp parts).symm
    · exact .untold stands
    · exact .pending stands
  | untold stands =>
    obtain ⟨rfl, rfl⟩ := none_pending rfl
    rw [List.append_nil]
    exact .untold stands
  | told stands =>
    obtain ⟨rfl, rfl⟩ := none_pending rfl
    exact .told stands
  | ending ends =>
    obtain ⟨rfl, rfl⟩ := none_pending rfl
    rw [List.append_nil]
    exact .ending ends

/-- A supervisor that asks the monitor for nothing leaves its registration where it is. -/
theorem Owns.apart (owns : Owns id (some task) pending untold)
    (bundle : after.setup.bundle = task.setup.bundle)
    (goes : after.supervisor = task.supervisor ∨ after.supervisor.isEnding = true ∧
      (task.supervisor.isEnding = true ∨
        ∃ ticket, task.supervisor = .watching ticket (some .fired))) :
    Owns id (some after) pending untold := by
  obtain same | ⟨ends, begun⟩ := goes
  · cases owns with
    | starting stands => exact .starting (same.trans stands)
    | pending stands => exact bundle ▸ .pending (same.trans stands)
    | untold stands => exact bundle ▸ .untold (same.trans stands)
    | told stands => exact .told (same.trans stands)
    | ending ends => exact .ending (same ▸ ends)
  · have elsewhere : task.supervisor ≠ .starting ∧
        ∀ ticket, task.supervisor ≠ .watching ticket none := by
      obtain ending | ⟨ticket, stands⟩ := begun
      · constructor
        · intro stands
          rw [stands] at ending
          cases ending
        · intro ticket stands
          rw [stands] at ending
          cases ending
      · simp [stands]
    cases owns with
    | starting stands => exact absurd stands elsewhere.1
    | pending stands | untold stands => exact absurd stands (elsewhere.2 _)
    | told | ending => exact .ending ends

/-- A supervisor that is to register has no registration. -/
theorem Owns.free (owns : Owns id (some task) pending untold)
    (free : task.supervisor = .starting ∨
      ∃ ticket, task.supervisor = .watching ticket (some .dropped)) :
    pending = [] ∧ untold = [] := by
  cases owns with
  | starting | told => exact ⟨rfl, rfl⟩
  | pending stands | untold stands =>
    obtain starts | ⟨ticket, drops⟩ := free
    · exact nomatch stands.symm.trans starts
    · exact nomatch stands.symm.trans drops
  | ending ends =>
    obtain starts | ⟨ticket, drops⟩ := free
    · rw [starts] at ends
      cases ends
    · rw [drops] at ends
      cases ends

/-- A registration that a supervisor has pending is the one that it stands by. -/
theorem Owns.of_watching {signal : Option Signal} (owns : Owns id (some task) pending untold)
    (stands : task.supervisor = .watching ticket signal) :
    pending = [] ∨ pending = [(task.setup.bundle, ⟨ticket, .supervisor id⟩)] := by
  cases owns with
  | pending again =>
    obtain ⟨rfl, rfl⟩ := Supervisor.watching.inj (stands.symm.trans again)
    exact .inr rfl
  | _ => exact .inl rfl

/-! ## Signals -/

/-- A signal reaches a supervisor that stands by the registration. -/
theorem signal_of_watching (present : system.task? id = some task)
    (stands : task.supervisor = .watching ticket none) (signal : Signal) :
    system.signal id ticket signal =
      system.setTask id { task with supervisor := .watching ticket (some signal) } := by
  have told : task.step system.surroundings (.signalled ticket signal) =
      some ({ task with supervisor := .watching ticket (some signal) }, []) :=
    Task.step_eq_some_iff.mpr (.signalled stands)
  simp only [System.signal, present, told]

/-- It is nothing to one that is on its way to the end. -/
theorem signal_of_ending (present : system.task? id = some task)
    (ends : task.supervisor.isEnding = true) (ticket : Nat) (signal : Signal) :
    system.signal id ticket signal = system := by
  have untold : task.step system.surroundings (.signalled ticket signal) = none := by
    refine Option.eq_none_iff_forall_ne_some.mpr fun turn stepped => ?_
    cases Task.step_eq_some_iff.mp stepped with
    | signalled stands =>
      rw [stands] at ends
      cases ends
  simp only [System.signal, present, untold]

theorem task?_signal_of_ne {other : Nat} (different : id ≠ other) (ticket : Nat) (signal : Signal) :
    (system.signal id ticket signal).task? other = system.task? other := by
  unfold System.signal
  split
  · rfl
  · split
    · rw [task?_setTask, if_neg different]
    · rfl

/-- A supervisor is told of a registration of which it was still to be told. -/
theorem Enrolled.signal (enrolled : system.Enrolled (item :: rest))
    (own : item.2.watcher = .supervisor id) (signal : Signal) :
    (system.signal id item.2.id signal).Enrolled rest := by
  intro other
  rw [(frame_signal system id item.2.id signal).2.2.2]
  by_cases same : id = other
  · subst same
    have owns := enrolled id
    rw [ofTask_cons_own own] at owns
    generalize ofTask id system.monitor.waiting = pending at owns ⊢
    generalize ofTask id rest = later at owns ⊢
    cases present : system.task? id with
    | none =>
      rw [present] at owns
      cases owns
    | some task =>
      rw [present] at owns
      cases owns with
      | untold stands =>
        rw [signal_of_watching present stands, task?_setTask, if_pos rfl, present]
        exact .told rfl
      | ending ends =>
        rw [signal_of_ending present ends, present]
        exact .ending ends
  · have owns := enrolled other
    have elsewhere : item.2.watcher ≠ .supervisor other := by
      rw [own]
      exact fun both => same (Watcher.supervisor.inj both)
    rw [ofTask_cons_other elsewhere] at owns
    rwa [task?_signal_of_ne same]

/-- Of a registration that is not one of a supervisor no task has to be told. -/
theorem Enrolled.others (enrolled : system.Enrolled (item :: rest))
    (outside : ∀ id, item.2.watcher ≠ .supervisor id) : system.Enrolled rest := by
  intro id
  have owns := enrolled id
  rwa [ofTask_cons_other (outside id)] at owns

theorem Enrolled.tellRemoved {registration : Registration Watcher} {bundle : Hash}
    (enrolled : system.Enrolled ((bundle, registration) :: rest)) :
    (tellRemoved bundle system registration).1.Enrolled rest := by
  unfold System.tellRemoved
  split
  · next own => exact enrolled.signal own .dropped
  · next own => exact enrolled.others fun id => own ▸ nofun
  · next own => exact enrolled.others fun id => own ▸ nofun

theorem Enrolled.tellConfirmed {registration : Registration Watcher} {bundle : Hash}
    (enrolled : system.Enrolled ((bundle, registration) :: rest)) :
    (system.tellConfirmed registration).1.Enrolled rest := by
  unfold System.tellConfirmed
  split
  · next own => exact enrolled.signal own .fired
  · next own => exact enrolled.others fun id => own ▸ nofun
  · next own => exact enrolled.others fun id => own ▸ nofun

/-! ## What the monitor asks for -/

theorem Enrolled.of_eq (enrolled : system.Enrolled untold) (tasks : next.tasks = system.tasks)
    (monitor : next.monitor = system.monitor) : next.Enrolled untold := by
  intro id
  rw [task?_congr tasks, monitor]
  exact enrolled id

theorem Enrolled.perm {again : List (Hash × Registration Watcher)}
    (enrolled : system.Enrolled untold) (same : untold.Perm again) : system.Enrolled again :=
  fun id => (enrolled id).perm (.refl _) (same.filter _)

theorem Enrolled.carryOut_tellRemoved {bundle : Hash} {registrations : List (Registration Watcher)}
    (enrolled : system.Enrolled (registrations.map (bundle, ·) ++ rest)) :
    (carryOut (System.tellRemoved bundle) system registrations).1.Enrolled rest := by
  induction registrations generalizing system with
  | nil => exact enrolled
  | cons first others inductionHypothesis =>
    rw [carryOut_cons]
    exact inductionHypothesis enrolled.tellRemoved

/-- Those whose registrations were completed come in line, and those whose registrations were
removed are told. -/
theorem Enrolled.serveMonitor {effect : Monitor.Effect Watcher}
    (enrolled : system.Enrolled
      (system.callbacks ++ Monitor.completed [effect] ++ (Monitor.removed [effect] ++ rest))) :
    (system.serveMonitor effect).1.Enrolled ((system.serveMonitor effect).1.callbacks ++ rest) := by
  cases effect with
  | completed bundle registrations =>
    have line : Monitor.completed [.completed bundle registrations] =
        registrations.map (bundle, ·) := by simp [Monitor.completed]
    rw [line] at enrolled
    exact enrolled.of_eq rfl rfl
  | removed bundle registrations =>
    have gone : Monitor.removed [.removed bundle registrations] =
        registrations.map (bundle, ·) := by simp [Monitor.removed]
    rw [gone] at enrolled
    have first : (system.callbacks ++ (registrations.map (bundle, ·) ++ rest)).Perm
        (registrations.map (bundle, ·) ++ (system.callbacks ++ rest)) := by
      rw [← List.append_assoc, ← List.append_assoc]
      exact List.perm_append_comm.append_right rest
    have line := (resembles_tellRemoved bundle system registrations).callbacks
    have told := ((List.append_nil system.callbacks ▸ enrolled).perm first).carryOut_tellRemoved
    rw [← line] at told
    exact told
  | query poller request =>
    obtain ⟨⟨tasks, callbacks, monitor⟩, -⟩ :=
      system.frame_beginCall (.poller poller) system.monitorClient request
    have begun := (List.append_nil system.callbacks ▸ enrolled).of_eq tasks monitor
    show (system.beginCall _ _ _).1.Enrolled ((system.beginCall _ _ _).1.callbacks ++ rest)
    rw [callbacks]
    exact begun
  | stopWatch bundle => exact (List.append_nil system.callbacks ▸ enrolled).of_eq rfl rfl
  | registered | answered | pollerStarted | pollerEnded =>
    exact List.append_nil system.callbacks ▸ enrolled

theorem Enrolled.carryOut_serveMonitor {effects : List (Monitor.Effect Watcher)}
    (enrolled : system.Enrolled
      (system.callbacks ++ (Monitor.completed effects ++ Monitor.removed effects))) :
    (carryOut System.serveMonitor system effects).1.Enrolled
      (carryOut System.serveMonitor system effects).1.callbacks := by
  induction effects generalizing system with
  | nil => exact List.append_nil system.callbacks ▸ enrolled
  | cons first others inductionHypothesis =>
    rw [carryOut_cons]
    refine inductionHypothesis (Enrolled.serveMonitor (enrolled.perm ?_))
    rw [← List.singleton_append, Monitor.completed_append, Monitor.removed_append,
      List.append_assoc, List.append_assoc]
    refine List.Perm.append_left _ (List.Perm.append_left _ ?_)
    rw [← List.append_assoc, ← List.append_assoc]
    exact List.perm_append_comm.append_right _

/-- After a turn of the monitor every supervisor accounts for its registrations if it does before
anything is carried out. -/
theorem enrolled_afterMonitor {after : Monitor.Turn Watcher}
    (owns : ∀ id, Owns id (system.task? id) (ofTask id after.1.waiting)
      (ofTask id (system.callbacks ++ (Monitor.completed after.2 ++ Monitor.removed after.2)))) :
    (system.afterMonitor after).1.Enrolled (system.afterMonitor after).1.callbacks :=
  Enrolled.carryOut_serveMonitor owns

/-- What happens to registrations keeps this up, unless a supervisor registers. -/
theorem Enrolled.afterMonitor {now : Nat} {monitorEvent : Monitor.Event Watcher}
    {after : Monitor.Turn Watcher} (enrolled : system.Enrolled system.callbacks)
    (sound : system.monitor.Sound) (move : Monitor.Move now system.monitor monitorEvent after)
    (outside : ∀ bundle id, monitorEvent ≠ .register bundle (.supervisor id)) :
    (system.afterMonitor after).1.Enrolled (system.afterMonitor after).1.callbacks := by
  refine enrolled_afterMonitor fun id => ?_
  have unmade : ofTask id (Monitor.made after.2) = [] := by
    obtain ⟨unmade, -⟩ | ⟨bundle, watcher, asked, made, -⟩ := move.numbers
    · rw [unmade]
      rfl
    · rw [made]
      refine ofTask_cons_other fun own => ?_
      have own : watcher = .supervisor id := own
      exact outside bundle id (own ▸ asked)
  have parts := (move.accounts sound).filter fun item => item.2.watcher = .supervisor id
  rw [← ofTask, ← ofTask, ofTask_append, unmade, List.append_nil, ofTask_append] at parts
  rw [ofTask_append]
  exact (enrolled id).parted parts

/-! ## Steps of tasks -/

/-- What is not asked of the monitor is nothing to it or to those in line. -/
theorem frame_serveTask (engine id : Nat) (bundle : Hash) (system : System) {effect : Task.Effect}
    (silent : effect.isForMonitor = false) :
    ((serveTask engine id bundle system effect).1.tasks = system.tasks ∧
      (serveTask engine id bundle system effect).1.callbacks = system.callbacks ∧
      (serveTask engine id bundle system effect).1.monitor = system.monitor) ∧
      monitorEffects (serveTask engine id bundle system effect).2 = [] := by
  cases effect with
  | call party role request =>
    obtain ⟨present, -, called⟩ | called :=
      serveTask_call engine id bundle system party role request
    · obtain ⟨frame, unseen, -⟩ :=
        system.frame_beginCall (.loop id party) (present.client role) request
      rw [called]
      exact ⟨frame, unseen⟩
    · rw [called]
      exact ⟨⟨rfl, rfl, rfl⟩, rfl⟩
  | watch | unwatch => cases silent
  | _ => exact ⟨⟨rfl, rfl, rfl⟩, rfl⟩

theorem frame_carryOut_serveTask (engine id : Nat) (bundle : Hash) (system : System)
    {effects : List Task.Effect} (silent : ∀ effect ∈ effects, effect.isForMonitor = false) :
    ((carryOut (serveTask engine id bundle) system effects).1.tasks = system.tasks ∧
      (carryOut (serveTask engine id bundle) system effects).1.callbacks = system.callbacks ∧
      (carryOut (serveTask engine id bundle) system effects).1.monitor = system.monitor) ∧
      monitorEffects (carryOut (serveTask engine id bundle) system effects).2 = [] := by
  induction effects generalizing system with
  | nil => exact ⟨⟨rfl, rfl, rfl⟩, rfl⟩
  | cons first rest inductionHypothesis =>
    obtain ⟨first_silent, silent⟩ := List.forall_mem_cons.mp silent
    obtain ⟨⟨tasks, callbacks, monitor⟩, unseen⟩ :=
      frame_serveTask engine id bundle system first_silent
    obtain ⟨⟨tasks_after, callbacks_after, monitor_after⟩, unseen_after⟩ :=
      inductionHypothesis (serveTask engine id bundle system first).1 silent
    rw [carryOut_cons, monitorEffects_append, unseen, unseen_after]
    exact ⟨⟨tasks_after.trans tasks, callbacks_after.trans callbacks,
      monitor_after.trans monitor⟩, rfl⟩

/-- A supervisor that registers has that registration pending. -/
theorem Enrolled.registered {task : Task} (enrolled : system.Enrolled system.callbacks)
    (present : system.task? id = some task)
    (free : task.supervisor = .starting ∨
      ∃ ticket, task.supervisor = .watching ticket (some .dropped)) :
    ((system.setTask id (task.register system.surroundings).1).afterMonitor
      (system.monitor.register task.setup.bundle (.supervisor id))).1.Enrolled
        ((system.setTask id (task.register system.surroundings).1).afterMonitor
          (system.monitor.register task.setup.bundle (.supervisor id))).1.callbacks := by
  refine enrolled_afterMonitor fun other => ?_
  have account := system.monitor.account_register task.setup.bundle (.supervisor id)
  have completed := congrArg Monitor.Account.completed account
  have removed := congrArg Monitor.Account.removed account
  have line : system.callbacks ++ (Monitor.completed (system.monitor.register task.setup.bundle
      (.supervisor id)).2 ++ Monitor.removed (system.monitor.register task.setup.bundle
        (.supervisor id)).2) = system.callbacks := by
    rw [show Monitor.completed _ = [] from completed, show Monitor.removed _ = [] from removed]
    exact List.append_nil _
  have pending := (Monitor.waiting_register system.monitor task.setup.bundle
    (.supervisor id)).symm.filter fun item => item.2.watcher = .supervisor other
  rw [← ofTask, ← ofTask, ofTask_append] at pending
  have owns := enrolled other
  show Owns other _ _ (ofTask other (system.callbacks ++ _))
  rw [line, task?_setTask]
  by_cases same : id = other
  · subst same
    rw [present] at owns
    obtain ⟨none_pending, none_untold⟩ := owns.free free
    rw [none_pending, List.nil_append, ofTask_cons_own rfl] at pending
    rw [none_untold, if_pos rfl, present]
    have one : Owns id (some (task.register system.surroundings).1)
        [(task.setup.bundle, ⟨system.monitor.nextId, .supervisor id⟩)] [] := .pending rfl
    exact one.perm pending (.refl [])
  · have elsewhere : ofTask other [(task.setup.bundle, (⟨system.monitor.nextId, .supervisor id⟩ :
        Registration Watcher))] = [] :=
      ofTask_cons_other fun both => same (Watcher.supervisor.inj both)
    rw [elsewhere, List.append_nil] at pending
    rw [if_neg same]
    exact owns.perm pending (.refl _)

/-- When the only registration of a supervisor is cancelled, none is left. -/
theorem ofTask_cancelRegistration {monitor : Monitor Watcher} {bundle : Hash}
    (tidy : Monitor.Tidy monitor.entries)
    (owned : ofTask id monitor.waiting = [] ∨
      ofTask id monitor.waiting = [(bundle, ⟨ticket, .supervisor id⟩)]) :
    ofTask id (monitor.cancelRegistration bundle ticket).1.waiting = [] := by
  have parts := (Monitor.waiting_cancelRegistration tidy bundle ticket).filter
    fun item => item.2.watcher = .supervisor id
  rw [← ofTask, ← ofTask, ofTask_append] at parts
  obtain none_pending | one_pending := owned
  · rw [none_pending] at parts
    exact (List.append_eq_nil_iff.mp parts.nil_eq.symm).1
  · have own : (bundle, (⟨ticket, .supervisor id⟩ : Registration Watcher)) ∈
        ofTask id monitor.waiting := by simp [one_pending]
    have gone : (bundle, (⟨ticket, .supervisor id⟩ : Registration Watcher)) ∈
        ofTask id (((monitor.pending bundle).filter fun registration =>
          registration.id = ticket).map (bundle, ·)) := by
      refine mem_ofTask.mpr ⟨List.mem_map.mpr ⟨_, List.mem_filter.mpr ⟨?_, by simp⟩, rfl⟩, rfl⟩
      exact (Monitor.mem_waiting tidy).mp (mem_ofTask.mp own).1
    rw [one_pending] at parts
    obtain ⟨nobody, -⟩ | ⟨-, none_gone⟩ :=
      List.append_eq_singleton_iff.mp (List.singleton_perm.mp parts).symm
    · exact nobody
    · rw [none_gone] at gone
      cases gone

/-- A supervisor that withdraws its registration has none pending. -/
theorem Enrolled.withdrew {task after : Task} {signal : Option Signal}
    (enrolled : system.Enrolled system.callbacks) (sound : system.monitor.Sound)
    (present : system.task? id = some task) (stands : task.supervisor = .watching ticket signal)
    (ends : after.supervisor.isEnding = true) :
    ((system.setTask id after).afterMonitor
      (system.monitor.cancelRegistration task.setup.bundle ticket)).1.Enrolled
        ((system.setTask id after).afterMonitor
          (system.monitor.cancelRegistration task.setup.bundle ticket)).1.callbacks := by
  refine enrolled_afterMonitor fun other => ?_
  have account := system.monitor.account_cancelRegistration task.setup.bundle ticket
  have completed : Monitor.completed (system.monitor.cancelRegistration task.setup.bundle ticket).2
      = [] := congrArg Monitor.Account.completed account
  have removed : Monitor.removed (system.monitor.cancelRegistration task.setup.bundle ticket).2 =
      ((system.monitor.pending task.setup.bundle).filter fun registration =>
        registration.id = ticket).map (task.setup.bundle, ·) :=
    congrArg Monitor.Account.removed account
  have parts := (Monitor.waiting_cancelRegistration sound.tidy task.setup.bundle ticket).filter
    fun item => item.2.watcher = .supervisor other
  rw [← removed, ← ofTask, ← ofTask, ofTask_append] at parts
  show Owns other _ _ (ofTask other (system.callbacks ++ _))
  rw [completed, List.nil_append, ofTask_append, task?_setTask]
  have owns := enrolled other
  by_cases same : id = other
  · subst same
    rw [present] at owns
    rw [if_pos rfl, present, ofTask_cancelRegistration sound.tidy (owns.of_watching stands)]
    exact .ending ends
  · rw [if_neg same]
    exact owns.parted parts

/-- A step of a task keeps this up. -/
theorem Enrolled.stepTask {event : Task.Event} (enrolled : system.Enrolled system.callbacks)
    (sound : system.monitor.Sound)
    (unsignalled : ∀ ticket signal, event ≠ .signalled ticket signal)
    (stepped : system.stepTask id event = some turn) : turn.1.Enrolled turn.1.callbacks := by
  obtain ⟨record, next, effects, found, move, rfl⟩ := stepTask_eq_some stepped
  have present : system.task? id = some record.task := task?_of_record found
  have setup : next.setup = record.task.setup := move.setup
  rw [setup]
  generalize turn_eq : (next, effects) = turn at move
  cases move.enlists with
  | registered own free =>
    obtain ⟨rfl, rfl⟩ := Prod.mk.inj turn_eq
    exact enrolled.registered present free
  | withdrew stands cancelled ends =>
    obtain ⟨rfl, rfl⟩ := Prod.mk.inj turn_eq
    exact enrolled.withdrew sound present stands ends
  | signalled => exact absurd rfl (unsignalled _ _)
  | apart silent goes =>
    subst turn_eq
    obtain ⟨⟨tasks, callbacks, monitor⟩, -⟩ := frame_carryOut_serveTask record.engine id
      record.task.setup.bundle (system.setTask id next) silent
    rw [callbacks]
    have moved : (system.setTask id next).Enrolled system.callbacks := by
      intro other
      have owns := enrolled other
      rw [task?_setTask]
      split
      · next same =>
        subst same
        rw [present] at owns ⊢
        exact owns.apart (congrArg Setup.bundle setup) goes
      · exact owns
    exact moved.of_eq tasks monitor

/-! ## All steps -/

/-- A system with a sound monitor in which every supervisor accounts for its registrations. -/
structure Accounts (system : System) : Prop where
  sound : system.monitor.Sound
  enrolled : system.Enrolled system.callbacks

theorem Accounts.of_eq (accounts : system.Accounts) (tasks : next.tasks = system.tasks)
    (callbacks : next.callbacks = system.callbacks) (monitor : next.monitor = system.monitor) :
    next.Accounts :=
  ⟨monitor ▸ accounts.sound, callbacks ▸ accounts.enrolled.of_eq tasks monitor⟩

theorem Accounts.stepMonitor {monitorEvent : Monitor.Event Watcher} (accounts : system.Accounts)
    (stepped : system.stepMonitor monitorEvent = some turn)
    (outside : ∀ bundle id, monitorEvent ≠ .register bundle (.supervisor id)) :
    turn.1.Accounts := by
  obtain ⟨after, move, rfl, -, monitor⟩ := stepMonitor_eq_some stepped
  exact ⟨monitor ▸ accounts.sound.step move,
    accounts.enrolled.afterMonitor accounts.sound move outside⟩

theorem Accounts.hearLine (accounts : system.Accounts) (line : String) :
    (system.hearLine line).1.Accounts := by
  unfold System.hearLine
  split
  · next bundle notice =>
    split
    · exact @Accounts.stepMonitor system _ (.notifyConfirmed bundle) accounts rfl fun _ _ => nofun
    · exact accounts
  · exact accounts

theorem Accounts.carryOut_hearLine (accounts : system.Accounts) (lines : List String) :
    (carryOut System.hearLine system lines).1.Accounts := by
  induction lines generalizing system with
  | nil => exact accounts
  | cons first rest inductionHypothesis =>
    rw [carryOut_cons]
    exact inductionHypothesis (accounts.hearLine first)

theorem Accounts.stepTask {event : Task.Event} (accounts : system.Accounts)
    (stepped : system.stepTask id event = some turn)
    (unsignalled : ∀ ticket signal, event ≠ .signalled ticket signal) : turn.1.Accounts := by
  obtain ⟨task, present, tends⟩ := tends_stepTask unsignalled stepped
  obtain ⟨entries, run, -⟩ := tends.moves
  exact ⟨run.sound accounts.sound, accounts.enrolled.stepTask accounts.sound unsignalled stepped⟩

/-- The verdict of a call goes to its owner, which is a step of a task or of the monitor if it is
not outside. -/
theorem Accounts.deliver {record : CallRecord} {owner : Owner} {verdict : Verdict}
    (accounts : system.Accounts) (delivered : system.deliver record owner verdict = some turn) :
    turn.1.Accounts := by
  obtain ⟨tasks, callbacks, monitor, -⟩ := system.frame_setCall { record with owner := none }
  have left := accounts.of_eq tasks callbacks monitor
  cases owner with
  | loop task party => exact left.stepTask delivered fun _ _ => nofun
  | poller poller => exact left.stepMonitor delivered fun _ _ => nofun
  | caller name =>
    obtain rfl := Option.some.inj delivered
    exact left

theorem Accounts.endLeg (accounts : system.Accounts) (record : CallRecord) (leg : Leg)
    (outcome : Outcome) : (system.endLeg record leg outcome).1.Accounts := by
  obtain ⟨tasks, callbacks, monitor, -⟩ := { system with
    health := system.health.record leg.handle outcome.isFailure system.now }.frame_setCall
      { record with call := record.call.endLeg leg outcome system.now }
  exact accounts.of_eq tasks callbacks monitor

/-- Whoever comes out of the line is told. -/
theorem Accounts.told {place : Nat} (accounts : system.Accounts)
    (found : system.callbacks[place]? = some item) :
    ({ system with callbacks := system.callbacks.eraseIdx place }.tellConfirmed
      item.2).1.Accounts := by
  obtain ⟨within, at_place⟩ := List.getElem?_eq_some_iff.mp found
  have line : system.callbacks.Perm (item :: system.callbacks.eraseIdx place) :=
    at_place ▸ (List.getElem_cons_eraseIdx_perm within).symm
  obtain ⟨⟨monitor, callbacks, -⟩, -⟩ := frame_tellConfirmed
    { system with callbacks := system.callbacks.eraseIdx place } item
  have left : { system with callbacks := system.callbacks.eraseIdx place }.Enrolled
      (item :: system.callbacks.eraseIdx place) := (accounts.enrolled.perm line).of_eq rfl rfl
  exact ⟨by rw [monitor]; exact accounts.sound, by rw [callbacks]; exact left.tellConfirmed⟩

/-- A task that is started has no registration. -/
theorem Accounts.started {record : TaskRecord} (accounts : system.Accounts)
    (new : record.task.IsNew) (tasks : next.tasks = system.tasks ++ [record])
    (callbacks : next.callbacks = system.callbacks) (monitor : next.monitor = system.monitor) :
    next.Accounts := by
  refine ⟨monitor ▸ accounts.sound, fun id => ?_⟩
  have owns := accounts.enrolled id
  rw [callbacks, monitor, task?_concat tasks]
  split
  · next same =>
    have absent : system.task? id = none := by simp [task?, same]
    rw [absent] at owns
    generalize ofTask id system.monitor.waiting = pending at owns ⊢
    generalize ofTask id system.callbacks = untold at owns ⊢
    cases owns
    obtain ⟨setup, tail, trytes, now, forced, started⟩ := new
    exact .starting (by rw [started]; rfl)
  · exact owns

/-- Whatever happens, every supervisor accounts for its registrations. -/
theorem Accounts.step (accounts : system.Accounts) (stepped : system.step event = some turn) :
    turn.1.Accounts := by
  cases move_of_step stepped with
  | task own stepped => exact accounts.stepTask stepped (not_signalled_of_own own)
  | cancel stepped | received stepped | streamDropped stepped =>
    exact accounts.stepTask stepped fun _ _ => nofun
  | @poller poller event turn member own stepped =>
    refine accounts.stepMonitor stepped ?_
    rintro bundle id rfl
    simp [Monitor.ownEvents] at own
  | register outside stepped =>
    refine accounts.stepMonitor stepped ?_
    rintro bundle id same
    exact outside id (Monitor.Event.register.inj same).2
  | cancelRegistration stepped | cancelPolling stepped | notifyConfirmed stepped
  | feedChanged stepped => exact accounts.stepMonitor stepped fun _ _ => nofun
  | told found => exact accounts.told found
  | returned found owned decided delivered => exact accounts.deliver delivered
  | expired | ended => exact accounts.endLeg _ _ _
  | invalid | busy => exact accounts
  | passed | overflowed | stopwatchStarted | stopwatchStopped | stopwatchTaken =>
    exact accounts.of_eq rfl rfl rfl
  | started found read free made =>
    exact accounts.started (startsFrom_of_task? read made).isNew rfl rfl rfl
  | feedSpoke => exact accounts.carryOut_hearLine _
  | @request client request caller =>
    obtain ⟨⟨tasks, callbacks, monitor⟩, -⟩ :=
      system.frame_beginCall (.caller caller) client request
    exact accounts.of_eq tasks callbacks monitor

theorem accounts_of_isNew (new : start.IsNew) (unused : start.monitor.IsNew)
    (nobody : start.callbacks = []) : start.Accounts := by
  refine ⟨unused.sound, fun id => ?_⟩
  rw [task?, new.tasks, nobody, Monitor.waiting, unused.entries]
  exact .absent

/-- At every moment of a run every supervisor accounts for its registrations. -/
theorem Run.accounts (run : Run start trace final) (new : start.IsNew)
    (unused : start.monitor.IsNew) (nobody : start.callbacks = []) : final.Accounts := by
  induction run with
  | refl => exact accounts_of_isNew new unused nobody
  | step prior stepped inductionHypothesis => exact inductionHypothesis.step stepped

end Inclusion.System
