import Inclusion.Proofs.Monitor.Sound

/-!
# What becomes of registrations

A registration is pending from the moment at which it is made until it is completed or removed. The
`Account` of a turn tells what a step does in this respect, and what a caller is answered. There is
one equation for each kind of step: of all steps only registering makes a registration, only a
confirmation completes some, and only the two ways to cancel remove some. Each of them concerns one
hash.

No registration is lost or counted twice: those pending before a step and those made by it are those
pending afterwards and those completed or removed by it.
-/

namespace Inclusion.Monitor

variable {Watcher : Type}

/-- What callers are answered. -/
def answers (effects : List (Effect Watcher)) : List Bool :=
  effects.filterMap fun
    | .answered found => some found
    | _ => none

/-- The hashes whose stopwatches are to be stopped. -/
def stopped (effects : List (Effect Watcher)) : List Hash :=
  effects.filterMap fun
    | .stopWatch bundle => some bundle
    | _ => none

theorem stopped_append (first second : List (Effect Watcher)) :
    stopped (first ++ second) = stopped first ++ stopped second :=
  List.filterMap_append

/-- What a step comes to: the pending registrations of each hash after it, those that it makes,
completes and removes, the stopwatches to be stopped, and the answers. -/
@[ext]
structure Account (Watcher : Type) where
  pending : Hash → List (Registration Watcher)
  made : List (Hash × Registration Watcher) := []
  completed : List (Hash × Registration Watcher) := []
  removed : List (Hash × Registration Watcher) := []
  stopped : List Hash := []
  answers : List Bool := []

/-- The account of a turn. -/
def account (turn : Turn Watcher) : Account Watcher where
  pending := turn.1.pending
  made := made turn.2
  completed := completed turn.2
  removed := removed turn.2
  stopped := stopped turn.2
  answers := answers turn.2

/-- An event that confirms a hash: somebody says so, or a poller of the hash that has found
transactions hears that one of them is included. -/
inductive Confirms (monitor : Monitor Watcher) : Event Watcher → Hash → Prop where
  | notified {bundle} : Confirms monitor (.notifyConfirmed bundle) bundle
  | polled {id poller hashes flags endpoint elapsed} (found : monitor.poller? id = some poller)
      (stands : poller.position = .judging hashes) (included : true ∈ flags) :
      Confirms monitor (.pollerAnswered id (.answered ⟨.flags flags, endpoint, elapsed⟩))
        poller.bundle

/-- Whether an event is a request that is answered. -/
def Event.isAnswered : Event Watcher → Bool
  | cancelRegistration _ _ | cancelPolling _ | notifyConfirmed _ => true
  | _ => false

variable {monitor : Monitor Watcher} {now id : Nat} {bundle : Hash} {event : Event Watcher}
  {turn : Turn Watcher}

theorem pending_of_entries {other : Monitor Watcher} (same : other.entries = monitor.entries) :
    other.pending = monitor.pending := by
  funext bundle
  rw [pending, pending, same]

/-- Nobody is pending for a hash without an entry. -/
theorem pending_of_unwatched (absent : monitor.entries.lookup bundle = none) :
    monitor.pending bundle = [] := by
  rw [pending, absent]
  rfl

theorem pending_clear (monitor : Monitor Watcher) (bundle : Hash) :
    ((monitor.forget bundle).wake bundle).pending = Function.update monitor.pending bundle [] := by
  rw [← pending_forget]
  exact pending_of_entries (entries_wake ..)

theorem update_pending_nil (absent : monitor.entries.lookup bundle = none) :
    Function.update monitor.pending bundle [] = monitor.pending := by
  rw [← pending_of_unwatched absent, Function.update_eq_self]

/-! ## The account of each step -/

theorem account_register (monitor : Monitor Watcher) (bundle : Hash) (watcher : Watcher) :
    account (monitor.register bundle watcher) =
      { pending := Function.update monitor.pending bundle
          (monitor.pending bundle ++ [⟨monitor.nextId, watcher⟩])
        made := [(bundle, ⟨monitor.nextId, watcher⟩)] } := by
  have pending : (monitor.register bundle watcher).1.pending = Function.update monitor.pending
      bundle (monitor.pending bundle ++ [⟨monitor.nextId, watcher⟩]) := by
    funext other
    rw [Monitor.pending, entries_register, lookup_addPending, Function.update_apply]
    split <;> rfl
  have effects : made (monitor.register bundle watcher).2 =
      [(bundle, ⟨monitor.nextId, watcher⟩)] ∧ completed (monitor.register bundle watcher).2 = [] ∧
        removed (monitor.register bundle watcher).2 = [] ∧
        stopped (monitor.register bundle watcher).2 = [] ∧
        answers (monitor.register bundle watcher).2 = [] := by
    unfold register
    split <;> exact ⟨rfl, rfl, rfl, rfl, rfl⟩
  obtain ⟨made, completed, removed, stopped, answers⟩ := effects
  rw [account, pending, made, completed, removed, stopped, answers]

theorem account_complete (tidy : Tidy monitor.entries) (bundle : Hash) :
    account (monitor.complete bundle) =
      { pending := Function.update monitor.pending bundle []
        completed := (monitor.pending bundle).map (bundle, ·)
        stopped := if monitor.pending bundle = [] then [] else [bundle] } := by
  unfold complete
  split
  · next absent =>
    rw [update_pending_nil absent, pending_of_unwatched absent]
    rfl
  · next present found =>
    have nonempty := tidy.nonempty _ ((lookup_eq_some_iff_mem tidy.distinct).mp found)
    rw [pending_of_lookup found, if_neg nonempty, ← pending_clear]
    simp [account, made, completed, removed, stopped, answers]

/-- An answer is all that it adds to an account. -/
theorem account_answered (turn : Turn Watcher) (found : Bool) :
    account (turn.1, turn.2 ++ [.answered found]) =
      { account turn with answers := answers turn.2 ++ [found] } := by
  simp [account, made, completed, removed, stopped, answers]

theorem account_notifyConfirmed (tidy : Tidy monitor.entries) (bundle : Hash) :
    account (monitor.notifyConfirmed bundle) =
      { pending := Function.update monitor.pending bundle []
        completed := (monitor.pending bundle).map (bundle, ·)
        stopped := if monitor.pending bundle = [] then [] else [bundle]
        answers := [!(monitor.pending bundle).isEmpty] } := by
  have watched : monitor.isWatching bundle = !(monitor.pending bundle).isEmpty := by
    rw [Bool.eq_iff_iff, isWatching_iff tidy]
    simp
  have completes := account_complete tidy bundle
  have unanswered : answers (monitor.complete bundle).2 = [] := congrArg Account.answers completes
  rw [notifyConfirmed, account_answered, completes, unanswered, watched]
  rfl

theorem account_cancelPolling (tidy : Tidy monitor.entries) (bundle : Hash) :
    account (monitor.cancelPolling bundle) =
      { pending := Function.update monitor.pending bundle []
        removed := (monitor.pending bundle).map (bundle, ·)
        answers := [!(monitor.pending bundle).isEmpty] } := by
  rw [← pending_clear]
  unfold cancelPolling
  split
  · next absent =>
    rw [pending_of_unwatched absent]
    rfl
  · next present found =>
    have nonempty := tidy.nonempty _ ((lookup_eq_some_iff_mem tidy.distinct).mp found)
    simp [account, made, completed, removed, stopped, answers, pending_of_lookup found, nonempty]

/-- Once a registration is cancelled those left are pending, if any. -/
theorem pending_cancel {present : List (Registration Watcher)}
    (found : monitor.entries.lookup bundle = some present) (kept : List (Registration Watcher)) :
    (if kept.isEmpty then (monitor.forget bundle).wake bundle
        else monitor.keep bundle kept).pending =
      Function.update monitor.pending bundle kept := by
  split
  · next none_left => rw [pending_clear, List.isEmpty_iff.mp none_left]
  · exact pending_keep found

theorem account_cancelRegistration (monitor : Monitor Watcher) (bundle : Hash) (id : Nat) :
    account (monitor.cancelRegistration bundle id) =
      { pending := Function.update monitor.pending bundle
          ((monitor.pending bundle).filter fun registration => registration.id ≠ id)
        removed := ((monitor.pending bundle).filter fun registration => registration.id = id).map
          (bundle, ·)
        answers := [(monitor.pending bundle).any fun registration => registration.id = id] } := by
  unfold cancelRegistration
  split
  · next absent =>
    rw [pending_of_unwatched absent, List.filter_nil, update_pending_nil absent]
    rfl
  · next present found =>
    rw [pending_of_lookup found, ← pending_cancel found]
    simp only
    split
    · next none_gone =>
      have none_found : present.any (fun registration => registration.id = id) = false := by
        simpa using none_gone
      rw [List.isEmpty_iff.mp none_gone, none_found]
      rfl
    · next gone =>
      have some_found : present.any (fun registration => registration.id = id) = true := by
        simpa using gone
      rw [some_found]
      simp [account, made, completed, removed, stopped, answers]

/-- A poll that confirms its hash comes to what anybody's word comes to, without an answer. -/
theorem Move.account_polled {verdict : Verdict} (tidy : Tidy monitor.entries)
    (move : Move now monitor (.pollerAnswered id verdict) turn)
    (confirms : Confirms monitor (.pollerAnswered id verdict) bundle) :
    account turn =
      { pending := Function.update monitor.pending bundle []
        completed := (monitor.pending bundle).map (bundle, ·)
        stopped := if monitor.pending bundle = [] then [] else [bundle] } := by
  rw [← account_complete tidy bundle]
  cases confirms with
  | @polled _ poller _ _ _ _ found stands included =>
    generalize event_eq : Event.pollerAnswered id _ = event at move
    cases move with
    | confirmed again =>
      obtain ⟨rfl, -⟩ := Event.pollerAnswered.inj event_eq
      obtain rfl := Option.some.inj (found.symm.trans again)
      rfl
    | unconfirmed again rests excluded =>
      obtain ⟨-, same⟩ := Event.pollerAnswered.inj event_eq
      obtain ⟨⟨⟩, -, -⟩ := Answer.mk.inj (Verdict.answered.inj same)
      exact absurd included excluded
    | _ => simp at event_eq

/-- Any other step leaves the registrations as they are. -/
theorem Move.account_kept (move : Move now monitor event turn) (unasked : event.isAnswered = false)
    (unmade : ∀ bundle watcher, event ≠ .register bundle watcher)
    (unconfirmed : ∀ bundle, ¬Confirms monitor event bundle) :
    account turn = { pending := monitor.pending } := by
  cases move with
  | register => exact absurd rfl (unmade _ _)
  | cancelRegistration | cancelPolling | notifyConfirmed => cases unasked
  | confirmed found stands included => exact absurd (.polled found stands included) (unconfirmed _)
  | _ => rfl

/-- What is completed was pending for a hash that is confirmed. -/
theorem Move.completed_inv (tidy : Tidy monitor.entries) (move : Move now monitor event turn)
    {item : Hash × Registration Watcher} (done : item ∈ completed turn.2) :
    Confirms monitor event item.1 := by
  have within : ∀ {turn : Turn Watcher} {found : Account Watcher}, account turn = found →
      item ∈ completed turn.2 → item ∈ found.completed := by
    rintro turn _ rfl member
    exact member
  cases move with
  | register => cases within (account_register ..) done
  | cancelRegistration => cases within (account_cancelRegistration ..) done
  | cancelPolling => cases within (account_cancelPolling tidy _) done
  | notifyConfirmed =>
    obtain ⟨registration, -, rfl⟩ := List.mem_map.mp (within (account_notifyConfirmed tidy _) done)
    exact .notified
  | @confirmed poller _ _ _ _ found stands included =>
    have completes : item ∈ completed (monitor.complete poller.bundle).2 := done
    obtain ⟨registration, -, rfl⟩ := List.mem_map.mp (within (account_complete tidy _) completes)
    exact .polled found stands included
  | _ => simp [completed, rest, leave] at done

/-! ## No registration is lost -/

theorem waiting_of_entries {other : Monitor Watcher} (same : other.entries = monitor.entries) :
    other.waiting = monitor.waiting := by
  rw [waiting, waiting, same]

theorem waiting_clear (monitor : Monitor Watcher) (bundle : Hash) :
    ((monitor.forget bundle).wake bundle).waiting = (monitor.forget bundle).waiting :=
  waiting_of_entries (entries_wake ..)

/-- What is forgotten of a hash is what was pending for it. -/
theorem waiting_forget_pending (tidy : Tidy monitor.entries) (bundle : Hash) :
    monitor.waiting.Perm
      ((monitor.forget bundle).waiting ++ (monitor.pending bundle).map (bundle, ·)) := by
  cases found : monitor.entries.lookup bundle with
  | none =>
    have others : monitor.forget bundle = monitor := by
      have all : monitor.entries.filter (fun entry => entry.1 ≠ bundle) = monitor.entries := by
        refine List.filter_eq_self.mpr fun entry member => ?_
        have elsewhere := List.lookup_eq_none_iff.mp found entry member
        simpa using fun same : entry.1 = bundle => by simp [same] at elsewhere
      rw [forget, all]
    rw [others, pending_of_unwatched found, List.map_nil, List.append_nil]
  | some present =>
    rw [pending_of_lookup found]
    exact (waiting_forget tidy found).trans List.perm_append_comm

/-- One registration of a hash is cancelled, and the others wait on. -/
theorem waiting_cancelRegistration (tidy : Tidy monitor.entries) (bundle : Hash) (id : Nat) :
    monitor.waiting.Perm ((monitor.cancelRegistration bundle id).1.waiting ++
      ((monitor.pending bundle).filter fun registration => registration.id = id).map
        (bundle, ·)) := by
  cases found : monitor.entries.lookup bundle with
  | none =>
    rw [cancelRegistration_unwatched found, pending_of_unwatched found, List.filter_nil,
      List.map_nil, List.append_nil]
  | some present =>
    have after : (monitor.cancelRegistration bundle id).1.waiting.Perm
        ((monitor.forget bundle).waiting ++
          (present.filter fun registration => registration.id ≠ id).map (bundle, ·)) := by
      rw [cancelRegistration_fst found]
      split
      · next none_left =>
        rw [waiting_clear, List.isEmpty_iff.mp none_left, List.map_nil, List.append_nil]
      · exact (waiting_keep tidy found).trans List.perm_append_comm
    have parts : present.Perm (present.filter (fun registration => registration.id ≠ id) ++
        present.filter fun registration => registration.id = id) := by
      simpa using (List.filter_append_perm (fun registration => registration.id ≠ id) present).symm
    have split := waiting_forget_pending tidy bundle
    rw [pending_of_lookup found] at split ⊢
    refine split.trans (.trans ?_ (after.symm.append_right _))
    rw [List.append_assoc, ← List.map_append]
    exact (parts.map _).append_left _

theorem waiting_complete (tidy : Tidy monitor.entries) (bundle : Hash) :
    monitor.waiting.Perm
      ((monitor.complete bundle).1.waiting ++ (monitor.pending bundle).map (bundle, ·)) := by
  unfold complete
  split
  · next absent => rw [pending_of_unwatched absent, List.map_nil, List.append_nil]
  · rw [waiting_clear]
    exact waiting_forget_pending tidy bundle

theorem waiting_cancelPolling (tidy : Tidy monitor.entries) (bundle : Hash) :
    monitor.waiting.Perm
      ((monitor.cancelPolling bundle).1.waiting ++ (monitor.pending bundle).map (bundle, ·)) := by
  have after : (monitor.cancelPolling bundle).1 = (monitor.forget bundle).wake bundle := by
    unfold cancelPolling
    split <;> rfl
  rw [after, waiting_clear]
  exact waiting_forget_pending tidy bundle

theorem waiting_register (monitor : Monitor Watcher) (bundle : Hash) (watcher : Watcher) :
    (monitor.register bundle watcher).1.waiting.Perm
      (monitor.waiting ++ [(bundle, ⟨monitor.nextId, watcher⟩)]) := by
  rw [waiting, entries_register]
  exact waiting_addPending ..

/-- Every registration that was pending or is made is afterwards pending, completed or removed. -/
theorem Move.accounts (sound : monitor.Sound) (move : Move now monitor event turn) :
    (monitor.waiting ++ made turn.2).Perm
      (turn.1.waiting ++ (completed turn.2 ++ removed turn.2)) := by
  have tidy := sound.tidy
  have same : ∀ {turn : Turn Watcher} {account' : Account Watcher}, account turn = account' →
      made turn.2 = account'.made ∧ completed turn.2 = account'.completed ∧
        removed turn.2 = account'.removed := by
    rintro turn _ rfl
    exact ⟨rfl, rfl, rfl⟩
  cases move with
  | @register bundle watcher =>
    obtain ⟨made, completed, removed⟩ := same (account_register monitor bundle watcher)
    rw [made, completed, removed, List.append_nil, List.append_nil]
    exact (waiting_register monitor bundle watcher).symm
  | @cancelRegistration bundle id =>
    obtain ⟨made, completed, removed⟩ := same (account_cancelRegistration monitor bundle id)
    rw [made, completed, removed, List.append_nil, List.nil_append]
    exact waiting_cancelRegistration tidy bundle id
  | @cancelPolling bundle =>
    obtain ⟨made, completed, removed⟩ := same (account_cancelPolling tidy bundle)
    rw [made, completed, removed, List.append_nil, List.nil_append]
    exact waiting_cancelPolling tidy bundle
  | @notifyConfirmed bundle =>
    obtain ⟨made, completed, removed⟩ := same (account_notifyConfirmed tidy bundle)
    rw [made, completed, removed, List.append_nil, List.append_nil]
    exact waiting_complete tidy bundle
  | @confirmed poller =>
    obtain ⟨made, completed, removed⟩ := same (account_complete tidy poller.bundle)
    have effects : (monitor.confirm poller).2 = (monitor.complete poller.bundle).2 := rfl
    rw [effects, made, completed, removed, List.append_nil, List.append_nil]
    exact waiting_complete tidy poller.bundle
  | _ => simp [made, completed, removed, rest, leave, waiting, place, modifyPoller, unrecord, rouse]

/-- Only a request to cancel removes a registration: by its number, or with all of its hash. -/
theorem Move.removed_inv (tidy : Tidy monitor.entries) (move : Move now monitor event turn)
    {item : Hash × Registration Watcher} (gone : item ∈ removed turn.2) :
    item ∈ monitor.waiting ∧
      (event = .cancelRegistration item.1 item.2.id ∨ event = .cancelPolling item.1) := by
  cases move with
  | @cancelRegistration bundle id =>
    have removed : removed (monitor.cancelRegistration bundle id).2 = _ :=
      congrArg Account.removed (monitor.account_cancelRegistration bundle id)
    rw [removed] at gone
    obtain ⟨registration, member, rfl⟩ := List.mem_map.mp gone
    obtain ⟨pending, number⟩ := List.mem_filter.mp member
    obtain rfl := of_decide_eq_true number
    exact ⟨(mem_waiting tidy).mpr pending, .inl rfl⟩
  | @cancelPolling bundle =>
    have removed : removed (monitor.cancelPolling bundle).2 = _ :=
      congrArg Account.removed (account_cancelPolling tidy bundle)
    rw [removed] at gone
    obtain ⟨registration, pending, rfl⟩ := List.mem_map.mp gone
    exact ⟨(mem_waiting tidy).mpr pending, .inr rfl⟩
  | @register bundle watcher =>
    have removed : removed (monitor.register bundle watcher).2 = [] :=
      congrArg Account.removed (monitor.account_register bundle watcher)
    rw [removed] at gone
    cases gone
  | @notifyConfirmed bundle =>
    have removed : removed (monitor.notifyConfirmed bundle).2 = [] :=
      congrArg Account.removed (account_notifyConfirmed tidy bundle)
    rw [removed] at gone
    cases gone
  | @confirmed poller =>
    have removed : removed (monitor.confirm poller).2 = [] :=
      congrArg Account.removed (account_complete tidy poller.bundle)
    rw [removed] at gone
    cases gone
  | _ => cases gone

end Inclusion.Monitor
