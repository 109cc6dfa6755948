import Inclusion.Proofs.Monitor.Registry

/-!
# The rules by which a monitor moves

`Monitor.step` is authoritative; `Move` lists the same steps as rules, one for each way in which
something can happen, with what must hold before it. The two agree by `step_eq_some_iff`.

What a step asks for and lets be seen is read off its effects: which registrations are made,
completed or removed, and what pollers ask the nodes.
-/

namespace Inclusion.Monitor

variable {Watcher : Type}

/-- A step of a monitor: what happens, to which poller, and what the monitor is afterwards. -/
inductive Move (now : Nat) (monitor : Monitor Watcher) : Event Watcher → Turn Watcher → Prop where
  | register {bundle watcher} :
      Move now monitor (.register bundle watcher) (monitor.register bundle watcher)
  | cancelRegistration {bundle id} :
      Move now monitor (.cancelRegistration bundle id) (monitor.cancelRegistration bundle id)
  | cancelPolling {bundle} : Move now monitor (.cancelPolling bundle) (monitor.cancelPolling bundle)
  | notifyConfirmed {bundle} :
      Move now monitor (.notifyConfirmed bundle) (monitor.notifyConfirmed bundle)
  | feedChanged {connected} :
      Move now monitor (.feedChanged connected) ({ monitor with pushConnected := connected }, [])
  | entered {poller} (found : monitor.poller? poller.id = some poller)
      (stands : poller.position = .starting) :
      Move now monitor (.pollerEntered poller.id) (monitor.rest now poller)
  | elapsed {poller wake} (found : monitor.poller? poller.id = some poller)
      (stands : poller.position = .asleep wake) (due : wake ≤ now) :
      Move now monitor (.pollerElapsed poller.id) (monitor.place poller.id .looking, [])
  | roused {poller wake} (found : monitor.poller? poller.id = some poller)
      (stands : poller.position = .asleep wake) (woken : poller.woken = true) :
      Move now monitor (.pollerWoken poller.id) (monitor.rouse poller.id, [])
  | asked {poller} (found : monitor.poller? poller.id = some poller)
      (stands : poller.position = .looking) (watched : monitor.isWatching poller.bundle = true) :
      Move now monitor (.pollerLooked poller.id)
        (monitor.place poller.id .finding, [.query poller.id (.findTransactions [poller.bundle])])
  | retired {poller} (found : monitor.poller? poller.id = some poller)
      (stands : poller.position = .looking) (unwatched : monitor.isWatching poller.bundle = false) :
      Move now monitor (.pollerLooked poller.id)
        ((monitor.unrecord poller).place poller.id .leaving, [])
  | left {poller} (found : monitor.poller? poller.id = some poller)
      (stands : poller.position = .leaving) :
      Move now monitor (.pollerLeft poller.id) (monitor.leave poller)
  | failed {poller cause} (found : monitor.poller? poller.id = some poller)
      (stands : poller.position = .finding ∨ ∃ found, poller.position = .judging found) :
      Move now monitor (.pollerAnswered poller.id (.failed cause)) (monitor.rest now poller)
  | unknown {poller endpoint elapsed} (found : monitor.poller? poller.id = some poller)
      (stands : poller.position = .finding) :
      Move now monitor (.pollerAnswered poller.id (.answered ⟨.hashes [], endpoint, elapsed⟩))
        (monitor.rest now poller)
  | known {poller hashes endpoint elapsed} (found : monitor.poller? poller.id = some poller)
      (stands : poller.position = .finding) (nonempty : hashes ≠ []) :
      Move now monitor (.pollerAnswered poller.id (.answered ⟨.hashes hashes, endpoint, elapsed⟩))
        (monitor.place poller.id (.judging hashes),
          [.query poller.id (.getInclusionStates hashes)])
  | unconfirmed {poller hashes flags endpoint elapsed}
      (found : monitor.poller? poller.id = some poller) (stands : poller.position = .judging hashes)
      (excluded : true ∉ flags) :
      Move now monitor (.pollerAnswered poller.id (.answered ⟨.flags flags, endpoint, elapsed⟩))
        (monitor.rest now poller)
  | confirmed {poller hashes flags endpoint elapsed}
      (found : monitor.poller? poller.id = some poller) (stands : poller.position = .judging hashes)
      (included : true ∈ flags) :
      Move now monitor (.pollerAnswered poller.id (.answered ⟨.flags flags, endpoint, elapsed⟩))
        (monitor.confirm poller)

variable {monitor : Monitor Watcher} {now id : Nat} {poller : Poller} {event : Event Watcher}
  {turn : Turn Watcher}

/-- A poller is found by its number. -/
theorem poller?_eq_some (found : monitor.poller? id = some poller) :
    poller.id = id ∧ poller ∈ monitor.pollers :=
  ⟨by simpa using List.find?_some found, List.mem_of_find?_eq_some found⟩

/-- The rules of a poller cover the return of its call. -/
theorem move_of_advance {verdict : Verdict} (found : monitor.poller? poller.id = some poller)
    (advanced : monitor.advance now poller verdict = some turn) :
    Move now monitor (.pollerAnswered poller.id verdict) turn := by
  cases verdict with
  | failed cause =>
    cases stands : poller.position <;>
      simp only [advance, stands, Option.some.injEq, reduceCtorEq] at advanced
    case finding => exact advanced ▸ .failed found (.inl stands)
    case judging => exact advanced ▸ .failed found (.inr ⟨_, stands⟩)
  | answered answer =>
    obtain ⟨value, endpoint, elapsed⟩ := answer
    cases stands : poller.position <;> cases value <;>
      simp only [advance, stands, reduceCtorEq] at advanced
    case finding.hashes hashes =>
      cases hashes with
      | nil => exact Option.some.inj advanced ▸ .unknown found stands
      | cons first rest => exact Option.some.inj advanced ▸ .known found stands (by simp)
    case judging.flags hashes flags =>
      by_cases included : true ∈ flags
      · have any : flags.any (fun flag => flag) = true := by simpa using included
        exact Option.some.inj ((if_pos any).symm.trans advanced) ▸ .confirmed found stands included
      · have any : ¬flags.any (fun flag => flag) = true := by simpa using included
        exact Option.some.inj ((if_neg any).symm.trans advanced) ▸
          .unconfirmed found stands included

/-- The rules are the steps. -/
theorem step_eq_some_iff : monitor.step now event = some turn ↔ Move now monitor event turn := by
  constructor
  · intro moved
    cases event with
    | register => exact Option.some.inj moved ▸ .register
    | cancelRegistration => exact Option.some.inj moved ▸ .cancelRegistration
    | cancelPolling => exact Option.some.inj moved ▸ .cancelPolling
    | notifyConfirmed => exact Option.some.inj moved ▸ .notifyConfirmed
    | feedChanged => exact Option.some.inj moved ▸ .feedChanged
    | pollerEntered id =>
      obtain ⟨poller, found, moved⟩ := Option.bind_eq_some_iff.mp moved
      obtain ⟨stands, ⟨⟩⟩ := Option.ite_none_right_eq_some.mp moved
      obtain ⟨rfl, -⟩ := poller?_eq_some found
      exact .entered found stands
    | pollerElapsed id =>
      obtain ⟨poller, found, moved⟩ := Option.bind_eq_some_iff.mp moved
      obtain ⟨rfl, -⟩ := poller?_eq_some found
      split at moved
      · next stands =>
        obtain ⟨due, ⟨⟩⟩ := Option.ite_none_right_eq_some.mp moved
        exact .elapsed found stands due
      · cases moved
    | pollerWoken id =>
      obtain ⟨poller, found, moved⟩ := Option.bind_eq_some_iff.mp moved
      obtain ⟨rfl, -⟩ := poller?_eq_some found
      split at moved
      · next stands =>
        obtain ⟨woken, ⟨⟩⟩ := Option.ite_none_right_eq_some.mp moved
        exact .roused found stands woken
      · cases moved
    | pollerLooked id =>
      obtain ⟨poller, found, moved⟩ := Option.bind_eq_some_iff.mp moved
      obtain ⟨stands, ⟨⟩⟩ := Option.ite_none_right_eq_some.mp moved
      obtain ⟨rfl, -⟩ := poller?_eq_some found
      by_cases watched : monitor.isWatching poller.bundle = true
      · simpa [lookAround, watched] using Move.asked found stands watched
      · simpa [lookAround, watched] using Move.retired found stands (eq_false_of_ne_true watched)
    | pollerLeft id =>
      obtain ⟨poller, found, moved⟩ := Option.bind_eq_some_iff.mp moved
      obtain ⟨stands, ⟨⟩⟩ := Option.ite_none_right_eq_some.mp moved
      obtain ⟨rfl, -⟩ := poller?_eq_some found
      exact .left found stands
    | pollerAnswered id verdict =>
      obtain ⟨poller, found, advanced⟩ := Option.bind_eq_some_iff.mp moved
      obtain ⟨rfl, -⟩ := poller?_eq_some found
      exact move_of_advance found advanced
  · intro move
    cases move with
    | register | cancelRegistration | cancelPolling | notifyConfirmed | feedChanged => rfl
    | entered found stands | left found stands => simp [step, found, stands]
    | elapsed found stands due | roused found stands due => simp [step, found, stands, due]
    | asked found stands watched | retired found stands watched =>
      simp [step, found, stands, lookAround, watched]
    | failed found stands =>
      rcases stands with stands | ⟨_, stands⟩ <;> simp [step, found, advance, stands]
    | unknown found stands => simp [step, found, advance, stands]
    | known found stands nonempty => simp [step, found, advance, stands, nonempty]
    | unconfirmed found stands excluded => simp [step, found, advance, stands, excluded]
    | confirmed found stands included => simp [step, found, advance, stands, included]

/-! ## What is seen of a step -/

/-- The registrations that are made, with their hashes. -/
def made (effects : List (Effect Watcher)) : List (Hash × Registration Watcher) :=
  effects.filterMap fun
    | .registered bundle registration => some (bundle, registration)
    | _ => none

/-- The registrations that are completed. -/
def completed (effects : List (Effect Watcher)) : List (Hash × Registration Watcher) :=
  effects.flatMap fun
    | .completed bundle registrations => registrations.map (bundle, ·)
    | _ => []

/-- The registrations that are removed. -/
def removed (effects : List (Effect Watcher)) : List (Hash × Registration Watcher) :=
  effects.flatMap fun
    | .removed bundle registrations => registrations.map (bundle, ·)
    | _ => []

/-- The requests that a poller puts to the nodes. -/
def queries (id : Nat) (effects : List (Effect Watcher)) : List Request :=
  effects.filterMap fun
    | .query other request => if other = id then some request else none
    | _ => none

@[simp] theorem made_append (first second : List (Effect Watcher)) :
    made (first ++ second) = made first ++ made second :=
  List.filterMap_append

@[simp] theorem completed_append (first second : List (Effect Watcher)) :
    completed (first ++ second) = completed first ++ completed second :=
  List.flatMap_append

@[simp] theorem removed_append (first second : List (Effect Watcher)) :
    removed (first ++ second) = removed first ++ removed second :=
  List.flatMap_append

@[simp] theorem queries_append (id : Nat) (first second : List (Effect Watcher)) :
    queries id (first ++ second) = queries id first ++ queries id second :=
  List.filterMap_append

end Inclusion.Monitor
