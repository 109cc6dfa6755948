import Inclusion.Proofs.Monitor.Run

/-!
# What pollers ask the nodes

A poller puts one request at a time and waits for its return. In one poll it asks for the
transactions of its hash, and if there are any whether one of them is included; what it asks the
second time is what it was answered the first time. Only a live poller asks.
-/

namespace Inclusion

/-- What a poller asks, and about which hash, if it waits for a node. -/
def Poller.inquiry? (poller : Poller) : Option (Hash × Request) :=
  match poller.position with
  | .finding => some (poller.bundle, .findTransactions [poller.bundle])
  | .judging found => some (poller.bundle, .getInclusionStates found)
  | _ => none

namespace Monitor

variable {Watcher : Type}

/-- What the poller of a number asks. -/
def asking (monitor : Monitor Watcher) (id : Nat) : Option (Hash × Request) :=
  (monitor.poller? id).bind Poller.inquiry?

/-- Whether an event is the return of a call of a poller. -/
def Event.returnsTo (id : Nat) : Event Watcher → Bool
  | pollerAnswered other _ => other = id
  | _ => false

variable {monitor : Monitor Watcher} {now id : Nat} {bundle : Hash} {event : Event Watcher}
  {turn : Turn Watcher} {request : Request}

/-- Only the poller that is changed may ask something else. -/
theorem asking_modifyPoller {change : Poller → Poller} (kept : ∀ poller, (change poller).id =
    poller.id) (monitor : Monitor Watcher) (id other : Nat) :
    (monitor.modifyPoller id change).asking other =
      if other = id then (monitor.poller? other).bind (Poller.inquiry? ∘ change)
      else monitor.asking other := by
  rw [asking, poller?_modifyPoller kept, asking]
  split
  · rw [Option.bind_map]
  · rfl

theorem Trimmed.asking {after : Monitor Watcher} (trimmed : Trimmed monitor bundle after) :
    after.asking = monitor.asking := by
  funext id
  obtain ⟨heard, there⟩ := trimmed.poller? id
  rw [Monitor.asking, there, Option.bind_map, Monitor.asking]
  rfl

/-- What a poller asks after it was placed. -/
theorem asking_place {poller : Poller} (found : monitor.poller? poller.id = some poller)
    (position : PollerPosition) (id : Nat) :
    (monitor.place poller.id position).asking id =
      if id = poller.id then { poller with position }.inquiry? else monitor.asking id := by
  rw [place, asking_modifyPoller (by simp)]
  split
  · next own => rw [own, found]; rfl
  · rfl

/-- A new poller asks nothing yet. -/
theorem asking_register (monitor : Monitor Watcher) (bundle : Hash) (watcher : Watcher) :
    (monitor.register bundle watcher).1.asking = monitor.asking := by
  funext id
  rw [asking, asking]
  obtain same | ⟨-, absent, new⟩ := poller?_register monitor bundle watcher id
  · rw [same]
  · rw [absent, new]
    rfl

/-- A poller that has ended asks nothing. -/
theorem asking_leave {poller : Poller} (found : monitor.poller? poller.id = some poller)
    (stands : poller.position = .leaving) : (monitor.leave poller).1.asking = monitor.asking := by
  funext id
  rw [asking, poller?_leave, asking]
  split
  · next own =>
    rw [own, found]
    simp [Poller.inquiry?, stands]
  · rfl

/-- A poller that waits for no node before or after it is placed asks nothing new. -/
theorem asking_place_idle {poller : Poller} {position : PollerPosition}
    (found : monitor.poller? poller.id = some poller) (before : poller.inquiry? = none)
    (after : { poller with position }.inquiry? = none) :
    (monitor.place poller.id position).asking = monitor.asking := by
  funext id
  rw [asking_place found]
  split
  · next own => rw [own, asking, found, after, Option.bind_some, before]
  · rfl

@[simp] theorem queries_single (id other : Nat) (request : Request) :
    queries id [(.query other request : Effect Watcher)] =
      if other = id then [request] else [] := by
  by_cases own : other = id <;> simp [queries, own]

/-- What callers do asks the nodes nothing. -/
theorem queries_register (monitor : Monitor Watcher) (bundle : Hash) (watcher : Watcher) :
    queries id (monitor.register bundle watcher).2 = [] := by
  unfold register
  split <;> rfl

theorem queries_cancelRegistration (monitor : Monitor Watcher) (bundle : Hash) (number : Nat) :
    queries id (monitor.cancelRegistration bundle number).2 = [] := by
  unfold cancelRegistration
  split
  · rfl
  · simp only
    split <;> rfl

theorem queries_cancelPolling (monitor : Monitor Watcher) (bundle : Hash) :
    queries id (monitor.cancelPolling bundle).2 = [] := by
  unfold cancelPolling
  split <;> rfl

theorem queries_complete (monitor : Monitor Watcher) (bundle : Hash) :
    queries id (monitor.complete bundle).2 = [] := by
  unfold complete
  split <;> rfl

theorem queries_notifyConfirmed (monitor : Monitor Watcher) (bundle : Hash) :
    queries id (monitor.notifyConfirmed bundle).2 = [] := by
  rw [notifyConfirmed, queries_append, queries_complete]
  rfl

/-- A poller that puts no new request goes on asking what it has asked, unless that has returned. -/
theorem Move.asking_kept (move : Move now monitor event turn) (silent : queries id turn.2 = []) :
    turn.1.asking id = if event.returnsTo id then none else monitor.asking id := by
  -- Most steps change nothing for anybody.
  have same : turn.1.asking = monitor.asking → event.returnsTo id = false →
      turn.1.asking id = if event.returnsTo id then none else monitor.asking id := by
    intro asks unreturned
    rw [asks, unreturned]
    rfl
  cases move with
  | register => exact same (asking_register ..) rfl
  | cancelRegistration => exact same (trimmed_cancelRegistration ..).asking rfl
  | cancelPolling => exact same (trimmed_cancelPolling ..).asking rfl
  | notifyConfirmed => exact same (trimmed_complete ..).asking rfl
  | feedChanged => exact same rfl rfl
  | entered found stands | elapsed found stands =>
    exact same (asking_place_idle found (by simp [Poller.inquiry?, stands]) rfl) rfl
  | @roused poller wake found stands =>
    refine same ?_ rfl
    funext other
    rw [rouse, asking_modifyPoller (by simp)]
    split
    · next own => rw [own, asking, found]; simp [Poller.inquiry?, stands]
    · rfl
  | @asked poller found | @known poller _ _ _ found =>
    have other : poller.id ≠ id := fun own => by simp [queries_single, own] at silent
    rw [asking_place found, if_neg (Ne.symm other)]
    simp [Event.returnsTo, other]
  | retired found stands =>
    exact same (@asking_place_idle _ (monitor.unrecord _) _ _ found
      (by simp [Poller.inquiry?, stands]) rfl) rfl
  | left found stands => exact same (asking_leave found stands) rfl
  | @failed poller _ found | @unknown poller _ _ found | @unconfirmed poller _ _ _ _ found =>
    rw [rest, asking_place found]
    by_cases own : poller.id = id
    · simp [Event.returnsTo, own, Poller.inquiry?]
    · simp [Event.returnsTo, own, Ne.symm own]
  | @confirmed poller _ _ _ _ found =>
    have trimmed := trimmed_complete monitor poller.bundle
    obtain ⟨heard, there⟩ := trimmed.poller? poller.id
    rw [found] at there
    rw [confirm, @asking_place _ _ { poller with woken := poller.woken || heard } there,
      trimmed.asking]
    by_cases own : poller.id = id
    · simp [Event.returnsTo, own, Poller.inquiry?]
    · simp [Event.returnsTo, own, Ne.symm own]

/-- A poller asks when it has looked around, and once more when it has found transactions. -/
theorem Move.queries_inv (move : Move now monitor event turn) {id : Nat}
    (asks : request ∈ queries id turn.2) :
    ∃ poller, monitor.poller? id = some poller ∧ poller.isLive = true ∧
      turn.2 = [.query id request] ∧ turn.1.asking id = some (poller.bundle, request) ∧
      ((event = .pollerLooked id ∧ poller.position = .looking ∧
          request = .findTransactions [poller.bundle]) ∨
        ∃ found endpoint elapsed, found ≠ [] ∧ poller.position = .finding ∧
          event = .pollerAnswered id (.answered ⟨.hashes found, endpoint, elapsed⟩) ∧
          request = .getInclusionStates found) := by
  cases move with
  | register => simp [queries_register] at asks
  | cancelRegistration => simp [queries_cancelRegistration] at asks
  | cancelPolling => simp [queries_cancelPolling] at asks
  | notifyConfirmed => simp [queries_notifyConfirmed] at asks
  | confirmed => simp [confirm, queries_complete] at asks
  | @asked poller found stands =>
    obtain ⟨rfl, rfl⟩ : poller.id = id ∧ request = .findTransactions [poller.bundle] := by
      simpa using asks
    have placed : (monitor.place poller.id .finding).asking poller.id =
        some (poller.bundle, .findTransactions [poller.bundle]) := by
      rw [asking_place found, if_pos rfl]
      rfl
    exact ⟨poller, found, by simp [Poller.isLive, stands], rfl, placed, .inl ⟨rfl, stands, rfl⟩⟩
  | @known poller hashes endpoint elapsed found stands nonempty =>
    obtain ⟨rfl, rfl⟩ : poller.id = id ∧ request = .getInclusionStates hashes := by
      simpa using asks
    have placed : (monitor.place poller.id (.judging hashes)).asking poller.id =
        some (poller.bundle, .getInclusionStates hashes) := by
      rw [asking_place found, if_pos rfl]
      rfl
    exact ⟨poller, found, by simp [Poller.isLive, stands], rfl, placed,
      .inr ⟨hashes, endpoint, elapsed, nonempty, stands, rfl, rfl⟩⟩
  | _ => simp [queries, rest, leave] at asks

/-- In a run in which a poller puts no request and hears of none, it goes on asking what it has
asked. -/
theorem Run.asking_kept {start final : Monitor Watcher} {entries : List (Entry Watcher)}
    (run : Run start entries final) (silent : queries id (seen entries) = [])
    (unreturned : ∀ entry ∈ entries, entry.event.returnsTo id = false) :
    final.asking id = start.asking id := by
  induction run with
  | refl => rfl
  | @step entries monitor now event next effects prior move inductionHypothesis =>
    rw [seen_append, seen_single, queries_append, List.append_eq_nil_iff] at silent
    have before := inductionHypothesis silent.1 fun entry member =>
      unreturned entry (List.mem_append_left _ member)
    have last : event.returnsTo id = false :=
      unreturned _ (List.mem_append_right _ (List.mem_singleton_self _))
    rw [← before, move.asking_kept silent.2, last]
    rfl

end Monitor

end Inclusion
