import Inclusion.Monitor.State

/-!
# The steps of the confirmation monitor

Callers register, cancel and notify; pollers begin, wake up and get answers. `Monitor.step` says
what each of these does to the monitor, if it can happen now, and what it brings about.

A poller that has slept looks around: it asks the nodes if its hash is watched at that moment, and
retires if it is not. After a confirmation it looks around again at once, for whoever registered
meanwhile. Anything may happen between one of its steps and the next.
-/

namespace Inclusion.Monitor

variable {Watcher : Type}

/-- What can happen to a monitor. -/
inductive Event (Watcher : Type) where
  | register (bundle : Hash) (watcher : Watcher)
  | cancelRegistration (bundle : Hash) (id : Nat)
  | cancelPolling (bundle : Hash)
  | notifyConfirmed (bundle : Hash)
  | feedChanged (connected : Bool)
  /-- A poller begins. -/
  | pollerEntered (id : Nat)
  /-- A poller has slept long enough. -/
  | pollerElapsed (id : Nat)
  /-- A poller notices that it was woken. -/
  | pollerWoken (id : Nat)
  /-- A poller that is awake looks around. -/
  | pollerLooked (id : Nat)
  /-- A poller that has retired ends. -/
  | pollerLeft (id : Nat)
  /-- The node call of a poller has returned. -/
  | pollerAnswered (id : Nat) (verdict : Verdict)
deriving DecidableEq

/-- What a monitor asks for or lets be seen. -/
inductive Effect (Watcher : Type) where
  | registered (bundle : Hash) (registration : Registration Watcher)
  /-- The registrations of a hash are completed; what they are for is to be done. -/
  | completed (bundle : Hash) (registrations : List (Registration Watcher))
  /-- Registrations are removed without being completed. -/
  | removed (bundle : Hash) (registrations : List (Registration Watcher))
  /-- Whether a caller's request found anything to do. -/
  | answered (found : Bool)
  /-- A poller calls the nodes. -/
  | query (poller : Nat) (request : Request)
  /-- The stopwatch of a confirmed bundle is to be stopped. -/
  | stopWatch (bundle : Hash)
  | pollerStarted (id : Nat) (bundle : Hash)
  | pollerEnded (id : Nat) (bundle : Hash)
deriving DecidableEq

/-- A monitor after a step, and what it asked for. -/
abbrev Turn (Watcher : Type) := Monitor Watcher × List (Effect Watcher)

/-- Registers a watcher; a hash without a recorded poller gets one, which takes the number of the
registration. -/
def register (monitor : Monitor Watcher) (bundle : Hash) (watcher : Watcher) : Turn Watcher :=
  let id := monitor.nextId
  let entered := { monitor with
    nextId := id + 1
    entries := addPending ⟨id, watcher⟩ bundle monitor.entries }
  match monitor.records.lookup bundle with
  | some _ => (entered, [.registered bundle ⟨id, watcher⟩])
  | none =>
    ({ entered with
        records := entered.records ++ [(bundle, id)]
        pollers := entered.pollers ++ [⟨id, bundle, false, .starting⟩] },
      [.registered bundle ⟨id, watcher⟩, .pollerStarted id bundle])

/-- Removes one registration. The poller is woken when it was the last of its hash. -/
def cancelRegistration (monitor : Monitor Watcher) (bundle : Hash) (id : Nat) : Turn Watcher :=
  match monitor.entries.lookup bundle with
  | none => (monitor, [.answered false])
  | some present =>
    let kept := present.filter fun registration => registration.id ≠ id
    let gone := present.filter fun registration => registration.id = id
    let after :=
      if kept.isEmpty then (monitor.forget bundle).wake bundle else monitor.keep bundle kept
    if gone.isEmpty then (after, [.answered false])
    else (after, [.removed bundle gone, .answered true])

/-- Removes all registrations of a hash and wakes its poller, watched or not. -/
def cancelPolling (monitor : Monitor Watcher) (bundle : Hash) : Turn Watcher :=
  let after := (monitor.forget bundle).wake bundle
  match monitor.entries.lookup bundle with
  | none => (after, [.answered false])
  | some present => (after, [.removed bundle present, .answered true])

/-- Completes all registrations of a hash, wakes its poller, and stops the bundle's stopwatch. On a
hash that nobody watches nothing happens. -/
def complete (monitor : Monitor Watcher) (bundle : Hash) : Turn Watcher :=
  match monitor.entries.lookup bundle with
  | none => (monitor, [])
  | some present =>
    ((monitor.forget bundle).wake bundle, [.completed bundle present, .stopWatch bundle])

/-- Completes a hash on somebody's word. -/
def notifyConfirmed (monitor : Monitor Watcher) (bundle : Hash) : Turn Watcher :=
  let (after, effects) := monitor.complete bundle
  (after, effects ++ [.answered (monitor.isWatching bundle)])

/-! ## Pollers -/

/-- A poller goes to sleep. How long is settled now, whatever becomes of the feed meanwhile. -/
def rest (monitor : Monitor Watcher) (now : Nat) (poller : Poller) : Turn Watcher :=
  let interval := (monitor.config.pollInterval monitor.pushConnected).nanoseconds
  (monitor.place poller.id (.asleep (Clock.waitUntil now interval)), [])

/-- A poller that was woken gets up. -/
def rouse (monitor : Monitor Watcher) (id : Nat) : Monitor Watcher :=
  monitor.modifyPoller id fun poller => { poller with woken := false, position := .looking }

/-- A poller that looks around asks the nodes if its hash is watched, and retires otherwise. -/
def lookAround (monitor : Monitor Watcher) (poller : Poller) : Turn Watcher :=
  if monitor.isWatching poller.bundle then
    (monitor.place poller.id .finding, [.query poller.id (.findTransactions [poller.bundle])])
  else ((monitor.unrecord poller).place poller.id .leaving, [])

/-- A poller ends. It would not leave a record behind, however it came to end. -/
def leave (monitor : Monitor Watcher) (poller : Poller) : Turn Watcher :=
  ({ monitor.unrecord poller with
      pollers := monitor.pollers.filter fun other => other.id ≠ poller.id },
    [.pollerEnded poller.id poller.bundle])

/-- A poller confirms its hash, and is to look around at once. -/
def confirm (monitor : Monitor Watcher) (poller : Poller) : Turn Watcher :=
  let (completed, effects) := monitor.complete poller.bundle
  (completed.place poller.id .looking, effects)

/-- A poller after its node call has returned. A bundle is confirmed if it has transactions and
one of them is included. A reply of the wrong kind cannot be returned. -/
def advance (monitor : Monitor Watcher) (now : Nat) (poller : Poller) (verdict : Verdict) :
    Option (Turn Watcher) :=
  match poller.position, verdict with
  | .finding, .failed _ => some (monitor.rest now poller)
  | .judging _, .failed _ => some (monitor.rest now poller)
  | .finding, .answered ⟨.hashes found, _, _⟩ =>
    if found.isEmpty then some (monitor.rest now poller)
    else
      some (monitor.place poller.id (.judging found),
        [.query poller.id (.getInclusionStates found)])
  | .judging _, .answered ⟨.flags flags, _, _⟩ =>
    if flags.any id then some (monitor.confirm poller) else some (monitor.rest now poller)
  | _, _ => none

/-- What an event makes of a monitor, if it can happen. -/
def step (now : Nat) (monitor : Monitor Watcher) : Event Watcher → Option (Turn Watcher)
  | .register bundle watcher => some (monitor.register bundle watcher)
  | .cancelRegistration bundle id => some (monitor.cancelRegistration bundle id)
  | .cancelPolling bundle => some (monitor.cancelPolling bundle)
  | .notifyConfirmed bundle => some (monitor.notifyConfirmed bundle)
  | .feedChanged connected => some ({ monitor with pushConnected := connected }, [])
  | .pollerEntered id =>
    (monitor.poller? id).bind fun poller =>
      if poller.position = .starting then some (monitor.rest now poller) else none
  | .pollerElapsed id =>
    (monitor.poller? id).bind fun poller =>
      match poller.position with
      | .asleep wake => if wake ≤ now then some (monitor.place id .looking, []) else none
      | _ => none
  | .pollerWoken id =>
    (monitor.poller? id).bind fun poller =>
      match poller.position with
      | .asleep _ => if poller.woken then some (monitor.rouse id, []) else none
      | _ => none
  | .pollerLooked id =>
    (monitor.poller? id).bind fun poller =>
      if poller.position = .looking then some (monitor.lookAround poller) else none
  | .pollerLeft id =>
    (monitor.poller? id).bind fun poller =>
      if poller.position = .leaving then some (monitor.leave poller) else none
  | .pollerAnswered id verdict =>
    (monitor.poller? id).bind fun poller => monitor.advance now poller verdict

/-- The events that a poller brings about by itself. -/
def ownEvents (poller : Poller) : List (Event Watcher) :=
  [.pollerEntered poller.id, .pollerWoken poller.id, .pollerElapsed poller.id,
    .pollerLooked poller.id, .pollerLeft poller.id]

/-- The first event that the pollers of a monitor can bring about now. -/
def nextEvent? (now : Nat) (monitor : Monitor Watcher) : Option (Event Watcher) :=
  (monitor.pollers.flatMap ownEvents).find? fun event => (monitor.step now event).isSome

/-- The times at which pollers wake up. -/
def deadlines (monitor : Monitor Watcher) : List Nat :=
  monitor.pollers.filterMap fun poller =>
    match poller.position with
    | .asleep wake => some wake
    | _ => none

end Inclusion.Monitor
