import Inclusion.Config.Monitor
import Inclusion.Client.Call

/-!
# The state of the confirmation monitor

Any number of callers register for the confirmation of a bundle. However many register for one
hash, a single poller asks the nodes about it. A poller outlives the last registration of its hash
until it next looks around, and is adopted by a registration that comes meanwhile; the record of
pollers says which one serves a hash. A poller that retires is no longer recorded, so that while it
is still on its way out a new one may be.

Whom a registration concerns is left open: the monitor only carries it along.
-/

namespace Inclusion

/-- One registration. -/
structure Registration (Watcher : Type) where
  id : Nat
  watcher : Watcher
deriving DecidableEq, Repr

/-- Where a poller stands. -/
inductive PollerPosition where
  | starting
  | asleep (wake : Nat)
  /-- It is awake and has yet to look whether its hash is watched. -/
  | looking
  /-- It asks for the transactions of its bundle. -/
  | finding
  /-- It asks whether one of the transactions is included. -/
  | judging (found : List Hash)
  /-- It has retired and has yet to end. Another poller of its hash may be at work by now. -/
  | leaving
deriving DecidableEq

/-- A poller at work. -/
structure Poller where
  id : Nat
  bundle : Hash
  /-- Somebody has woken it, which it will notice when it next sleeps. -/
  woken : Bool
  position : PollerPosition
deriving DecidableEq

/-- The monitor. -/
structure Monitor (Watcher : Type) where
  config : MonitorConfig
  nextId : Nat := 1
  /-- The pending registrations of each watched hash, in order; no hash occurs twice. -/
  entries : List (Hash × List (Registration Watcher)) := []
  /-- The poller recorded for each hash. -/
  records : List (Hash × Nat) := []
  /-- The pollers at work. -/
  pollers : List Poller := []
  /-- Whether the feed is connected. -/
  pushConnected : Bool := false
deriving DecidableEq

namespace Monitor

variable {Watcher : Type}

/-- The pending registrations of a hash. -/
def pending (monitor : Monitor Watcher) (bundle : Hash) : List (Registration Watcher) :=
  (monitor.entries.lookup bundle).getD []

/-- Whether anybody waits for a hash. -/
def isWatching (monitor : Monitor Watcher) (bundle : Hash) : Bool :=
  (monitor.entries.lookup bundle).isSome

/-- The number of pending registrations of a hash. -/
def registrations (monitor : Monitor Watcher) (bundle : Hash) : Nat :=
  (monitor.pending bundle).length

/-- The number of recorded pollers. -/
def activePollers (monitor : Monitor Watcher) : Nat :=
  monitor.records.length

/-- The poller of a number. -/
def poller? (monitor : Monitor Watcher) (id : Nat) : Option Poller :=
  monitor.pollers.find? fun poller => poller.id = id

/-- Changes the poller of a number. -/
def modifyPoller (monitor : Monitor Watcher) (id : Nat) (change : Poller → Poller) :
    Monitor Watcher :=
  { monitor with
    pollers := monitor.pollers.map fun poller => if poller.id = id then change poller else poller }

/-- Moves the poller of a number. -/
def place (monitor : Monitor Watcher) (id : Nat) (position : PollerPosition) : Monitor Watcher :=
  monitor.modifyPoller id fun poller => { poller with position }

/-- Removes the record of a poller, unless another poller is recorded for its hash. -/
def unrecord (monitor : Monitor Watcher) (poller : Poller) : Monitor Watcher :=
  { monitor with
    records := monitor.records.filter fun record => record ≠ (poller.bundle, poller.id) }

/-- Wakes the poller recorded for a hash. -/
def wake (monitor : Monitor Watcher) (bundle : Hash) : Monitor Watcher :=
  match monitor.records.lookup bundle with
  | some id => monitor.modifyPoller id fun poller => { poller with woken := true }
  | none => monitor

/-- Adds a registration to those of a hash. -/
def addPending (registration : Registration Watcher) (bundle : Hash) :
    List (Hash × List (Registration Watcher)) → List (Hash × List (Registration Watcher))
  | [] => [(bundle, [registration])]
  | (other, present) :: rest =>
    if other = bundle then (other, present ++ [registration]) :: rest
    else (other, present) :: addPending registration bundle rest

/-- Replaces the registrations of a watched hash. -/
def keep (monitor : Monitor Watcher) (bundle : Hash) (kept : List (Registration Watcher)) :
    Monitor Watcher :=
  { monitor with
    entries := monitor.entries.map fun entry =>
      if entry.1 = bundle then (bundle, kept) else entry }

/-- Removes a hash with all its registrations. -/
def forget (monitor : Monitor Watcher) (bundle : Hash) : Monitor Watcher :=
  { monitor with entries := monitor.entries.filter fun entry => entry.1 ≠ bundle }

end Monitor

end Inclusion
