import Inclusion.Task.Lock
import Inclusion.Task.Error
import Inclusion.Clock
import Inclusion.Config.Confirmer
import Inclusion.Update
import Inclusion.Transaction.Tail

/-!
# The state of a confirmation task

What a task knows about its bundle, and where each of its loops stands. A loop stands at a named
point where it waits for something: for a moment in time, for the lock, for a node, or for the
consumer of its updates. Times are nanoseconds of one clock.
-/

namespace Inclusion

/-- Whether a task is at work, or why it is not. -/
inductive Phase where
  | running
  | confirmed
  | cancelled
deriving DecidableEq, Repr

/-- The two ways to help a bundle along. -/
inductive AttemptKind where
  /-- Attach a new transaction that refers to the bundle. -/
  | promotion
  /-- Attach the bundle once more, elsewhere. -/
  | reattachment
deriving DecidableEq, Repr

/-- The loop that makes attempts of a kind. -/
def AttemptKind.party : AttemptKind → Party
  | promotion => .promoter
  | reattachment => .reattacher

/-- The update that reports a successful attempt. -/
def AttemptKind.updateKind : AttemptKind → UpdateKind
  | promotion => .promote
  | reattachment => .reattach

/-- Why a loop that makes attempts sleeps. -/
inductive Pause where
  /-- Until it looks again whether an attempt is due. -/
  | tick
  /-- Because its last attempt failed. -/
  | backoff
deriving DecidableEq, Repr

/-- Which node call of an attempt is under way, with what later calls need. -/
inductive Stage where
  /-- The trytes of a promotion are being prepared. -/
  | preparing
  /-- Tips are being selected for the given trytes. -/
  | selecting (payload : List String)
  /-- The trytes are being attached. -/
  | attaching
  /-- The attached trytes, which have the given tail, are being broadcast. -/
  | broadcasting (attached : List String) (tail : Transaction)
deriving DecidableEq

/-- Where a loop that makes attempts stands. -/
inductive Attempter where
  | starting
  | sleeping (pause : Pause) (wake : Nat)
  /-- It has asked for the lock, to see whether an attempt is due. -/
  | queued
  | attempting (stage : Stage)
  /-- It waits, with the lock, until the consumer has room for an update. -/
  | sending (update : Update) (failed : Bool) (deadline : Nat)
  | done
deriving DecidableEq

/-- Where the loop that checks the tail stands. -/
inductive Checker where
  | starting
  /-- It has asked for the lock, to see which tail to check. -/
  | queued
  | asking (tail : Hash)
  /-- It has asked for the lock, to report what a node said about a tail. -/
  | reporting (tail : Hash) (promotable : Bool)
  | sleeping (wake : Nat)
  | done
deriving DecidableEq

/-- What became of the supervisor's registration with the monitor. -/
inductive Signal where
  /-- The bundle is confirmed. -/
  | fired
  /-- Somebody removed the registration. -/
  | dropped
deriving DecidableEq, Repr

/-- Where the supervisor stands. -/
inductive Supervisor where
  | starting
  /-- It is registered with the monitor. -/
  | watching (ticket : Nat) (signal : Option Signal)
  /-- It has asked for the lock, to confirm. -/
  | queuedToConfirm
  /-- It waits, with the lock, until the consumer has room for the last update. -/
  | announcing (update : Update) (deadline : Nat)
  /-- It has stopped the loops and asked for the lock, to cancel. -/
  | queuedToCancel
  /-- It waits for the other loops to end. -/
  | joining
  | done
deriving DecidableEq

/-- The way of updates to the consumer, with room for a single one. -/
structure Outbox where
  slot : Option Update := none
  /-- Whether there is still a consumer. -/
  receiving : Bool := true
deriving DecidableEq

/-- What does not change during a task. -/
structure Setup where
  bundle : Hash
  promoteAddress : Hash
  config : ConfirmerConfig
  /-- The nanoseconds after which the bundle is reattached in any case. -/
  forceReattachAfter : Nat
deriving DecidableEq

/-- A confirmation task. -/
structure Task where
  setup : Setup
  phase : Phase
  currentTail : Hash
  currentTrytes : List String
  /-- No promotion is attempted before this time. -/
  nextPromotion : Nat
  /-- After this time a reattachment is attempted in any case. -/
  nextForcedReattachment : Nat
  /-- The last word of the nodes on the current tail. -/
  notPromotable : Bool
  attaches : Nat
  promotions : Nat
  attachTime : Nat
  tipSelectionTime : Nat
  lock : Lock
  /-- Tells the three working loops to end. -/
  stop : Bool
  /-- Tells the supervisor to end the task. -/
  cancel : Bool
  outbox : Outbox
  checker : Checker
  promoter : Attempter
  reattacher : Attempter
  supervisor : Supervisor
deriving DecidableEq

namespace Setup

/-- How long a loop that makes attempts sleeps. -/
def pauseLength (setup : Setup) (kind : AttemptKind) : Pause → Nat
  | .tick =>
    match kind with
    | .promotion => setup.config.promoteTick.nanoseconds
    | .reattachment => setup.config.reattachTick.nanoseconds
  | .backoff => setup.config.errorBackoff.nanoseconds

/-- How long an update waits for the consumer. -/
def sendTimeout (setup : Setup) : Nat :=
  setup.config.updateSendTimeout.nanoseconds

/-- The transfer of a promotion: nothing, sent to the address of promotions. -/
def promotionTransfer (setup : Setup) : Transfer :=
  ⟨setup.promoteAddress, 0, setup.config.promoteTag, ""⟩

end Setup

namespace Task

/-- A task as it is started, with the given tail and the time of its first forced reattachment. -/
def start (setup : Setup) (tail : Transaction) (trytes : List String) (now forced : Nat) :
    Task where
  setup
  phase := .running
  currentTail := tail.hash
  currentTrytes := trytes
  nextPromotion := now
  nextForcedReattachment := forced
  notPromotable := false
  attaches := 0
  promotions := 0
  attachTime := 0
  tipSelectionTime := 0
  lock := {}
  stop := false
  cancel := false
  outbox := {}
  checker := .starting
  promoter := .starting
  reattacher := .starting
  supervisor := .starting

/-- Where the loop that makes attempts of a kind stands. -/
def attempter (task : Task) : AttemptKind → Attempter
  | .promotion => task.promoter
  | .reattachment => task.reattacher

/-- Moves the loop that makes attempts of a kind. -/
def place (task : Task) (kind : AttemptKind) (position : Attempter) : Task :=
  match kind with
  | .promotion => { task with promoter := position }
  | .reattachment => { task with reattacher := position }

/-- An update on the present figures. -/
def report (task : Task) (kind : UpdateKind) (error : Option String) : Update where
  attaches := task.attaches
  promotions := task.promotions
  attachTime := task.attachTime
  tipSelectionTime := task.tipSelectionTime
  kind
  error

/-- Whether an attempt of a kind is due. -/
def isDue (task : Task) (now : Nat) : AttemptKind → Bool
  | .promotion => !task.notPromotable && task.nextPromotion ≤ now
  | .reattachment => task.notPromotable || task.nextForcedReattachment < now

/-- Whether the three working loops have ended. -/
def workersDone (task : Task) : Bool :=
  task.checker = .done && task.promoter = .done && task.reattacher = .done

/-- Whether all four loops have ended, which is when the consumer sees the end of the updates. -/
def isOver (task : Task) : Bool :=
  task.supervisor = .done

end Task

end Inclusion
