/-!
# The lock of a task

A task is one bundle and four loops that look after it: one checks whether its tail can be
promoted, one promotes, one reattaches, and one supervises the others. They share the state of the
task under a lock that is handed on in the order in which it was asked for. A loop that gives the
lock back while others wait hands it over directly, so nobody can slip in between.
-/

namespace Inclusion

/-- The loops of a task. -/
inductive Party where
  | checker
  | promoter
  | reattacher
  | supervisor
deriving DecidableEq, Repr

/-- Who holds the lock and who waits for it, in order of arrival. -/
structure Lock where
  holder : Option Party := none
  queue : List Party := []
deriving DecidableEq, Repr

namespace Lock

/-- Asks for the lock. A free lock is taken at once. -/
def request (lock : Lock) (party : Party) : Lock :=
  match lock.holder with
  | none => { lock with holder := some party }
  | some _ => { lock with queue := lock.queue ++ [party] }

/-- Gives the lock back, to the loop that has waited longest. -/
def release (lock : Lock) : Lock :=
  ⟨lock.queue.head?, lock.queue.tail⟩

end Lock

end Inclusion
