import Mathlib.Logic.Function.Basic
import Inclusion.Proofs.Pairs
import Inclusion.Monitor.Step

/-!
# The registrations that a monitor keeps

The pending registrations of a hash are found in a list of entries. Seen as a function of the hash
they change at one hash at a time, and `waiting` lists them all, each with the hash that it is for.
What an operation takes out of one hash is missing from that list afterwards, and nothing else is.

The list of entries is `Tidy` if no hash has two entries and none is empty. A hash is watched
exactly if it has pending registrations then.
-/

namespace Inclusion

namespace Monitor

variable {Watcher : Type}

/-- Entries of different hashes, none of them empty. -/
structure Tidy (entries : List (Hash × List (Registration Watcher))) : Prop where
  distinct : (entries.map Prod.fst).Nodup
  nonempty : ∀ entry ∈ entries, entry.2 ≠ []

/-- All pending registrations, each with its hash. -/
def waiting (monitor : Monitor Watcher) : List (Hash × Registration Watcher) :=
  monitor.entries.flatMap fun entry => entry.2.map (entry.1, ·)

variable {monitor : Monitor Watcher} {entries : List (Hash × List (Registration Watcher))}
  {bundle : Hash} {present kept : List (Registration Watcher)}

theorem pending_of_lookup (found : monitor.entries.lookup bundle = some present) :
    monitor.pending bundle = present := by
  rw [pending, found]
  rfl

/-- A hash is watched exactly if registrations of it are pending. -/
theorem isWatching_iff (tidy : Tidy monitor.entries) :
    monitor.isWatching bundle = true ↔ monitor.pending bundle ≠ [] := by
  cases found : monitor.entries.lookup bundle with
  | none => simp [isWatching, pending, found]
  | some present =>
    have member := (lookup_eq_some_iff_mem tidy.distinct).mp found
    simpa [isWatching, pending, found] using tidy.nonempty _ member

/-- A registration waits under the hash that it is pending for. -/
theorem mem_waiting (tidy : Tidy monitor.entries) {registration : Registration Watcher} :
    (bundle, registration) ∈ monitor.waiting ↔ registration ∈ monitor.pending bundle := by
  simp only [waiting, List.mem_flatMap, List.mem_map, Prod.mk.injEq]
  constructor
  · rintro ⟨⟨other, present⟩, member, found, own, rfl, rfl⟩
    rwa [pending_of_lookup ((lookup_eq_some_iff_mem tidy.distinct).mpr member)]
  · intro member
    cases found : monitor.entries.lookup bundle with
    | none => simp [pending, found] at member
    | some present =>
      rw [pending_of_lookup found] at member
      exact ⟨_, (lookup_eq_some_iff_mem tidy.distinct).mp found, registration, member, rfl, rfl⟩

/-! ## Adding -/

theorem lookup_addPending (registration : Registration Watcher) (bundle other : Hash)
    (entries : List (Hash × List (Registration Watcher))) :
    (addPending registration bundle entries).lookup other =
      if other = bundle then some ((entries.lookup bundle).getD [] ++ [registration])
      else entries.lookup other := by
  induction entries with
  | nil => by_cases same : other = bundle <;> simp [addPending, lookup_cons_eq_ite, same]
  | cons first rest inductionHypothesis =>
    obtain ⟨one, present⟩ := first
    by_cases own : one = bundle
    · by_cases same : other = bundle <;> simp [addPending, lookup_cons_eq_ite, own, same]
    · have there : bundle ≠ one := Ne.symm own
      by_cases same : other = one
      · simp [addPending, lookup_cons_eq_ite, own, same]
      · simp [addPending, lookup_cons_eq_ite, own, same, there, inductionHypothesis]

/-- A hash is added only if it is not there. -/
theorem map_fst_addPending (registration : Registration Watcher) (bundle : Hash)
    (entries : List (Hash × List (Registration Watcher))) :
    (addPending registration bundle entries).map Prod.fst =
      if bundle ∈ entries.map Prod.fst then entries.map Prod.fst
      else entries.map Prod.fst ++ [bundle] := by
  induction entries with
  | nil => simp [addPending]
  | cons first rest inductionHypothesis =>
    obtain ⟨one, present⟩ := first
    by_cases own : one = bundle
    · simp [addPending, own]
    · have there : bundle ≠ one := Ne.symm own
      simp only [addPending, own, if_false, List.map_cons, List.mem_cons, there, false_or,
        inductionHypothesis]
      split <;> rfl

theorem Tidy.addPending (tidy : Tidy entries) (registration : Registration Watcher)
    (bundle : Hash) : Tidy (addPending registration bundle entries) where
  distinct := by
    rw [map_fst_addPending]
    split
    · exact tidy.distinct
    · next absent => simpa using tidy.distinct.concat absent
  nonempty := by
    have nonempty := tidy.nonempty
    clear tidy
    induction entries with
    | nil => simp [Monitor.addPending]
    | cons first rest inductionHypothesis =>
      obtain ⟨one, present⟩ := first
      obtain ⟨here, later⟩ := List.forall_mem_cons.mp nonempty
      by_cases own : one = bundle
      · rw [Monitor.addPending, if_pos own]
        exact List.forall_mem_cons.mpr ⟨by simp, later⟩
      · rw [Monitor.addPending, if_neg own]
        exact List.forall_mem_cons.mpr ⟨here, inductionHypothesis later⟩

/-- A registration that is added waits with the others. -/
theorem waiting_addPending (registration : Registration Watcher) (bundle : Hash)
    (entries : List (Hash × List (Registration Watcher))) :
    ((addPending registration bundle entries).flatMap fun entry => entry.2.map (entry.1, ·)).Perm
      ((entries.flatMap fun entry => entry.2.map (entry.1, ·)) ++ [(bundle, registration)]) := by
  induction entries with
  | nil => simp [addPending]
  | cons first rest inductionHypothesis =>
    obtain ⟨one, present⟩ := first
    by_cases own : one = bundle
    · subst own
      simp only [addPending, if_true, List.flatMap_cons, List.map_append, List.map_cons,
        List.map_nil, List.append_assoc]
      exact List.perm_append_comm.append_left _
    · simpa [addPending, own] using inductionHypothesis.append_left (present.map (one, ·))

theorem entries_register (monitor : Monitor Watcher) (bundle : Hash) (watcher : Watcher) :
    (monitor.register bundle watcher).1.entries =
      addPending ⟨monitor.nextId, watcher⟩ bundle monitor.entries := by
  unfold register
  split <;> rfl

/-- A hash that is registered for is watched, and so is every other that was. -/
theorem isWatching_register (monitor : Monitor Watcher) (bundle : Hash) (watcher : Watcher)
    (other : Hash) : (monitor.register bundle watcher).1.isWatching other =
      (decide (other = bundle) || monitor.isWatching other) := by
  rw [isWatching, entries_register, lookup_addPending, isWatching]
  by_cases own : other = bundle <;> simp [own]

/-! ## Taking out -/

theorem Tidy.filter (tidy : Tidy entries) (condition : Hash × List (Registration Watcher) → Bool) :
    Tidy (entries.filter condition) where
  distinct := tidy.distinct.sublist (List.filter_sublist.map _)
  nonempty := fun entry member => tidy.nonempty entry (List.mem_of_mem_filter member)

theorem pending_forget (monitor : Monitor Watcher) (bundle : Hash) :
    (monitor.forget bundle).pending = Function.update monitor.pending bundle [] := by
  funext other
  rw [pending, forget, lookup_filter_ne, Function.update_apply]
  split <;> rfl

/-- When a hash is forgotten its registrations wait no longer. -/
theorem waiting_forget (tidy : Tidy monitor.entries)
    (found : monitor.entries.lookup bundle = some present) :
    monitor.waiting.Perm (present.map (bundle, ·) ++ (monitor.forget bundle).waiting) :=
  (perm_filter_ne tidy.distinct found).flatMap_right _

theorem map_fst_keep (monitor : Monitor Watcher) (bundle : Hash)
    (kept : List (Registration Watcher)) :
    (monitor.keep bundle kept).entries.map Prod.fst = monitor.entries.map Prod.fst := by
  rw [keep, List.map_map]
  refine List.map_congr_left fun entry _ => ?_
  by_cases own : entry.1 = bundle <;> simp [own]

theorem Tidy.keep (tidy : Tidy monitor.entries) (bundle : Hash) (some_left : kept ≠ []) :
    Tidy (monitor.keep bundle kept).entries where
  distinct := by
    rw [map_fst_keep]
    exact tidy.distinct
  nonempty := by
    intro entry member
    obtain ⟨before, there, rfl⟩ := List.mem_map.mp member
    split
    · exact some_left
    · exact tidy.nonempty before there

theorem pending_keep (found : monitor.entries.lookup bundle = some present) :
    (monitor.keep bundle kept).pending = Function.update monitor.pending bundle kept := by
  funext other
  rw [pending, Monitor.keep, lookup_map_ite, Function.update_apply, found]
  split <;> rfl

/-- In a hash that is not watched there is no registration to cancel. -/
theorem cancelRegistration_unwatched (absent : monitor.entries.lookup bundle = none) (id : Nat) :
    monitor.cancelRegistration bundle id = (monitor, [.answered false]) := by
  rw [cancelRegistration, absent]

/-- A cancelled registration leaves those behind that are not of its number, and the hash is
forgotten if there are none. -/
theorem cancelRegistration_fst (found : monitor.entries.lookup bundle = some present) (id : Nat) :
    (monitor.cancelRegistration bundle id).1 =
      if (present.filter fun registration => registration.id ≠ id).isEmpty then
        (monitor.forget bundle).wake bundle
      else monitor.keep bundle (present.filter fun registration => registration.id ≠ id) := by
  rw [cancelRegistration, found]
  simp only
  split <;> rfl

/-- What becomes of a monitor when registrations of a hash are taken out, if there are any: some of
them are kept, or the hash is forgotten and its poller is woken. -/
inductive Trimmed (monitor : Monitor Watcher) (bundle : Hash) : Monitor Watcher → Prop where
  | same : Trimmed monitor bundle monitor
  | kept {left : List (Registration Watcher)} (some_left : left ≠ []) :
      Trimmed monitor bundle (monitor.keep bundle left)
  | cleared : Trimmed monitor bundle ((monitor.forget bundle).wake bundle)

theorem trimmed_cancelRegistration (monitor : Monitor Watcher) (bundle : Hash) (id : Nat) :
    Trimmed monitor bundle (monitor.cancelRegistration bundle id).1 := by
  cases found : monitor.entries.lookup bundle with
  | none =>
    rw [cancelRegistration_unwatched found]
    exact .same
  | some present =>
    rw [cancelRegistration_fst found]
    split
    · exact .cleared
    · next some_left => exact .kept (by simpa using some_left)

theorem trimmed_cancelPolling (monitor : Monitor Watcher) (bundle : Hash) :
    Trimmed monitor bundle (monitor.cancelPolling bundle).1 := by
  unfold cancelPolling
  split <;> exact .cleared

theorem trimmed_complete (monitor : Monitor Watcher) (bundle : Hash) :
    Trimmed monitor bundle (monitor.complete bundle).1 := by
  unfold complete
  split
  · exact .same
  · exact .cleared

theorem entries_wake (monitor : Monitor Watcher) (bundle : Hash) :
    (monitor.wake bundle).entries = monitor.entries := by
  unfold wake
  split <;> rfl

/-- Pollers and numbers are not given or taken with registrations. -/
theorem Trimmed.frame {after : Monitor Watcher} (trimmed : Trimmed monitor bundle after) :
    after.records = monitor.records ∧ after.nextId = monitor.nextId := by
  cases trimmed with
  | same | kept => exact ⟨rfl, rfl⟩
  | cleared =>
    unfold wake
    split <;> exact ⟨rfl, rfl⟩

/-- Only a hash that is forgotten is watched no longer. -/
theorem Trimmed.cleared_of_unwatched {after : Monitor Watcher} {other : Hash}
    (trimmed : Trimmed monitor bundle after) (watched : monitor.isWatching other = true)
    (unwatched : after.isWatching other = false) :
    other = bundle ∧ after = (monitor.forget bundle).wake bundle := by
  cases trimmed with
  | same => exact absurd watched (by simp [unwatched])
  | @kept left =>
    -- The hashes that are watched are the same ones.
    have stays : (monitor.keep bundle left).isWatching other = monitor.isWatching other := by
      rw [isWatching, Monitor.keep, lookup_map_ite, isWatching]
      split
      · next own => rw [Option.isSome_map, own]
      · rfl
    exact absurd (stays.symm.trans unwatched) (by simp [watched])
  | cleared =>
    refine ⟨?_, rfl⟩
    by_contra different
    rw [isWatching, entries_wake, forget, lookup_filter_ne, if_neg different] at unwatched
    exact Bool.false_ne_true (unwatched.symm.trans watched)

/-- When the registrations of a hash are replaced, those of all others wait as they have. -/
theorem waiting_keep (tidy : Tidy monitor.entries)
    (found : monitor.entries.lookup bundle = some present) :
    (monitor.keep bundle kept).waiting.Perm
      (kept.map (bundle, ·) ++ (monitor.forget bundle).waiting) := by
  have distinct : ((monitor.keep bundle kept).entries.map Prod.fst).Nodup := by
    rw [map_fst_keep]
    exact tidy.distinct
  have replaced : (monitor.keep bundle kept).entries.lookup bundle = some kept := by
    rw [Monitor.keep, lookup_map_ite, if_pos rfl, found]
    rfl
  have parts := perm_filter_ne distinct replaced
  rw [Monitor.keep, filter_map_ite] at parts
  exact parts.flatMap_right fun entry => entry.2.map (entry.1, ·)

end Monitor

end Inclusion
