import Mathlib.Data.String.Basic
import Inclusion.Proofs.Pairs
import Inclusion.Client.EndpointSet

/-!
# What the accounts of endpoints hold

The counters of all labels stand in the order of the labels, so each label has counters at most
once. An outcome that is booked on a handle changes the counters of the handle's label and no
others. To register an endpoint changes no figures, and leaves every handle its label.
-/

namespace Inclusion

namespace Health

/-- The counters of a label, which are zero for one never used. -/
def countersOf (health : Health) (label : String) : LabelCounters :=
  (health.counters.lookup label).getD {}

/-- The labels stand in order. -/
def IsOrdered (health : Health) : Prop :=
  (health.counters.map Prod.fst).Pairwise (· < ·)

/-- No outcome has been booked yet. -/
structure IsUnused (health : Health) : Prop where
  ordered : health.IsOrdered
  zero : ∀ label, health.countersOf label = {}

variable {health : Health} {label other : String} {handle : Nat} {failed : Bool} {now : Nat}

/-! ## Counters of a label -/

theorem calls_stats (health : Health) (label : String) (now : Nat) :
    (health.stats label now).calls = (health.countersOf label).calls := by
  unfold stats countersOf
  cases health.counters.lookup label <;> rfl

theorem errors_stats (health : Health) (label : String) (now : Nat) :
    (health.stats label now).errors = (health.countersOf label).errors := by
  unfold stats countersOf
  cases health.counters.lookup label <;> rfl

/-- No label is added but the one whose counters are changed. -/
theorem mem_adjust {change : LabelCounters → LabelCounters}
    {counters : List (String × LabelCounters)}
    (member : other ∈ (adjust change label counters).map Prod.fst) :
    other = label ∨ other ∈ counters.map Prod.fst := by
  induction counters with
  | nil => exact .inl (by simpa [adjust] using member)
  | cons first rest inductionHypothesis =>
    unfold adjust at member
    split at member
    · simpa using member
    · split at member
      · next same => simpa [same] using member
      · obtain rfl | later := List.mem_cons.mp member
        · exact .inr List.mem_cons_self
        · exact (inductionHypothesis later).imp_right (List.mem_cons_of_mem _)

theorem pairwise_adjust {counters : List (String × LabelCounters)}
    (ordered : (counters.map Prod.fst).Pairwise (· < ·))
    (change : LabelCounters → LabelCounters) (label : String) :
    ((adjust change label counters).map Prod.fst).Pairwise (· < ·) := by
  induction counters with
  | nil => exact List.pairwise_singleton _ _
  | cons first rest inductionHypothesis =>
    obtain ⟨before, tail⟩ := List.pairwise_cons.mp ordered
    unfold adjust
    split
    · next less =>
      refine List.pairwise_cons.mpr ⟨fun other member => ?_, ordered⟩
      obtain rfl | later := List.mem_cons.mp member
      · exact less
      · exact less.trans (before other later)
    · next not_less =>
      split
      · next same => exact List.pairwise_cons.mpr ⟨same ▸ before, tail⟩
      · next different =>
        refine List.pairwise_cons.mpr ⟨fun other member => ?_, inductionHypothesis tail⟩
        obtain rfl | later := mem_adjust member
        · exact lt_of_le_of_ne (not_lt.mp not_less) (Ne.symm different)
        · exact before other later

/-- A label that is less than all is not there. -/
theorem lookup_eq_none_of_lt {counters : List (String × LabelCounters)}
    (less : ∀ other ∈ counters.map Prod.fst, label < other) : counters.lookup label = none := by
  induction counters with
  | nil => rfl
  | cons first rest inductionHypothesis =>
    rw [lookup_cons_eq_ite, if_neg (less first.1 List.mem_cons_self).ne]
    exact inductionHypothesis fun other member => less other (List.mem_cons_of_mem _ member)

/-- The counters of the label are changed, and no others. -/
theorem lookup_adjust {counters : List (String × LabelCounters)}
    (ordered : (counters.map Prod.fst).Pairwise (· < ·))
    (change : LabelCounters → LabelCounters) (label other : String) :
    (adjust change label counters).lookup other =
      if other = label then some (change ((counters.lookup label).getD {}))
      else counters.lookup other := by
  induction counters with
  | nil => exact lookup_cons_eq_ite (label, change {}) [] other
  | cons first rest inductionHypothesis =>
    obtain ⟨before, tail⟩ := List.pairwise_cons.mp ordered
    unfold adjust
    split
    · next less =>
      -- The label has no counters yet, since all labels that have are greater.
      have absent : List.lookup label (first :: rest) = none := by
        refine lookup_eq_none_of_lt fun other member => ?_
        obtain rfl | later := List.mem_cons.mp member
        · exact less
        · exact less.trans (before other later)
      rw [lookup_cons_eq_ite, absent]
      rfl
    · split
      · next _ here =>
        subst here
        rw [lookup_cons_eq_ite, lookup_cons_eq_ite, lookup_cons_eq_ite, if_pos rfl]
        split <;> rfl
      · next _ different =>
        rw [lookup_cons_eq_ite, lookup_cons_eq_ite, lookup_cons_eq_ite, if_neg different,
          inductionHypothesis tail]
        by_cases here : other = first.1
        · simp [here, Ne.symm different]
        · simp [here]

theorem isOrdered_record (ordered : health.IsOrdered) (handle : Nat) (failed : Bool) (now : Nat) :
    (health.record handle failed now).IsOrdered :=
  pairwise_adjust ordered _ _

/-- An outcome is counted under the label of its handle alone. -/
theorem countersOf_record (ordered : health.IsOrdered) (handle : Nat) (failed : Bool) (now : Nat)
    (label : String) :
    (health.record handle failed now).countersOf label =
      if health.labelOf handle = label then (health.countersOf label).record now failed
      else health.countersOf label := by
  unfold countersOf record
  rw [lookup_adjust ordered]
  by_cases same : health.labelOf handle = label
  · simp [same]
  · simp [same, Ne.symm same]

/-! ## Registration -/

/-- A label has the counters it had, or counters that are zero. -/
theorem countersOf_register (ordered : health.IsOrdered) (label other : String) :
    (health.register label).1.countersOf other = health.countersOf other := by
  unfold countersOf
  rw [register, lookup_adjust ordered]
  split
  · next same => rw [same]; rfl
  · rfl

theorem isUnused_register (unused : health.IsUnused) (label : String) :
    (health.register label).1.IsUnused where
  ordered := pairwise_adjust unused.ordered _ _
  zero := fun other => (countersOf_register unused.ordered label other).trans (unused.zero other)

end Health

theorem LabelCounters.calls_record (now : Nat) (failed : Bool) (counters : LabelCounters) :
    (counters.record now failed).calls = counters.calls + 1 := by
  cases failed <;> rfl

theorem LabelCounters.errors_record (now : Nat) (failed : Bool) (counters : LabelCounters) :
    (counters.record now failed).errors = counters.errors + failed.toNat := by
  cases failed <;> rfl

namespace Client

/-- The clients of sets that share their accounts, registered one after another. -/
def ofSets : Health → List EndpointSet → Health × List Client
  | health, [] => (health, [])
  | health, set :: rest =>
    let (health, client) := ofSet health set
    let (health, clients) := ofSets health rest
    (health, client :: clients)

/-- Every endpoint of a client has a handle, which was given for the label of the client's set. -/
structure IsRegistered (health : Health) (client : Client) : Prop where
  handles : client.handles.length = client.set.endpoints.length
  label : ∀ handle ∈ client.handles, handle ≠ 0 ∧
    health.labels[handle - 1]? = some client.set.label

variable {health : Health} {client : Client}

/-- A registered client stays so when more endpoints are registered. -/
theorem IsRegistered.mono (registered : client.IsRegistered health) {later : Health}
    (more : health.labels <+: later.labels) : client.IsRegistered later where
  handles := registered.handles
  label := fun handle member =>
    (registered.label handle member).imp_right fun found =>
      (List.prefix_iff_getElem?.mp more _ (List.getElem?_eq_some_iff.mp found).1).trans
        ((List.getElem?_eq_getElem _).symm.trans found)

theorem IsRegistered.labelOf (registered : client.IsRegistered health) {handle : Nat}
    (member : handle ∈ client.handles) : health.labelOf handle = client.set.label := by
  obtain ⟨given, found⟩ := registered.label handle member
  rw [Health.labelOf, if_neg given, found]
  rfl

/-- To register endpoints under a label adds it once for each of them. -/
theorem labels_registerAll (label : String) (health : Health) (endpoints : List Endpoint) :
    (registerAll label health endpoints).1.labels =
        health.labels ++ List.replicate endpoints.length label ∧
      (registerAll label health endpoints).2 =
        List.range' (health.labels.length + 1) endpoints.length := by
  induction endpoints generalizing health with
  | nil => simp [registerAll]
  | cons first rest inductionHypothesis =>
    obtain ⟨labels, handles⟩ := inductionHypothesis (health.register label).1
    constructor
    · refine labels.trans ?_
      simp [Health.register, List.replicate_succ]
    · refine (congrArg (List.cons (health.labels.length + 1)) handles).trans ?_
      simp [Health.register, List.range'_succ]

theorem isUnused_registerAll (label : String) (unused : health.IsUnused)
    (endpoints : List Endpoint) : (registerAll label health endpoints).1.IsUnused := by
  induction endpoints generalizing health with
  | nil => exact unused
  | cons first rest inductionHypothesis =>
    exact inductionHypothesis (Health.isUnused_register unused label)

theorem isRegistered_ofSet (health : Health) (set : EndpointSet) :
    (ofSet health set).2.IsRegistered (ofSet health set).1 := by
  obtain ⟨labels, handles⟩ := labels_registerAll set.label health set.endpoints
  refine ⟨?_, fun handle member => ?_⟩
  · simp [ofSet, handles]
  · simp only [ofSet, handles, labels, List.mem_range'_1] at member ⊢
    refine ⟨by omega, ?_⟩
    rw [List.getElem?_append_right (by omega), List.getElem?_replicate_of_lt (by omega)]

/-- Clients that share fresh accounts are registered in them, and nothing is booked. -/
theorem ofSets_spec (unused : health.IsUnused) (sets : List EndpointSet) :
    (ofSets health sets).1.IsUnused ∧ health.labels <+: (ofSets health sets).1.labels ∧
      ∀ client ∈ (ofSets health sets).2, client.IsRegistered (ofSets health sets).1 := by
  induction sets generalizing health with
  | nil => exact ⟨unused, List.prefix_refl _, nofun⟩
  | cons set rest inductionHypothesis =>
    have later : (ofSet health set).1.IsUnused := isUnused_registerAll set.label unused _
    have first : health.labels <+: (ofSet health set).1.labels :=
      ⟨_, (labels_registerAll set.label health set.endpoints).1.symm⟩
    obtain ⟨unused, more, registered⟩ := inductionHypothesis later
    refine ⟨unused, first.trans more, fun client member => ?_⟩
    obtain rfl | others := List.mem_cons.mp member
    · exact (isRegistered_ofSet health set).mono more
    · exact registered client others

end Client

end Inclusion
