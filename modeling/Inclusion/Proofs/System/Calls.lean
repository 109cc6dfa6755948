import Mathlib.Data.List.Nodup
import Inclusion.Proofs.Task.Dialogue
import Inclusion.System.Step

/-!
# The calls that the loops of tasks wait for

All client calls under way are kept together, whoever has made them. A loop waits for its own as
long as the verdict is not delivered; `awaited` are the requests that it has put. What the rest of a
system does with calls is of no concern to a loop, because every call has a number of its own.
-/

namespace Inclusion

/-- The request of a call, if a given loop of a task waits for its verdict. -/
def CallRecord.awaited? (id : Nat) (party : Party) (record : CallRecord) : Option Request :=
  if record.owner = some (.loop id party) then some record.call.request else none

/-- No call is answered when it begins. -/
theorem Client.call_not_answered (client : Client) (request : Request) (now : Nat)
    (answer : Answer) : (client.call request now).verdict ≠ some (.answered answer) := by
  unfold Client.call unansweredVerdict
  simp only
  split <;> simp

namespace System

/-- The requests for whose verdicts a loop of a task waits. -/
def awaited (system : System) (id : Nat) (party : Party) : List Request :=
  system.calls.filterMap (CallRecord.awaited? id party)

/-- What a loop of a task hears by an event: the verdict of its call. -/
def Event.heard (system : System) (id : Nat) : Event → List Task.Act
  | callReturned call =>
    match system.call? call with
    | some record =>
      match record.owner, record.call.verdict with
      | some (.loop other party), some verdict =>
        if other = id then [.hears party record.call.request verdict] else []
      | _, _ => []
    | none => []
  | _ => []

/-- Every call has a number of its own, and so will the next one. -/
structure Numbered (system : System) : Prop where
  distinct : (system.calls.map CallRecord.id).Nodup
  below : ∀ record ∈ system.calls, record.id < system.nextCall

/-- The loops of tasks wait for the same calls in another system. -/
structure Spares (system next : System) : Prop where
  numbered : system.Numbered → next.Numbered
  awaited : system.Numbered → ∀ id party, next.awaited id party = system.awaited id party

variable {system : System}

theorem Spares.of_eq {next : System} (calls : next.calls = system.calls)
    (nextCall : next.nextCall = system.nextCall) : system.Spares next where
  numbered := fun numbered => ⟨calls ▸ numbered.distinct, calls ▸ nextCall ▸ numbered.below⟩
  awaited := fun _ id party => by rw [System.awaited, System.awaited, calls]

theorem Spares.refl (system : System) : system.Spares system :=
  .of_eq rfl rfl

theorem Spares.trans {first second third : System} (before : first.Spares second)
    (after : second.Spares third) : first.Spares third where
  numbered := fun numbered => after.numbered (before.numbered numbered)
  awaited := fun numbered id party =>
    (after.awaited (before.numbered numbered) id party).trans (before.awaited numbered id party)

/-- The calls for whose verdicts somebody waits. -/
def asked (system : System) (owner : Owner) : List CallRecord :=
  system.calls.filter fun record => record.owner = some owner

theorem mem_asked {record : CallRecord} {owner : Owner} :
    record ∈ system.asked owner ↔ record ∈ system.calls ∧ record.owner = some owner := by
  simp [asked]

theorem asked_congr {next : System} (calls : next.calls = system.calls) (owner : Owner) :
    next.asked owner = system.asked owner := by
  rw [asked, asked, calls]

/-- A loop waits for the verdicts of its calls. -/
theorem awaited_eq (system : System) (id : Nat) (party : Party) :
    system.awaited id party = (system.asked (.loop id party)).map (·.call.request) := by
  rw [← List.filterMap_eq_map', asked, List.filterMap_filter]
  refine List.filterMap_congr fun record _ => ?_
  simp [CallRecord.awaited?]

/-! ## Calls that begin -/

theorem Numbered.beginCall (numbered : system.Numbered) (owner : Owner) (client : Nat)
    (request : Request) : (system.beginCall owner client request).1.Numbered := by
  unfold System.beginCall
  split
  · exact numbered
  · constructor
    · have unused : system.nextCall ∉ system.calls.map CallRecord.id := by
        intro used
        obtain ⟨record, member, same⟩ := List.mem_map.mp used
        exact Nat.lt_irrefl _ (same ▸ numbered.below record member)
      simpa using numbered.distinct.concat unused
    · intro record member
      obtain earlier | last := List.mem_append.mp member
      · exact Nat.lt_succ_of_lt (numbered.below record earlier)
      · obtain rfl := List.mem_singleton.mp last
        exact Nat.lt_succ_self _

/-- A call that begins is asked for by its owner, if its client exists. -/
theorem asked_beginCall (system : System) (owner other : Owner) (client : Nat)
    (request : Request) :
    (system.beginCall owner client request).1.asked other = system.asked other ++
      if owner = other then
        (system.clients[client]?).toList.map fun client =>
          ⟨system.nextCall, some owner, client.call request system.now⟩
      else [] := by
  unfold System.beginCall
  split
  · next absent => simp [absent]
  · next present found =>
    rw [asked, List.filter_append]
    by_cases own : owner = other <;> simp [asked, found, own]

/-- A call that begins is one that its owner waits for. -/
theorem awaited_beginCall (system : System) (owner : Owner) (client : Nat) (request : Request)
    (id : Nat) (party : Party) :
    ((system.beginCall owner client request).1.awaited id party).Sublist
      (system.awaited id party ++ if owner = .loop id party then [request] else []) := by
  rw [awaited_eq, awaited_eq, asked_beginCall, List.map_append]
  split
  · cases system.clients[client]? <;> simp [Client.call]
  · exact .refl _

/-- A call that no loop makes concerns none. -/
theorem spares_beginCall (system : System) {owner : Owner} (client : Nat) (request : Request)
    (other : ∀ id party, owner ≠ .loop id party) :
    system.Spares (system.beginCall owner client request).1 where
  numbered := fun numbered => numbered.beginCall owner client request
  awaited := fun _ id party => by
    rw [awaited_eq, awaited_eq, asked_beginCall, if_neg (other id party), List.append_nil]

/-! ## Calls that go on and end -/

/-- A change of a call changes nothing but the calls. -/
theorem setCall_eq (system : System) (record : CallRecord) :
    system.setCall record = { system with calls := (system.setCall record).calls } := by
  unfold setCall
  split <;> rfl

theorem mem_of_call? {call : Nat} {record : CallRecord} (found : system.call? call = some record) :
    record ∈ system.calls ∧ record.id = call :=
  ⟨List.mem_of_find?_eq_some found, by simpa using List.find?_some found⟩

theorem Numbered.eq_of_id (numbered : system.Numbered) {record other : CallRecord}
    (member : record ∈ system.calls) (there : other ∈ system.calls) (same : record.id = other.id) :
    record = other :=
  List.inj_on_of_nodup_map numbered.distinct member there same

/-- A call stands among all calls by itself. -/
theorem Numbered.split (numbered : system.Numbered) {call : Nat} {record : CallRecord}
    (found : system.call? call = some record) :
    ∃ earlier later, system.calls = earlier ++ record :: later ∧
      ∀ other ∈ earlier ++ later, other.id ≠ record.id := by
  obtain ⟨earlier, later, calls⟩ := List.append_of_mem (mem_of_call? found).1
  refine ⟨earlier, later, calls, fun other member same => ?_⟩
  have distinct := numbered.distinct
  rw [calls, List.map_append, List.map_cons, List.nodup_middle, List.nodup_cons,
    ← List.map_append] at distinct
  exact distinct.1 (List.mem_map.mpr ⟨other, member, same⟩)

/-- A change of a call changes no other, and if nobody is left to whom the call matters it is gone.
-/
theorem Numbered.calls_setCall (numbered : system.Numbered) {call : Nat} {record : CallRecord}
    (found : system.call? call = some record) {after : CallRecord} (same : after.id = record.id) :
    ∃ earlier later, system.calls = earlier ++ record :: later ∧
      (∀ other ∈ earlier ++ later, other.id ≠ record.id) ∧
      ((system.setCall after).calls = earlier ++ after :: later ∨
        (after.owner = none ∧ after.call.legs = []) ∧
          (system.setCall after).calls = earlier ++ later) := by
  obtain ⟨earlier, later, calls, others⟩ := numbered.split found
  refine ⟨earlier, later, calls, others, ?_⟩
  have before : ∀ other ∈ earlier, other.id ≠ record.id := fun other member =>
    others other (List.mem_append_left _ member)
  have behind : ∀ other ∈ later, other.id ≠ record.id := fun other member =>
    others other (List.mem_append_right _ member)
  unfold setCall
  split
  · next idle =>
    rw [Bool.and_eq_true, Option.isNone_iff_eq_none, List.isEmpty_iff] at idle
    refine .inr ⟨idle, ?_⟩
    rw [calls, same, List.filter_append, List.filter_cons_of_neg (by simp),
      List.filter_eq_self.mpr (by simpa using before),
      List.filter_eq_self.mpr (by simpa using behind)]
  · refine .inl ?_
    have kept : ∀ others : List CallRecord, (∀ other ∈ others, other.id ≠ record.id) →
        others.map (fun other => if other.id = after.id then after else other) = others := by
      intro others different
      refine (List.map_congr_left fun other member => ?_).trans (List.map_id _)
      rw [same, if_neg (different other member)]
      rfl
    rw [calls, List.map_append, List.map_cons, kept earlier before, kept later behind,
      if_pos same.symm]

theorem Numbered.setCall (numbered : system.Numbered) {call : Nat} {record : CallRecord}
    (found : system.call? call = some record) {after : CallRecord} (same : after.id = record.id) :
    (system.setCall after).Numbered := by
  have nextCall : (system.setCall after).nextCall = system.nextCall := by
    rw [setCall_eq]
  have distinct := numbered.distinct
  have below := numbered.below
  obtain ⟨earlier, later, calls, -, kept | ⟨-, gone⟩⟩ := numbered.calls_setCall found same
  · rw [calls] at distinct below
    refine ⟨by simpa [kept, same] using distinct, fun other member => ?_⟩
    rw [kept, List.mem_append, List.mem_cons] at member
    rw [nextCall]
    obtain before | rfl | behind := member
    · exact below other (by simp [before])
    · exact same ▸ below record (by simp)
    · exact below other (by simp [behind])
  · have part : (earlier ++ later).Sublist (earlier ++ record :: later) :=
      (List.sublist_cons_self record later).append_left earlier
    rw [calls] at distinct below
    rw [← gone] at part
    exact ⟨distinct.sublist (part.map _), fun other member => nextCall ▸ below other
      (part.subset member)⟩

/-- A change of a call changes nothing among the calls that somebody waits for but that call. -/
theorem Numbered.asked_setCall (numbered : system.Numbered) {call : Nat} {record : CallRecord}
    (found : system.call? call = some record) {after : CallRecord} (same : after.id = record.id)
    (owner : Owner) :
    ∃ earlier later,
      system.asked owner =
        earlier ++ (if record.owner = some owner then [record] else []) ++ later ∧
      (system.setCall after).asked owner =
        earlier ++ (if after.owner = some owner then [after] else []) ++ later := by
  let part (records : List CallRecord) : List CallRecord :=
    records.filter fun record => record.owner = some owner
  obtain ⟨earlier, later, calls, -, after_calls⟩ := numbered.calls_setCall found same
  have before : system.asked owner =
      part earlier ++ (if record.owner = some owner then [record] else []) ++ part later := by
    rw [asked, calls, List.filter_append, List.filter_cons]
    by_cases own : record.owner = some owner <;> simp [part, own]
  refine ⟨part earlier, part later, before, ?_⟩
  obtain kept | ⟨⟨unowned, -⟩, gone⟩ := after_calls
  · rw [asked, kept, List.filter_append, List.filter_cons]
    by_cases own : after.owner = some owner <;> simp [part, own]
  · rw [asked, gone, List.filter_append, unowned]
    simp [part]

/-- A change of a call that somebody waits for is nothing to anybody else. -/
theorem Numbered.asked_others (numbered : system.Numbered) {call : Nat} {record : CallRecord}
    (found : system.call? call = some record) {after : CallRecord} (same : after.id = record.id)
    {owner : Owner} (before : record.owner ≠ some owner) (behind : after.owner ≠ some owner) :
    (system.setCall after).asked owner = system.asked owner := by
  obtain ⟨earlier, later, calls, kept⟩ := numbered.asked_setCall found same owner
  rw [calls, kept, if_neg before, if_neg behind]

/-- Whoever waits for one call at most waits for that, and for what it is changed to. -/
theorem Numbered.asked_own (numbered : system.Numbered) {call : Nat} {record : CallRecord}
    (found : system.call? call = some record) {after : CallRecord} (same : after.id = record.id)
    {owner : Owner} (owned : record.owner = some owner)
    (single : (system.asked owner).length ≤ 1) :
    system.asked owner = [record] ∧
      (system.setCall after).asked owner = if after.owner = some owner then [after] else [] := by
  obtain ⟨earlier, later, before, behind⟩ := numbered.asked_setCall found same owner
  rw [if_pos owned] at before
  rw [before, List.length_append, List.length_append, List.length_singleton] at single
  obtain rfl : earlier = [] := List.length_eq_zero_iff.mp (by omega)
  obtain rfl : later = [] := List.length_eq_zero_iff.mp (by omega)
  exact ⟨before, by simpa using behind⟩

/-- What becomes of a call before it is delivered makes no difference to its owner. -/
theorem spares_setCall {call : Nat} {record : CallRecord}
    (found : system.call? call = some record) {after : CallRecord} (same : after.id = record.id)
    (owner : after.owner = record.owner) (request : after.call.request = record.call.request) :
    system.Spares (system.setCall after) where
  numbered := fun numbered => numbered.setCall found same
  awaited := fun numbered id party => by
    obtain ⟨earlier, later, before, behind⟩ := numbered.asked_setCall found same (.loop id party)
    rw [awaited_eq, awaited_eq, before, behind, owner]
    split <;> simp [request]

/-- Once a call is delivered its owner waits for it no longer, and everybody else waits for what
they have waited for. -/
theorem awaited_delivered (numbered : system.Numbered) {call : Nat} {record : CallRecord}
    (found : system.call? call = some record) {owner : Owner} (owned : record.owner = some owner)
    (id : Nat) (party : Party) :
    (owner ≠ .loop id party →
        (system.setCall { record with owner := none }).awaited id party =
          system.awaited id party) ∧
      (owner = .loop id party → (system.awaited id party).length ≤ 1 →
        (system.setCall { record with owner := none }).awaited id party = []) := by
  let released : CallRecord := { record with owner := none }
  have same : released.id = record.id := rfl
  rw [awaited_eq, awaited_eq]
  constructor
  · intro other
    rw [numbered.asked_others found same (by simp [owned, other]) nofun]
  · rintro rfl single
    rw [List.length_map] at single
    rw [(numbered.asked_own found same owned single).2]
    rfl

/-- A loop waits for a call that is its own. -/
theorem mem_awaited {call : Nat} {record : CallRecord} (found : system.call? call = some record)
    {id : Nat} {party : Party} (owned : record.owner = some (.loop id party)) :
    record.call.request ∈ system.awaited id party := by
  rw [awaited_eq]
  exact List.mem_map_of_mem (mem_asked.mpr ⟨(mem_of_call? found).1, owned⟩)

end System

end Inclusion
