import Mathlib.Data.List.Nodup
import Inclusion.Client.Call

/-!
# The legs of a call

A client has a leg for each of its endpoints, at the place of the endpoint in its set. A call begins
with the legs that its request is put to, of which there is at least one. The end of a leg leaves
the others open, and decides the call if nothing has decided it before.
-/

namespace Inclusion

/-- The verdict of a call that an outcome decides. -/
def Outcome.verdict (endpoint : String) (elapsed : Nat) : Outcome → Verdict
  | replied value => .answered ⟨value, endpoint, elapsed⟩
  | failed cause => .failed (.call endpoint elapsed cause)

namespace Client

/-- The legs of a client are its endpoints, each with its place. -/
theorem map_legs {α : Type} {client : Client}
    (handles : client.handles.length = client.set.endpoints.length) (f : Nat → Endpoint → α) :
    client.legs.map (fun leg => f leg.place leg.endpoint) = client.set.endpoints.mapIdx f := by
  refine List.ext_getElem ?_ fun index within _ => ?_
  · simp [legs, handles]
  · simp [legs]

theorem places_nodup {client : Client}
    (handles : client.handles.length = client.set.endpoints.length) :
    (client.legs.map Leg.place).Nodup := by
  have places : client.legs.map Leg.place = List.range' 0 client.set.endpoints.length :=
    (map_legs handles fun place _ => place).trans
      (List.mapIdx_eq_zipIdx_map.trans (List.zipIdx_map_snd 0 _))
  exact places ▸ List.nodup_range'

/-- A leg of a client belongs to the endpoint at its place, and has its handle. -/
theorem leg_spec {client : Client} {leg : Leg} (member : leg ∈ client.legs) :
    client.set.endpoints[leg.place]? = some leg.endpoint ∧ leg.handle ∈ client.handles := by
  obtain ⟨place, within, rfl⟩ := List.mem_mapIdx.mp member
  rw [List.length_zip] at within
  refine ⟨?_, ?_⟩
  · simp only [List.getElem_zip]
    exact List.getElem?_eq_getElem _
  · simp only [List.getElem_zip]
    exact List.getElem_mem _

/-- Every endpoint of a client has a leg at its place. -/
theorem mem_places {client : Client}
    (handles : client.handles.length = client.set.endpoints.length) {place : Nat}
    {endpoint : Endpoint} (there : client.set.endpoints[place]? = some endpoint) :
    place ∈ client.legs.map Leg.place := by
  rw [map_legs handles fun place _ => place, List.mem_mapIdx]
  exact ⟨place, (List.getElem?_eq_some_iff.mp there).1, rfl⟩

/-- A node is asked through a leg of a client only if it is one of the client's. -/
theorem endpoint_of_legs {client : Client} {leg : Leg} (member : leg ∈ client.legs) :
    leg.endpoint ∈ client.set.endpoints :=
  List.mem_of_getElem? (leg_spec member).1

/-- A client with a handle for every node puts each request to one of them at least. -/
theorem legsFor_ne_nil {client : Client}
    (handles : client.handles.length = client.set.endpoints.length) (request : Request) :
    client.legsFor request ≠ [] := by
  have some_node : client.set.endpoints.length ≠ 0 :=
    fun none_there => client.set.nonempty (List.length_eq_zero_iff.mp none_there)
  have some_leg : client.legs ≠ [] := by
    intro none_there
    have count := congrArg List.length none_there
    simp only [legs, List.length_mapIdx, List.length_zip, handles, Nat.min_self,
      List.length_nil] at count
    exact some_node count
  unfold legsFor
  split
  · exact some_leg
  · simpa using some_leg

theorem legsFor_sublist (client : Client) (request : Request) :
    (client.legsFor request).Sublist client.legs := by
  unfold legsFor
  split
  · exact List.Sublist.refl _
  · exact List.take_sublist _ _

theorem legsFor_subset (client : Client) (request : Request) :
    client.legsFor request ⊆ client.legs :=
  (client.legsFor_sublist request).subset

/-- A call begins undecided, because it is put to an endpoint at least. -/
theorem call_undecided {client : Client}
    (handles : client.handles.length = client.set.endpoints.length) (request : Request)
    (now : Nat) : (client.call request now).verdict = none := by
  simp [call, legsFor_ne_nil handles request]

end Client

namespace Call

theorem mem_of_leg? {call : Call} {place : Nat} {leg : Leg} (opened : call.leg? place = some leg) :
    leg ∈ call.legs ∧ leg.place = place :=
  ⟨List.mem_of_find?_eq_some opened, by simpa using List.find?_some opened⟩

/-- The end of an open leg leaves the others open. -/
theorem legs_perm {call : Call} {leg : Leg} {place : Nat}
    (opened : call.leg? place = some leg) (distinct : (call.legs.map Leg.place).Nodup) :
    call.legs.Perm (leg :: call.legs.filter fun other => other.place ≠ leg.place) := by
  obtain ⟨earlier, later, legs⟩ := List.append_of_mem (mem_of_leg? opened).1
  rw [legs, List.map_append, List.map_cons, List.nodup_middle, List.nodup_cons,
    ← List.map_append] at distinct
  have others : ∀ other ∈ earlier ++ later, other.place ≠ leg.place := fun other member same =>
    distinct.1 (List.mem_map.mpr ⟨other, member, same⟩)
  rw [legs, List.filter_append, List.filter_cons_of_neg (by simp), ← List.filter_append,
    List.filter_eq_self.mpr (by simpa using others)]
  exact List.perm_middle

/-- The verdict of a call is the one it had, or comes of the outcome. A failure decides only a call
without other open legs. -/
theorem judge_cases {before : Option Verdict} {leg : Leg} {outcome : Outcome}
    {others : List Leg} {elapsed : Nat} {verdict : Verdict}
    (judged : judge before leg outcome others elapsed = some verdict) :
    before = some verdict ∨ before = none ∧ (outcome.isFailure = true → others = []) ∧
      verdict = outcome.verdict leg.endpoint.name elapsed := by
  unfold judge at judged
  split at judged
  · exact .inl judged
  · split at judged
    · exact .inr ⟨rfl, nofun, (Option.some.inj judged).symm⟩
    · obtain ⟨closed, decided⟩ := Option.ite_none_right_eq_some.mp judged
      exact .inr ⟨rfl, fun _ => List.isEmpty_iff.mp closed, (Option.some.inj decided).symm⟩

/-- A call that stays undecided has had a failure, and has another open leg. -/
theorem judge_eq_none {before : Option Verdict} {leg : Leg} {outcome : Outcome}
    {others : List Leg} {elapsed : Nat} (judged : judge before leg outcome others elapsed = none) :
    before = none ∧ (∃ cause, outcome = .failed cause) ∧ others ≠ [] := by
  unfold judge at judged
  split at judged
  · cases judged
  · split at judged
    · cases judged
    · next cause =>
      split at judged
      · cases judged
      · next remaining =>
        exact ⟨rfl, ⟨cause, rfl⟩, fun none_left => remaining (by simp [none_left])⟩

end Call

end Inclusion
