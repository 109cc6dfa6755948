import Mathlib.Data.Finset.Max
import Inclusion.Proofs.Client

/-!
# The race of the endpoints of a call

A request that only reads is put to all endpoints of a client at once. An endpoint is done when it
answers, or when its time is up. The call has its verdict from the first endpoint that succeeds, and
if none does from the last that fails; where several are done at that moment any of them may decide.

`Race.Decides` says so of all endpoints together. A call knows only those that are done so far;
`Race.Runs` relates the two while the call waits.
-/

namespace Inclusion

/-- What the endpoints of a call do: each answers after so many nanoseconds, unless its time is up
before. -/
structure Race where
  endpoints : List Endpoint
  delay : Nat → Nat
  answer : Nat → Outcome

namespace Race

/-- The nanoseconds after which an endpoint is done. -/
def finish (race : Race) (place : Nat) (endpoint : Endpoint) : Nat :=
  min (race.delay place) endpoint.timeout.nanoseconds

/-- What comes of an endpoint. -/
def result (race : Race) (place : Nat) (endpoint : Endpoint) : Outcome :=
  if race.delay place ≤ endpoint.timeout.nanoseconds then race.answer place
  else .failed (.timeout endpoint.timeout)

/-- The verdict that a race may have after so many nanoseconds. -/
inductive Decides (race : Race) (time : Nat) : Verdict → Prop where
  /-- An endpoint succeeds then, and none before. -/
  | won {place endpoint value} (enters : race.endpoints[place]? = some endpoint)
      (succeeds : race.result place endpoint = .replied value)
      (done : race.finish place endpoint = time)
      (earliest : ∀ other rival reply, race.endpoints[other]? = some rival →
        race.result other rival = .replied reply → time ≤ race.finish other rival) :
      Decides race time (.answered ⟨value, endpoint.name, time⟩)
  /-- An endpoint fails then, all others fail too, and none later. -/
  | lost {place endpoint cause} (enters : race.endpoints[place]? = some endpoint)
      (fails : race.result place endpoint = .failed cause)
      (done : race.finish place endpoint = time)
      (latest : ∀ other rival, race.endpoints[other]? = some rival →
        race.finish other rival ≤ time ∧ ∃ failure, race.result other rival = .failed failure) :
      Decides race time (.failed (.call endpoint.name time cause))

/-- A call that waits for its verdict while the endpoints race. Those that are done have failed as
long as the call is undecided, and the others have time left. -/
structure Runs (race : Race) (now : Nat) (call : Call) : Prop where
  started : call.started ≤ now
  distinct : (call.legs.map Leg.place).Nodup
  enters : ∀ leg ∈ call.legs, race.endpoints[leg.place]? = some leg.endpoint
  opened : ∀ leg ∈ call.legs, now ≤ call.started + race.finish leg.place leg.endpoint
  closed : ∀ place endpoint, race.endpoints[place]? = some endpoint →
    place ∉ call.legs.map Leg.place → call.started + race.finish place endpoint ≤ now
  undecided : call.verdict = none → call.legs ≠ [] ∧
    ∀ place endpoint, race.endpoints[place]? = some endpoint → place ∉ call.legs.map Leg.place →
      ∃ cause, race.result place endpoint = .failed cause
  decided : ∀ verdict, call.verdict = some verdict → race.Decides (now - call.started) verdict

variable {race : Race} {now time other : Nat} {call : Call} {verdict rival : Verdict}

/-! ## The verdict of a race -/

/-- A race is decided at one time only. -/
theorem Decides.time_unique (decides : race.Decides time verdict)
    (decides_too : race.Decides other rival) : other = time := by
  cases decides with
  | won enters succeeds done earliest =>
    cases decides_too with
    | won rival_enters rival_succeeds rival_done rival_earliest =>
      exact Nat.le_antisymm (done ▸ rival_earliest _ _ _ enters succeeds)
        (rival_done ▸ earliest _ _ _ rival_enters rival_succeeds)
    | lost _ _ _ latest =>
      obtain ⟨-, failure, fails⟩ := latest _ _ enters
      exact nomatch succeeds.symm.trans fails
  | lost enters fails done latest =>
    cases decides_too with
    | won rival_enters rival_succeeds =>
      obtain ⟨-, failure, rival_fails⟩ := latest _ _ rival_enters
      exact nomatch rival_succeeds.symm.trans rival_fails
    | lost rival_enters _ rival_done rival_latest =>
      exact Nat.le_antisymm (rival_done ▸ (latest _ _ rival_enters).1)
        (done ▸ (rival_latest _ _ enters).1)

/-- A race of at least one endpoint is decided. -/
theorem exists_decides (entered : race.endpoints ≠ []) :
    ∃ time verdict, race.Decides time verdict := by
  by_cases succeeded : ∃ time place endpoint value, race.endpoints[place]? = some endpoint ∧
      race.result place endpoint = .replied value ∧ race.finish place endpoint = time
  · classical
    obtain ⟨place, endpoint, value, enters, succeeds, done⟩ := Nat.find_spec succeeded
    refine ⟨_, _, .won enters succeeds done fun other rival reply there wins => ?_⟩
    exact Nat.find_min' succeeded ⟨other, rival, reply, there, wins, rfl⟩
  · have failed : ∀ place endpoint, race.endpoints[place]? = some endpoint →
        ∃ cause, race.result place endpoint = .failed cause := by
      intro place endpoint there
      cases outcome : race.result place endpoint with
      | replied value => exact absurd ⟨_, place, endpoint, value, there, outcome, rfl⟩ succeeded
      | failed cause => exact ⟨cause, rfl⟩
    -- All endpoints fail, so the one that is done last decides.
    obtain ⟨place, within, last⟩ := (Finset.range race.endpoints.length).exists_max_image
      (fun place => (race.endpoints[place]?).elim 0 (race.finish place))
      ⟨0, Finset.mem_range.mpr (List.length_pos_iff.mpr entered)⟩
    have enters := List.getElem?_eq_getElem (Finset.mem_range.mp within)
    obtain ⟨cause, fails⟩ := failed place _ enters
    refine ⟨_, _, .lost enters fails rfl fun other rival there => ⟨?_, failed other rival there⟩⟩
    have order := last other (Finset.mem_range.mpr (List.getElem?_eq_some_iff.mp there).1)
    simpa [there, enters] using order

/-- The verdict of a race is never the one of a call that is put to nobody. -/
theorem Decides.ne_unanswered (decides : race.Decides time verdict) (client : Client) :
    verdict ≠ client.unansweredVerdict := by
  cases decides <;> simp [Client.unansweredVerdict]

/-! ## A call while it waits -/

/-- A read begins as a race of all endpoints of its client. -/
theorem runs_call {client : Client} {request : Request}
    (handles : client.handles.length = client.set.endpoints.length)
    (reads : request.isRead = true) (entered : race.endpoints = client.set.endpoints) :
    race.Runs now (client.call request now) := by
  have legs : (client.call request now).legs = client.legs := if_pos reads
  have all : ∀ place endpoint, race.endpoints[place]? = some endpoint →
      place ∈ client.legs.map Leg.place :=
    fun place endpoint there => Client.mem_places handles (entered ▸ there)
  refine ⟨Nat.le_refl _, ?_, ?_, ?_, ?_, ?_, ?_⟩
  · exact legs ▸ Client.places_nodup handles
  · intro leg member
    rw [entered]
    exact (Client.leg_spec (legs ▸ member)).1
  · exact fun leg member => Nat.le_add_right _ _
  · intro place endpoint there absent
    exact absurd (all place endpoint there) (legs ▸ absent)
  · intro undecided
    refine ⟨Client.legsFor_ne_nil handles request, fun place endpoint there absent => ?_⟩
    exact absurd (all place endpoint there) (legs ▸ absent)
  · intro verdict decided
    exact nomatch (Client.call_undecided handles request now).symm.trans decided

/-- An undecided call goes on to wait while its endpoints have time left. -/
theorem Runs.later (runs : race.Runs now call) {later : Nat} (forward : now ≤ later)
    (undecided : call.verdict = none)
    (open_still : ∀ leg ∈ call.legs, later ≤ call.started + race.finish leg.place leg.endpoint) :
    race.Runs later call where
  started := Nat.le_trans runs.started forward
  distinct := runs.distinct
  enters := runs.enters
  opened := open_still
  closed := fun place endpoint there absent =>
    Nat.le_trans (runs.closed place endpoint there absent) forward
  undecided := runs.undecided
  decided := fun _ decided => nomatch undecided.symm.trans decided

/-- An endpoint whose time is up is done then if it does not answer in time. -/
theorem Runs.expired (runs : race.Runs now call) {leg : Leg} (member : leg ∈ call.legs)
    (due : leg.deadline call.started ≤ now)
    (late : leg.endpoint.timeout.nanoseconds < race.delay leg.place) :
    now = call.started + race.finish leg.place leg.endpoint ∧
      race.result leg.place leg.endpoint = .failed (.timeout leg.endpoint.timeout) := by
  have left := runs.opened leg member
  have cut : race.finish leg.place leg.endpoint = leg.endpoint.timeout.nanoseconds :=
    Nat.min_eq_right (Nat.le_of_lt late)
  rw [cut] at left ⊢
  exact ⟨Nat.le_antisymm left due, if_neg (Nat.not_le.mpr late)⟩

/-- An endpoint that answers after its delay is done with its answer, for its time is not up. -/
theorem Runs.answered (runs : race.Runs now call) {leg : Leg} (member : leg ∈ call.legs)
    (done : now = call.started + race.delay leg.place) :
    now = call.started + race.finish leg.place leg.endpoint ∧
      race.result leg.place leg.endpoint = race.answer leg.place := by
  have left := runs.opened leg member
  have order : race.finish leg.place leg.endpoint ≤ race.delay leg.place := Nat.min_le_left _ _
  have within : race.finish leg.place leg.endpoint ≤ leg.endpoint.timeout.nanoseconds :=
    Nat.min_le_right _ _
  exact ⟨by omega, if_pos (by omega)⟩

/-- An endpoint that is done after another has been done before, or is the other. -/
theorem Runs.closed_or_own (runs : race.Runs now call) {leg : Leg} (member : leg ∈ call.legs)
    {place : Nat} {endpoint : Endpoint} (there : race.endpoints[place]? = some endpoint)
    (absent : place ∉ (call.legs.filter fun other => other.place ≠ leg.place).map Leg.place) :
    place ∉ call.legs.map Leg.place ∨ place = leg.place ∧ endpoint = leg.endpoint := by
  by_cases own : place = leg.place
  · rw [own, runs.enters leg member] at there
    exact .inr ⟨own, (Option.some.inj there).symm⟩
  · refine .inl fun present => absent ?_
    obtain ⟨other, waits, rfl⟩ := List.mem_map.mp present
    exact List.mem_map.mpr ⟨other, List.mem_filter.mpr ⟨waits, by simpa using own⟩, rfl⟩

/-- The first endpoint that succeeds decides the race. -/
theorem Runs.won (runs : race.Runs now call) (undecided : call.verdict = none) {leg : Leg}
    (member : leg ∈ call.legs) (done : now = call.started + race.finish leg.place leg.endpoint)
    {value : Reply} (succeeds : race.result leg.place leg.endpoint = .replied value) :
    race.Decides (now - call.started)
      (.answered ⟨value, leg.endpoint.name, now - call.started⟩) := by
  refine .won (runs.enters leg member) succeeds (by omega) fun other rival reply there wins => ?_
  by_cases present : other ∈ call.legs.map Leg.place
  · obtain ⟨waiting, waits, rfl⟩ := List.mem_map.mp present
    obtain rfl := Option.some.inj ((runs.enters waiting waits).symm.trans there)
    have left := runs.opened waiting waits
    omega
  · obtain ⟨cause, fails⟩ := (runs.undecided undecided).2 other rival there present
    exact nomatch wins.symm.trans fails

/-- The last endpoint that fails decides the race. -/
theorem Runs.lost (runs : race.Runs now call) (undecided : call.verdict = none) {leg : Leg}
    (member : leg ∈ call.legs) (done : now = call.started + race.finish leg.place leg.endpoint)
    (last : call.legs.filter (fun other => other.place ≠ leg.place) = []) {cause : NodeError}
    (fails : race.result leg.place leg.endpoint = .failed cause) :
    race.Decides (now - call.started)
      (.failed (.call leg.endpoint.name (now - call.started) cause)) := by
  refine .lost (runs.enters leg member) fails (by omega) fun other rival there => ?_
  obtain closed | ⟨rfl, rfl⟩ := runs.closed_or_own member there (last ▸ List.not_mem_nil)
  · have before := runs.closed other rival there closed
    exact ⟨by omega, (runs.undecided undecided).2 other rival there closed⟩
  · exact ⟨by omega, cause, fails⟩

/-- When an endpoint is done the call is decided as the race is, or goes on to wait. -/
theorem Runs.endLeg (runs : race.Runs now call) {leg : Leg} (member : leg ∈ call.legs)
    (done : now = call.started + race.finish leg.place leg.endpoint) :
    race.Runs now (call.endLeg leg (race.result leg.place leg.endpoint) now) where
  started := runs.started
  distinct := runs.distinct.sublist (List.filter_sublist.map _)
  enters := fun other kept => runs.enters other (List.mem_filter.mp kept).1
  opened := fun other kept => runs.opened other (List.mem_filter.mp kept).1
  closed := by
    intro place endpoint there absent
    obtain closed | ⟨rfl, rfl⟩ := runs.closed_or_own member there absent
    · exact runs.closed place endpoint there closed
    · exact Nat.le_of_eq done.symm
  undecided := by
    intro undecided
    obtain ⟨before, ⟨cause, fails⟩, others⟩ := Call.judge_eq_none undecided
    refine ⟨others, fun place endpoint there absent => ?_⟩
    obtain closed | ⟨rfl, rfl⟩ := runs.closed_or_own member there absent
    · exact (runs.undecided before).2 place endpoint there closed
    · exact ⟨cause, fails⟩
  decided := by
    intro verdict decided
    obtain before | ⟨before, last, rfl⟩ := Call.judge_cases decided
    · exact runs.decided verdict before
    · cases outcome : race.result leg.place leg.endpoint with
      | replied value => exact runs.won before member done outcome
      | failed cause => exact runs.lost before member done (last (by rw [outcome]; rfl)) outcome

/-- A call that is undecided has not waited for longer than its race lasts. -/
theorem Runs.not_late (runs : race.Runs now call) (undecided : call.verdict = none)
    (decides : race.Decides time verdict) : now ≤ call.started + time := by
  obtain ⟨waits, failed⟩ := runs.undecided undecided
  cases decides with
  | @won place endpoint value enters succeeds done =>
    by_cases present : place ∈ call.legs.map Leg.place
    · obtain ⟨leg, opened, rfl⟩ := List.mem_map.mp present
      obtain rfl := Option.some.inj ((runs.enters leg opened).symm.trans enters)
      exact done ▸ runs.opened leg opened
    · obtain ⟨cause, fails⟩ := failed place endpoint enters present
      exact nomatch succeeds.symm.trans fails
  | lost _ _ _ latest =>
    obtain ⟨leg, member⟩ := List.exists_mem_of_ne_nil _ waits
    exact Nat.le_trans (runs.opened leg member)
      (Nat.add_le_add_left (latest _ _ (runs.enters leg member)).1 _)

end Race

end Inclusion
