import Inclusion.Proofs.System.Race

/-!
# Reads of an idle system

In a system in which nothing else goes on a read is answered, whatever its endpoints do: time passes
to the moment at which the next of them is done, until the race is decided. So a race is held in
some run in which the read returns, if only its answers are such as the request asks for.
-/

namespace Inclusion.System

/-- Nothing goes on in a system but calls. -/
structure IsIdle (system : System) : Prop where
  tasks : system.tasks = []
  pollers : system.monitor.pollers = []
  callbacks : system.callbacks = []

/-- A read of somebody outside, undecided as yet, is all that goes on in a system. -/
structure Awaits (race : Race) (call started : Nat) (trace : List Moment) (system : System)
    (record : CallRecord) : Prop where
  idle : system.IsIdle
  calls : system.calls = [record]
  number : record.id = call
  begun : record.call.started = started
  owned : ∃ name, record.owner = some (.caller name)
  undecided : record.call.verdict = none
  runs : race.Runs system.now record.call
  ended : ∀ place endpoint, race.endpoints[place]? = some endpoint →
    place ∉ record.call.legs.map Leg.place → (call, place) ∈ (completions trace).map Completion.part
  fit : ∀ place endpoint, race.endpoints[place]? = some endpoint →
    fits record.call.request (race.answer place) = true

variable {race : Race} {call started now : Nat} {trace : List Moment} {start system : System}
  {record : CallRecord} {moment : Moment} {request : Request} {client : Client} {leg : Leg}

theorem IsHeld.concat (held : IsHeld race call started trace)
    (in_race : moment.event.InRace race call started ((completions trace).map Completion.part)
      moment.before.now) : IsHeld race call started (trace ++ [moment]) := by
  intro earlier other later split
  obtain rfl | ⟨later, last, rfl⟩ := later.eq_nil_or_concat
  · obtain ⟨rfl, same⟩ := List.append_inj' split rfl
    obtain rfl := List.singleton_inj.mp same
    exact in_race
  · rw [List.concat_eq_append, ← List.cons_append, ← List.append_assoc] at split
    exact held earlier other later (List.append_inj' split rfl).1

/-! ## The passing of time -/

theorem step_timePassed (settled : system.isSettled = true) (forward : system.now ≤ now)
    (due : ∀ deadline ∈ system.deadlines, now ≤ deadline) :
    system.step (.timePassed now) = some ({ system with now }, []) := by
  have allowed :
      (system.isSettled && system.now ≤ now && system.deadlines.all (now ≤ ·)) = true := by
    simpa [settled, forward] using due
  exact if_pos allowed

/-- Nothing happens before time passes, unless the time of an endpoint is up. -/
theorem Awaits.isSettled (awaits : Awaits race call started trace system record)
    (early : ∀ leg ∈ record.call.legs, system.now < leg.deadline record.call.started) :
    system.isSettled = true := by
  have calm : system.nextEvent? = none := by
    simp [nextEvent?, Monitor.nextEvent?, nextTaskEvent?, returnable, awaits.idle.pollers,
      awaits.idle.callbacks, awaits.idle.tasks, awaits.calls, awaits.undecided]
  have unexpired : system.nextExpiry? = none := by
    simpa [nextExpiry?, expired, awaits.calls] using early
  simp [System.isSettled, calm, unexpired]

/-- One of the endpoints that are not done is the next to be. -/
theorem Awaits.exists_next (awaits : Awaits race call started trace system record) :
    ∃ leg ∈ record.call.legs, ∀ other ∈ record.call.legs,
      race.finish leg.place leg.endpoint ≤ race.finish other.place other.endpoint := by
  have waits := (awaits.runs.undecided awaits.undecided).1
  obtain ⟨leg, member, least⟩ := record.call.legs.toFinset.exists_min_image
    (fun leg => race.finish leg.place leg.endpoint) (List.toFinset_nonempty_iff _ |>.mpr waits)
  exact ⟨leg, List.mem_toFinset.mp member, fun other there =>
    least other (List.mem_toFinset.mpr there)⟩

/-- Time can pass to the moment at which the next endpoint is done. -/
theorem Awaits.passes (awaits : Awaits race call started trace system record)
    (next : ∀ other ∈ record.call.legs, now ≤ started + race.finish other.place other.endpoint)
    (later : system.now < now) :
    system.step (.timePassed now) = some ({ system with now }, []) ∧
      Awaits race call started (trace ++ [⟨system, .timePassed now, []⟩]) { system with now }
        record ∧
      (Event.timePassed now).InRace race call started ((completions trace).map Completion.part)
        system.now := by
  have early : ∀ leg ∈ record.call.legs, now ≤ leg.deadline record.call.started := by
    intro leg member
    have within : race.finish leg.place leg.endpoint ≤ leg.endpoint.timeout.nanoseconds :=
      Nat.min_le_right _ _
    exact awaits.begun ▸ (next leg member).trans (Nat.add_le_add_left within _)
  refine ⟨?_, ?_, ?_⟩
  · refine step_timePassed (awaits.isSettled fun leg member => later.trans_le (early leg member))
      later.le ?_
    simpa [deadlines, Monitor.deadlines, awaits.idle.tasks, awaits.idle.pollers, awaits.calls]
      using early
  · have idle : IsIdle { system with now } :=
      ⟨awaits.idle.tasks, awaits.idle.pollers, awaits.idle.callbacks⟩
    refine { awaits with idle, runs := ?_, ended := ?_ }
    · exact awaits.runs.later later.le awaits.undecided (awaits.begun.symm ▸ next)
    · intro place endpoint there absent
      rw [completions_concat, List.map_append]
      exact List.mem_append_left _ (awaits.ended place endpoint there absent)
  · intro place within endpoint there punctual beyond
    refine awaits.ended place endpoint there fun present => ?_
    obtain ⟨leg, member, rfl⟩ := List.mem_map.mp present
    obtain rfl := Option.some.inj ((awaits.runs.enters leg member).symm.trans there)
    have order := next leg member
    rw [Race.finish, Nat.min_eq_left punctual] at order
    exact absurd beyond (Nat.not_lt.mpr order)

/-- A run goes on to the moment at which the next endpoint is done. -/
theorem Awaits.exists_due (awaits : Awaits race call started trace system record)
    (run : Run start trace system) (held : IsHeld race call started trace) :
    ∃ more next leg, Run start (trace ++ more) next ∧ IsHeld race call started (trace ++ more) ∧
      Awaits race call started (trace ++ more) next record ∧ leg ∈ record.call.legs ∧
      next.now = started + race.finish leg.place leg.endpoint := by
  obtain ⟨leg, member, least⟩ := awaits.exists_next
  have left := awaits.runs.opened leg member
  rw [awaits.begun] at left
  obtain now | later := left.eq_or_lt
  · rw [← List.append_nil trace] at run held awaits
    exact ⟨[], system, leg, run, held, awaits, member, now⟩
  · obtain ⟨stepped, awaits, in_race⟩ := awaits.passes
      (fun other there => Nat.add_le_add_left (least other there) started) later
    exact ⟨_, _, leg, run.step stepped, held.concat in_race, awaits, member, rfl⟩

/-! ## The ends of parts -/

theorem Awaits.call? (awaits : Awaits race call started trace system record) :
    system.call? call = some record := by
  simp [System.call?, awaits.calls, awaits.number]

theorem Awaits.leg? (awaits : Awaits race call started trace system record)
    (member : leg ∈ record.call.legs) : record.call.leg? leg.place = some leg := by
  obtain ⟨other, found⟩ := Option.isSome_iff_exists.mp
    ((List.find?_isSome (p := fun other : Leg => other.place = leg.place)).mpr
      ⟨leg, member, by simp⟩)
  obtain ⟨there, same⟩ := Call.mem_of_leg? found
  obtain rfl := List.inj_on_of_nodup_map awaits.runs.distinct there member same
  exact found

/-- An endpoint that is done answers, or its time is up. -/
theorem Awaits.exists_end (awaits : Awaits race call started trace system record)
    (member : leg ∈ record.call.legs)
    (done : system.now = started + race.finish leg.place leg.endpoint) :
    ∃ event completion, event.completion? = some completion ∧
      completion.part = (call, leg.place) ∧
      event.InRace race call started ((completions trace).map Completion.part) system.now ∧
      system.step event =
        some (system.endLeg record leg (race.result leg.place leg.endpoint)) := by
  have enters := awaits.runs.enters leg member
  by_cases punctual : race.delay leg.place ≤ leg.endpoint.timeout.nanoseconds
  · refine ⟨.legEnded call leg.place (race.answer leg.place), _, rfl, rfl, ?_, ?_⟩
    · rw [Race.finish, Nat.min_eq_left punctual] at done
      exact fun _ => ⟨done, rfl⟩
    · have result : race.result leg.place leg.endpoint = race.answer leg.place := if_pos punctual
      simp [step, awaits.call?, awaits.leg? member, awaits.fit _ _ enters, result]
  · have late := Nat.not_le.mp punctual
    refine ⟨.legExpired call leg.place, _, rfl, rfl, ?_, ?_⟩
    · rintro - endpoint there
      obtain rfl := Option.some.inj (enters.symm.trans there)
      exact late
    · have result : race.result leg.place leg.endpoint = .failed (.timeout leg.endpoint.timeout) :=
        if_neg punctual
      have due : leg.deadline record.call.started ≤ system.now := by
        rw [done, awaits.begun, Race.finish, Nat.min_eq_right late.le]
        exact Nat.le_refl _
      simp [step, awaits.call?, awaits.leg? member, due, result]

/-- When a part ends the call is still all that goes on. -/
theorem Awaits.only (awaits : Awaits race call started trace system record) (leg : Leg)
    (outcome : Outcome) :
    (system.endLeg record leg outcome).1.IsIdle ∧
      (system.endLeg record leg outcome).1.now = system.now ∧
      (system.endLeg record leg outcome).1.calls =
        [{ record with call := record.call.endLeg leg outcome system.now }] := by
  obtain ⟨name, owned⟩ := awaits.owned
  have kept : ({ record with call := record.call.endLeg leg outcome system.now } :
      CallRecord).owner.isNone = false := by
    rw [owned]
    rfl
  unfold System.endLeg System.setCall
  rw [kept, Bool.false_and, if_neg Bool.false_ne_true]
  refine ⟨⟨awaits.idle.tasks, awaits.idle.pollers, awaits.idle.callbacks⟩, rfl, ?_⟩
  simp [awaits.calls]

/-- When an endpoint is done an undecided read awaits one less. -/
theorem Awaits.goes_on (awaits : Awaits race call started trace system record)
    (member : leg ∈ record.call.legs)
    (done : system.now = started + race.finish leg.place leg.endpoint)
    {completion : Completion} (ends : moment.event.completion? = some completion)
    (part : completion.part = (call, leg.place)) {outcome : Outcome}
    (result : race.result leg.place leg.endpoint = outcome)
    (undecided : (record.call.endLeg leg outcome system.now).verdict = none) :
    Awaits race call started (trace ++ [moment]) (system.endLeg record leg outcome).1
      { record with call := record.call.endLeg leg outcome system.now } := by
  obtain ⟨idle, now, calls⟩ := awaits.only leg outcome
  refine ⟨idle, calls, awaits.number, awaits.begun, awaits.owned, undecided, ?_, ?_, awaits.fit⟩
  · rw [now, ← result]
    exact awaits.runs.endLeg member (awaits.begun.symm ▸ done)
  · intro place endpoint there absent
    rw [completions_concat, ends, Option.toList_some, List.map_append, List.mem_append]
    obtain closed | ⟨rfl, -⟩ := awaits.runs.closed_or_own member there absent
    · exact .inl (awaits.ended place endpoint there closed)
    · exact .inr (List.mem_singleton.mpr part.symm)

/-! ## The return of the read -/

/-- A call of somebody outside returns when it is decided. -/
theorem Run.exists_returned (run : Run start trace system) (held : IsHeld race call started trace)
    (found : system.call? call = some record) {name : Nat}
    (owned : record.owner = some (.caller name)) {verdict : Verdict}
    (decided : record.call.verdict = some verdict) :
    ∃ more final, Run start (trace ++ more) final ∧ IsHeld race call started (trace ++ more) ∧
      returnsOf call more ≠ [] := by
  obtain ⟨⟨final, effects⟩, stepped⟩ : ∃ turn, system.step (.callReturned call) = some turn := by
    simp [System.step, found, owned, decided, deliver]
  refine ⟨[⟨system, .callReturned call, effects⟩], final, run.step stepped, held.concat trivial, ?_⟩
  simp [returnsOf, Event.returnsCall]

/-- A read that awaits its endpoints returns in some run. -/
theorem Awaits.exists_return (awaits : Awaits race call started trace system record)
    (run : Run start trace system) (held : IsHeld race call started trace) :
    ∃ more final, Run start (trace ++ more) final ∧ IsHeld race call started (trace ++ more) ∧
      returnsOf call more ≠ [] := by
  -- The induction is on the endpoints that are not done.
  induction remaining : record.call.legs.length using Nat.strong_induction_on
    generalizing trace system record with
  | _ remaining inductionHypothesis =>
    subst remaining
    obtain ⟨before, due, leg, run, held, awaits, member, done⟩ := awaits.exists_due run held
    obtain ⟨event, completion, ends, part, in_race, stepped⟩ := awaits.exists_end member done
    generalize result : race.result leg.place leg.endpoint = outcome at stepped
    obtain ⟨-, -, calls⟩ := awaits.only leg outcome
    let moment : Moment := ⟨due, event, (due.endLeg record leg outcome).2⟩
    have run : Run start (trace ++ before ++ [moment]) (due.endLeg record leg outcome).1 :=
      run.step stepped
    have held : IsHeld race call started (trace ++ before ++ [moment]) := held.concat in_race
    obtain ⟨more, final, run, held, returns⟩ : ∃ more final,
        Run start (trace ++ before ++ [moment] ++ more) final ∧
          IsHeld race call started (trace ++ before ++ [moment] ++ more) ∧
          returnsOf call more ≠ [] := by
      cases decided : (record.call.endLeg leg outcome due.now).verdict with
      | none =>
        have fewer : (record.call.endLeg leg outcome due.now).legs.length <
            record.call.legs.length :=
          List.length_filter_lt_length_iff_exists.mpr ⟨leg, member, by simp⟩
        exact inductionHypothesis _ fewer (awaits.goes_on member done ends part result decided) run
          held rfl
      | some verdict =>
        obtain ⟨name, owned⟩ := awaits.owned
        have found : (due.endLeg record leg outcome).1.call? call =
            some { record with call := record.call.endLeg leg outcome due.now } := by
          simp [System.call?, calls, awaits.number]
        exact run.exists_returned held found owned decided
    rw [List.append_assoc, List.append_assoc] at run held
    refine ⟨_, final, run, held, ?_⟩
    rw [returnsOf_append, returnsOf_append]
    simp [returns]

/-- Whatever the nodes of a client do when they are asked in an idle system, there is a run in which
they do so and the read returns. -/
theorem exists_returned_read (idle : system.IsIdle) (uncalled : system.calls = [])
    {index name : Nat} (there : system.clients[index]? = some client)
    (handles : client.handles.length = client.set.endpoints.length)
    (reads : request.isRead = true) (entered : race.endpoints = client.set.endpoints)
    (fit : ∀ place endpoint, race.endpoints[place]? = some endpoint →
      fits request (race.answer place) = true) :
    ∃ moment after final, Run system (moment :: after) final ∧ moment.before = system ∧
      moment.event = .request index request name ∧
      IsHeld race system.nextCall system.now (moment :: after) ∧
      returnsOf system.nextCall after ≠ [] := by
  let record : CallRecord :=
    ⟨system.nextCall, some (.caller name), client.call request system.now⟩
  obtain ⟨next, effects, stepped, idle, now, calls⟩ : ∃ next effects,
      system.step (.request index request name) = some (next, effects) ∧ next.IsIdle ∧
        next.now = system.now ∧ next.calls = [record] := by
    have within : index < system.clients.length := (List.getElem?_eq_some_iff.mp there).1
    refine ⟨_, _, if_pos within, ?_⟩
    rw [there, uncalled]
    exact ⟨⟨idle.tasks, idle.pollers, idle.callbacks⟩, rfl, rfl⟩
  let moment : Moment := ⟨system, .request index request name, effects⟩
  have run : Run system [moment] next := Run.refl.step stepped
  have nothing : IsHeld race system.nextCall system.now [] := fun earlier other later split => by
    simp at split
  have held : IsHeld race system.nextCall system.now [moment] := nothing.concat trivial
  have awaits : Awaits race system.nextCall system.now [moment] next record := by
    refine ⟨idle, calls, rfl, rfl, ⟨name, rfl⟩, Client.call_undecided handles request system.now,
      ?_, ?_, fit⟩
    · exact now ▸ Race.runs_call handles reads entered
    · intro place endpoint enters absent
      have legs : (client.call request system.now).legs = client.legs := if_pos reads
      exact absurd (Client.mem_places handles (entered ▸ enters)) (legs ▸ absent)
  obtain ⟨more, final, run, held, returns⟩ := awaits.exists_return run held
  exact ⟨moment, more, final, run, rfl, rfl, held, returns⟩

end Inclusion.System
