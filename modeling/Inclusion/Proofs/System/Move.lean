import Inclusion.System.Step

/-!
# The rules by which a system moves

`System.step` is authoritative; `Move` lists the same steps as rules, one for each way in which
something can happen, with what must hold before it. The two agree by `step_eq_some_iff`. What is an
event of a task or of the monitor, or the delivery of a verdict to either, is left to the rules of
that part.
-/

namespace Inclusion.System

/-- A step of a system: what happens, what the system is afterwards, and what can be seen of it. -/
inductive Move (system : System) : Event → Turn → Prop where
  | task {id event turn} (own : event ∈ Task.ownEvents)
      (stepped : system.stepTask id event = some turn) : Move system (.task id event) turn
  | poller {poller event turn} (member : poller ∈ system.monitor.pollers)
      (own : event ∈ Monitor.ownEvents poller) (stepped : system.stepMonitor event = some turn) :
      Move system (.poller event) turn
  | told {place bundle registration}
      (found : system.callbacks[place]? = some (bundle, registration)) :
      Move system (.callbackRun place) ({ system with
        callbacks := system.callbacks.eraseIdx place }.tellConfirmed registration)
  | returned {call record owner verdict turn} (found : system.call? call = some record)
      (owned : record.owner = some owner) (decided : record.call.verdict = some verdict)
      (delivered : system.deliver record owner verdict = some turn) :
      Move system (.callReturned call) turn
  | expired {call place record leg} (found : system.call? call = some record)
      (opened : record.call.leg? place = some leg)
      (due : leg.deadline record.call.started ≤ system.now) :
      Move system (.legExpired call place)
        (system.endLeg record leg (.failed (.timeout leg.endpoint.timeout)))
  | ended {call place record leg outcome} (found : system.call? call = some record)
      (opened : record.call.leg? place = some leg)
      (fit : fits record.call.request outcome = true) :
      Move system (.legEnded call place outcome) (system.endLeg record leg outcome)
  | passed {now} (settled : system.isSettled = true) (forward : system.now ≤ now)
      (due : ∀ deadline ∈ system.deadlines, now ≤ deadline) :
      Move system (.timePassed now) ({ system with now }, [])
  | invalid {engine trytes present cause} (found : system.engines[engine]? = some present)
      (unread : tailOf trytes = .error cause) :
      Move system (.start engine trytes) (system, [.startRefused engine (.invalidBundle cause)])
  | busy {engine trytes present tail} (found : system.engines[engine]? = some present)
      (read : tailOf trytes = .ok tail) (running : present.running = true) :
      Move system (.start engine trytes) (system, [.startRefused engine .alreadyRunning])
  | overflowed {engine trytes present tail} (found : system.engines[engine]? = some present)
      (read : tailOf trytes = .ok tail) (free : present.running = false)
      (unmade : present.task? tail trytes system.now = none) :
      Move system (.start engine trytes)
        (system.modifyEngine engine fun present => { present with running := true },
          [.startOverflowed engine])
  | started {engine trytes present tail task} (found : system.engines[engine]? = some present)
      (read : tailOf trytes = .ok tail) (free : present.running = false)
      (made : present.task? tail trytes system.now = some task) :
      Move system (.start engine trytes)
        ({ system with
            engines := system.engines.modify engine fun present =>
              { present with
                running := true
                activeLoops := present.activeLoops + Task.parties.length
                bundle := some tail.bundle }
            stopwatch :=
              ((system.stopwatch.erase tail.bundle.text).start tail.bundle.text system.now).1
            tasks := system.tasks ++ [⟨engine, task⟩] },
          [.started engine system.tasks.length])
  | cancel {id turn} (stepped : system.stepTask id .cancelRequested = some turn) :
      Move system (.cancel id) turn
  | received {id turn} (stepped : system.stepTask id .received = some turn) :
      Move system (.received id) turn
  | streamDropped {id turn} (stepped : system.stepTask id .streamDropped = some turn) :
      Move system (.streamDropped id) turn
  | register {bundle watcher turn} (outside : ∀ task, watcher ≠ .supervisor task)
      (stepped : system.stepMonitor (.register bundle watcher) = some turn) :
      Move system (.register bundle watcher) turn
  | cancelRegistration {bundle id turn}
      (stepped : system.stepMonitor (.cancelRegistration bundle id) = some turn) :
      Move system (.cancelRegistration bundle id) turn
  | cancelPolling {bundle turn} (stepped : system.stepMonitor (.cancelPolling bundle) = some turn) :
      Move system (.cancelPolling bundle) turn
  | notifyConfirmed {bundle turn}
      (stepped : system.stepMonitor (.notifyConfirmed bundle) = some turn) :
      Move system (.notifyConfirmed bundle) turn
  | feedChanged {connected turn}
      (stepped : system.stepMonitor (.feedChanged connected) = some turn) :
      Move system (.feedChanged connected) turn
  | feedSpoke {text} : Move system (.feedSpoke text) (carryOut hearLine system (Text.lines text))
  | request {client request caller} (there : client < system.clients.length) :
      Move system (.request client request caller)
        (system.beginCall (.caller caller) client request)
  | stopwatchStarted {name} :
      Move system (.stopwatchStarted name)
        ({ system with stopwatch := (system.stopwatch.start name system.now).1 },
          [.stopwatch (system.stopwatch.start name system.now).2])
  | stopwatchStopped {name} :
      Move system (.stopwatchStopped name)
        ({ system with stopwatch := (system.stopwatch.stop name system.now).1 },
          [.stopwatch (system.stopwatch.stop name system.now).2])
  | stopwatchTaken {name} :
      Move system (.stopwatchTaken name)
        ({ system with stopwatch := (system.stopwatch.take name system.now).1 },
          [.stopwatch (system.stopwatch.take name system.now).2.isSome])

variable {system : System} {event : Event} {turn : Turn}

/-- The rules of a start cover it. -/
theorem move_of_startTask {engine : Nat} {trytes : List String}
    (started : system.startTask engine trytes = some turn) :
    Move system (.start engine trytes) turn := by
  unfold startTask at started
  split at started
  · cases started
  · next present found =>
    split at started
    · next cause unread =>
      obtain rfl := Option.some.inj started
      exact .invalid found unread
    · next tail read =>
      split at started
      · next running =>
        obtain rfl := Option.some.inj started
        exact .busy found read running
      · next free =>
        have free := eq_false_of_ne_true free
        simp only at started
        split at started
        · next unmade =>
          obtain rfl := Option.some.inj started
          exact .overflowed found read free unmade
        · next task made =>
          obtain rfl := Option.some.inj started
          simp only [modifyEngine, List.modify_modify_eq]
          exact .started found read free made

/-- The rules cover every step. -/
theorem move_of_step (stepped : system.step event = some turn) : Move system event turn := by
  cases event with
  | task id event =>
    obtain ⟨own, stepped⟩ := Option.ite_none_right_eq_some.mp stepped
    exact .task own stepped
  | poller event =>
    obtain ⟨own, stepped⟩ := Option.ite_none_right_eq_some.mp stepped
    obtain ⟨poller, member, own⟩ := List.any_eq_true.mp own
    exact .poller member (of_decide_eq_true own) stepped
  | callbackRun place =>
    simp only [step] at stepped
    split at stepped
    · cases stepped
    · next found =>
      obtain rfl := Option.some.inj stepped
      exact .told found
  | callReturned call =>
    simp only [step] at stepped
    split at stepped
    · next found =>
      split at stepped
      · next owned decided => exact .returned found owned decided stepped
      · cases stepped
    · cases stepped
  | legExpired call place =>
    simp only [step] at stepped
    split at stepped
    · next found =>
      split at stepped
      · next opened =>
        obtain ⟨due, ⟨⟩⟩ := Option.ite_none_right_eq_some.mp stepped
        exact .expired found opened due
      · cases stepped
    · cases stepped
  | legEnded call place outcome =>
    simp only [step] at stepped
    split at stepped
    · next found =>
      split at stepped
      · next opened =>
        obtain ⟨fit, ⟨⟩⟩ := Option.ite_none_right_eq_some.mp stepped
        exact .ended found opened fit
      · cases stepped
    · cases stepped
  | timePassed now =>
    obtain ⟨passes, ⟨⟩⟩ := Option.ite_none_right_eq_some.mp stepped
    simp only [Bool.and_eq_true, decide_eq_true_eq, List.all_eq_true] at passes
    exact .passed passes.1.1 passes.1.2 passes.2
  | start engine trytes => exact move_of_startTask stepped
  | cancel id => exact .cancel stepped
  | received id => exact .received stepped
  | streamDropped id => exact .streamDropped stepped
  | register bundle watcher =>
    cases watcher with
    | supervisor => cases stepped
    | callback | waiter => exact .register nofun stepped
  | cancelRegistration => exact .cancelRegistration stepped
  | cancelPolling => exact .cancelPolling stepped
  | notifyConfirmed => exact .notifyConfirmed stepped
  | feedChanged => exact .feedChanged stepped
  | feedSpoke text =>
    obtain rfl := Option.some.inj stepped
    exact .feedSpoke
  | request client request caller =>
    obtain ⟨there, ⟨⟩⟩ := Option.ite_none_right_eq_some.mp stepped
    exact .request there
  | stopwatchStarted =>
    obtain rfl := Option.some.inj stepped
    exact .stopwatchStarted
  | stopwatchStopped =>
    obtain rfl := Option.some.inj stepped
    exact .stopwatchStopped
  | stopwatchTaken =>
    obtain rfl := Option.some.inj stepped
    exact .stopwatchTaken

/-- The rules are the steps. -/
theorem step_eq_some_iff : system.step event = some turn ↔ Move system event turn := by
  refine ⟨move_of_step, fun move => ?_⟩
  cases move with
  | task own stepped => exact (if_pos own).trans stepped
  | poller member own stepped =>
    exact (if_pos (List.any_eq_true.mpr ⟨_, member, decide_eq_true own⟩)).trans stepped
  | told found => simp only [step, found]
  | returned found owned decided delivered => simp only [step, found, owned, decided, delivered]
  | expired found opened due => simp only [step, found, opened, if_pos due]
  | ended found opened fit => simp only [step, found, opened, if_pos fit]
  | passed settled forward due => simpa [step, settled, forward] using due
  | invalid found unread => simp only [step, startTask, found, unread]
  | busy found read running => simp only [step, startTask, found, read, if_pos running]
  | overflowed found read free unmade =>
    simp [step, startTask, found, read, free, unmade]
  | started found read free made =>
    simp [step, startTask, found, read, free, made, modifyEngine, List.modify_modify_eq]
    rfl
  | @register bundle watcher turn outside stepped =>
    cases watcher with
    | supervisor task => exact absurd rfl (outside task)
    | callback | waiter => exact stepped
  | cancel stepped | received stepped | streamDropped stepped | cancelRegistration stepped
  | cancelPolling stepped | notifyConfirmed stepped | feedChanged stepped => exact stepped
  | request there => exact if_pos there
  | feedSpoke | stopwatchStarted | stopwatchStopped | stopwatchTaken => rfl

end Inclusion.System
