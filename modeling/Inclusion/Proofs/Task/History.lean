import Inclusion.Proofs.Task.Dialogue

/-!
# The history of attempts

The dialogue of a task is divided into attempts: what is said from the beginning of an attempt to
its end belongs to it, and the calls of other loops than its own do not. An attempt is known by its
calls and by what those that have returned have brought.

The calls of an attempt follow one another in the order of its kind. `Underway` says how far an
attempt has come, one rule for each call; what an attempt refers to, the tail and the trytes that
its task stood by when it began, is all that it takes from outside. `Ending` says how an attempt
comes to its end.
-/

namespace Inclusion

/-- The operations of an attempt of a kind, in order. -/
def AttemptKind.operations : AttemptKind → List Operation
  | promotion => [.prepareTransfers, .selectTips, .attachToTangle, .storeAndBroadcast]
  | reattachment => [.selectTips, .attachToTangle, .storeAndBroadcast]

/-- A call that has returned. -/
structure Exchange where
  request : Request
  verdict : Verdict
deriving DecidableEq

/-- What an answered call has brought. -/
def Verdict.reply? : Verdict → Option Reply
  | answered answer => some answer.value
  | failed _ => none

/-- An attempt, as it is seen from outside. -/
structure Attempt where
  kind : AttemptKind
  /-- Its calls, in order. -/
  requests : List Request := []
  /-- Those of its calls that have returned, in order. -/
  exchanges : List Exchange := []
deriving DecidableEq

namespace Attempt

/-- The calls of an attempt with the loop that makes them. -/
def calls (attempt : Attempt) : List (Party × Request) :=
  attempt.requests.map (attempt.kind.party, ·)

/-- What the attempt's call for an operation has brought. -/
def reply? (attempt : Attempt) (operation : Operation) : Option Reply :=
  attempt.exchanges.findSome? fun exchange =>
    if exchange.request.operation = operation then exchange.verdict.reply? else none

/-- The trytes that a successful attempt has attached and broadcast. -/
def output? (attempt : Attempt) : Option (List String) :=
  match attempt.reply? .storeAndBroadcast, attempt.reply? .attachToTangle with
  | some _, some (.trytes attached) => some attached
  | _, _ => none

/-- All calls of the attempt but the last have returned. -/
def IsOpen (attempt : Attempt) : Prop :=
  ∃ request, attempt.requests = attempt.exchanges.map Exchange.request ++ [request]

/-- All calls of the attempt have returned. -/
def IsClosed (attempt : Attempt) : Prop :=
  attempt.requests = attempt.exchanges.map Exchange.request

/-- The attempt has made all the calls of its kind. -/
def IsComplete (attempt : Attempt) : Prop :=
  attempt.requests.map Request.operation = attempt.kind.operations

/-- The last call of the attempt has failed, or the trytes that it has attached are rejected: they
are no bundle or, in a reattachment, another bundle. -/
def IsStopped (attempt : Attempt) (bundle : Hash) : Prop :=
  ∃ exchange, attempt.exchanges.getLast? = some exchange ∧
    (exchange.verdict.reply? = none ∨
      exchange.request.operation = .attachToTangle ∧
        ∃ attached, exchange.verdict.reply? = some (.trytes attached) ∧
          ∀ tail, tailOf attached = .ok tail →
            attempt.kind = .reattachment ∧ tail.bundle ≠ bundle)

/-- The calls of an attempt follow one another in the order of its kind, and each goes on with what
the earlier ones have brought. -/
structure Conforms (attempt : Attempt) : Prop where
  order : attempt.requests.map Request.operation <+: attempt.kind.operations
  /-- What is broadcast is what was attached. -/
  broadcast : ∀ trytes, .storeAndBroadcast trytes ∈ attempt.requests →
    attempt.reply? .attachToTangle = some (.trytes trytes)
  /-- What was prepared is attached to the branch of the tips, and a reattachment to their trunk. -/
  attach : ∀ trunk branch weight payload,
    .attachToTangle trunk branch weight payload ∈ attempt.requests →
      ∃ tips, attempt.reply? .selectTips = some (.tips tips) ∧ branch = tips.branch ∧
        (attempt.kind = .promotion →
          attempt.reply? .prepareTransfers = some (.trytes payload)) ∧
        (attempt.kind = .reattachment → trunk = tips.trunk)

end Attempt

/-! ## Dividing a dialogue -/

/-- Whether an operation is one of an attempt. -/
def Operation.isForAttempt (operation : Operation) : Bool :=
  operation ∈ AttemptKind.promotion.operations

/-- The call for an operation of an attempt that is made by something said. -/
def Task.Act.call? : Task.Act → Option (Party × Request)
  | .asks party request => if request.operation.isForAttempt then some (party, request) else none
  | _ => none

/-- The kind of the attempt that begins by something said. -/
def Task.Act.begun? : Task.Act → Option AttemptKind
  | .begins kind => some kind
  | _ => none

/-- An attempt to which its own loop adds what it asks and hears. -/
def Attempt.add (attempt : Attempt) : Task.Act → Attempt
  | .asks party request =>
    if party = attempt.kind.party then
      { attempt with requests := attempt.requests ++ [request] }
    else attempt
  | .hears party request verdict =>
    if party = attempt.kind.party then
      { attempt with exchanges := attempt.exchanges ++ [⟨request, verdict⟩] }
    else attempt
  | .begins _ | .ends _ => attempt

/-- The attempts of a dialogue that are over, in order, and the one under way. -/
structure History where
  past : List Attempt := []
  current : Option Attempt := none
deriving DecidableEq

namespace History

/-- All attempts, in the order in which they have begun. -/
def attempts (history : History) : List Attempt :=
  history.past ++ history.current.toList

/-- A history to which something said is added. -/
def add (history : History) : Task.Act → History
  | .begins kind => ⟨history.attempts, some { kind }⟩
  | .ends _ => ⟨history.attempts, none⟩
  | act => { history with current := history.current.map (·.add act) }

/-- The history of a dialogue. -/
def of (said : List Task.Act) : History :=
  said.foldl add {}

@[simp] theorem of_nil : of [] = {} := rfl

@[simp] theorem of_append (first second : List Task.Act) :
    of (first ++ second) = second.foldl add (of first) :=
  List.foldl_append

end History

/-! ## What an attempt refers to -/

/-- Whether a successful attempt of a kind replaces the tail. A reattachment does, and a promotion
if promotions are chained. -/
def AttemptKind.replacesTail (chain : Bool) : AttemptKind → Bool
  | promotion => chain
  | reattachment => true

/-- Whether a successful attempt of a kind replaces the trytes. -/
def AttemptKind.replacesTrytes : AttemptKind → Bool
  | promotion => false
  | reattachment => true

/-- If promotions are not chained, the tail is replaced exactly when the trytes are. -/
theorem AttemptKind.replacesTail_false : replacesTail false = replacesTrytes := by
  funext kind
  cases kind <;> rfl

/-- The output of the last successful attempt of one of the given kinds, or the given trytes if
there is none. -/
def latestOutput (counts : AttemptKind → Bool) (first : List String) (attempts : List Attempt) :
    List String :=
  ((attempts.filter fun attempt => counts attempt.kind).filterMap Attempt.output?).getLast?.getD
    first

@[simp] theorem latestOutput_nil (counts : AttemptKind → Bool) (first : List String) :
    latestOutput counts first [] = first := rfl

theorem latestOutput_concat (counts : AttemptKind → Bool) (first : List String)
    (attempts : List Attempt) (attempt : Attempt) :
    latestOutput counts first (attempts ++ [attempt]) =
      if counts attempt.kind = true then
        attempt.output?.getD (latestOutput counts first attempts)
      else latestOutput counts first attempts := by
  by_cases counted : counts attempt.kind = true
  · cases brought : attempt.output? <;>
      simp [latestOutput, List.filter_append, List.filterMap_append, counted, brought,
        List.getLast?_append]
  · simp [latestOutput, List.filter_append, counted]

namespace Setup

/-- The first call of a promotion. -/
def preparation (setup : Setup) : Request :=
  .prepareTransfers setup.config.promoteSeed [setup.promotionTransfer] 2

/-- The call for tips of every attempt. -/
def tipSelection (setup : Setup) : Request :=
  .selectTips setup.config.tipDepth.toNat

end Setup

/-- The trunk of an attachment, which for a promotion is the given tail. -/
def AttemptKind.trunk (kind : AttemptKind) (tail : Hash) (tips : Tips) : Hash :=
  match kind with
  | promotion => tail
  | reattachment => tips.trunk

/-- How far an attempt has come that refers to the given tail and trytes: the calls that have
returned, its stage, and the call under way. -/
inductive Underway (setup : Setup) (tail : Hash) (trytes : List String) :
    AttemptKind → List Exchange → Stage → Request → Prop where
  | preparing : Underway setup tail trytes .promotion [] .preparing setup.preparation
  | prepared {payload endpoint elapsed} :
      Underway setup tail trytes .promotion
        [⟨setup.preparation, .answered ⟨.trytes payload, endpoint, elapsed⟩⟩]
        (.selecting payload) setup.tipSelection
  | selecting : Underway setup tail trytes .reattachment [] (.selecting trytes) setup.tipSelection
  | attaching {kind exchanges payload tips endpoint elapsed}
      (selecting : Underway setup tail trytes kind exchanges (.selecting payload)
        setup.tipSelection) :
      Underway setup tail trytes kind
        (exchanges ++ [⟨setup.tipSelection, .answered ⟨.tips tips, endpoint, elapsed⟩⟩])
        .attaching
        (.attachToTangle (kind.trunk tail tips) tips.branch minWeightMagnitude payload)
  | broadcasting {kind exchanges request attached transaction endpoint elapsed}
      (attaching : Underway setup tail trytes kind exchanges .attaching request)
      (read : tailOf attached = .ok transaction)
      (own : kind = .reattachment → transaction.bundle = setup.bundle) :
      Underway setup tail trytes kind
        (exchanges ++ [⟨request, .answered ⟨.trytes attached, endpoint, elapsed⟩⟩])
        (.broadcasting attached transaction) (.storeAndBroadcast attached)

/-- How an attempt comes to its end at a stage, with its output if it is successful. -/
inductive Ending (bundle : Hash) (kind : AttemptKind) :
    Stage → Verdict → Option (List String) → Prop where
  | failed {stage cause} : Ending bundle kind stage (.failed cause) none
  | rejected {attached endpoint elapsed}
      (unfit : ∀ tail, tailOf attached = .ok tail → kind = .reattachment ∧ tail.bundle ≠ bundle) :
      Ending bundle kind .attaching (.answered ⟨.trytes attached, endpoint, elapsed⟩) none
  | succeeded {attached transaction endpoint elapsed} :
      Ending bundle kind (.broadcasting attached transaction)
        (.answered ⟨.done, endpoint, elapsed⟩) (some attached)

/-- An attempt that is over, with its output if it has been successful. -/
inductive Concluded (setup : Setup) (tail : Hash) (trytes : List String) :
    Attempt → Option (List String) → Prop where
  | intro {kind exchanges stage request verdict output}
      (underway : Underway setup tail trytes kind exchanges stage request)
      (ending : Ending setup.bundle kind stage verdict output) :
      Concluded setup tail trytes
        ⟨kind, exchanges.map Exchange.request ++ [request], exchanges ++ [⟨request, verdict⟩]⟩
        output

/-- An attempt, over or not, that refers to the given tail and trytes. -/
inductive GoesBy (setup : Setup) (tail : Hash) (trytes : List String) : Attempt → Prop where
  | intro {kind exchanges stage request}
      (underway : Underway setup tail trytes kind exchanges stage request) (last : List Exchange) :
      GoesBy setup tail trytes
        ⟨kind, exchanges.map Exchange.request ++ [request], exchanges ++ last⟩

variable {setup : Setup} {tail : Hash} {trytes : List String} {kind : AttemptKind}
  {exchanges : List Exchange} {stage : Stage} {request : Request} {attempt : Attempt}
  {output : Option (List String)}

/-! ## What an attempt calls for -/

/-- The operation of each call of an attempt follows from its kind. -/
theorem Underway.order (underway : Underway setup tail trytes kind exchanges stage request) :
    (exchanges.map Exchange.request ++ [request]).map Request.operation <+: kind.operations := by
  cases underway with
  | preparing => exact ⟨[.selectTips, .attachToTangle, .storeAndBroadcast], rfl⟩
  | prepared | selecting => exact ⟨[.attachToTangle, .storeAndBroadcast], rfl⟩
  | attaching chosen => cases chosen <;> exact ⟨[.storeAndBroadcast], rfl⟩
  | broadcasting attached => cases attached with
    | attaching chosen => cases chosen <;> exact ⟨[], rfl⟩

/-- What an attempt attaches, and to what, is what it refers to or what its calls have brought. -/
theorem Underway.attachment (underway : Underway setup tail trytes kind exchanges stage request)
    {trunk branch : Hash} {weight : Nat} {payload : List String}
    (attaches : .attachToTangle trunk branch weight payload ∈
      exchanges.map Exchange.request ++ [request]) (requests : List Request)
    (last : List Exchange) :
    ∃ tips, (Attempt.mk kind requests (exchanges ++ last)).reply? .selectTips =
        some (.tips tips) ∧ trunk = kind.trunk tail tips ∧ branch = tips.branch ∧
      (kind = .promotion → (Attempt.mk kind requests (exchanges ++ last)).reply?
        .prepareTransfers = some (.trytes payload)) ∧
      (kind = .reattachment → payload = trytes) := by
  cases underway with
  | preparing => simp [Setup.preparation] at attaches
  | prepared => simp [Setup.preparation, Setup.tipSelection] at attaches
  | selecting => simp [Setup.tipSelection] at attaches
  | attaching chosen =>
    cases chosen with
    | prepared =>
      obtain ⟨rfl, rfl, rfl, rfl⟩ : _ ∧ _ ∧ _ ∧ _ := by
        simpa [Setup.preparation, Setup.tipSelection] using attaches
      exact ⟨_, rfl, rfl, rfl, fun _ => rfl, nofun⟩
    | selecting =>
      obtain ⟨rfl, rfl, rfl, rfl⟩ : _ ∧ _ ∧ _ ∧ _ := by
        simpa [Setup.tipSelection] using attaches
      exact ⟨_, rfl, rfl, rfl, nofun, fun _ => rfl⟩
  | broadcasting attached =>
    cases attached with
    | attaching chosen =>
      cases chosen with
      | prepared =>
        obtain ⟨rfl, rfl, rfl, rfl⟩ : _ ∧ _ ∧ _ ∧ _ := by
          simpa [Setup.preparation, Setup.tipSelection] using attaches
        exact ⟨_, rfl, rfl, rfl, fun _ => rfl, nofun⟩
      | selecting =>
        obtain ⟨rfl, rfl, rfl, rfl⟩ : _ ∧ _ ∧ _ ∧ _ := by
          simpa [Setup.tipSelection] using attaches
        exact ⟨_, rfl, rfl, rfl, nofun, fun _ => rfl⟩

/-- What an attempt broadcasts is what it has attached. It has a tail, and a reattachment's is one
of the bundle. -/
theorem Underway.payload (underway : Underway setup tail trytes kind exchanges stage request)
    {payload : List String}
    (broadcasts : .storeAndBroadcast payload ∈ exchanges.map Exchange.request ++ [request])
    (requests : List Request) (last : List Exchange) :
    (Attempt.mk kind requests (exchanges ++ last)).reply? .attachToTangle =
        some (.trytes payload) ∧
      ∃ transaction, tailOf payload = .ok transaction ∧
        (kind = .reattachment → transaction.bundle = setup.bundle) := by
  cases underway with
  | preparing => simp [Setup.preparation] at broadcasts
  | prepared => simp [Setup.preparation, Setup.tipSelection] at broadcasts
  | selecting => simp [Setup.tipSelection] at broadcasts
  | attaching chosen =>
    cases chosen with
    | prepared => simp [Setup.preparation, Setup.tipSelection] at broadcasts
    | selecting => simp [Setup.tipSelection] at broadcasts
  | broadcasting attached read own =>
    cases attached with
    | attaching chosen =>
      cases chosen with
      | prepared =>
        obtain rfl : payload = _ := by
          simpa [Setup.preparation, Setup.tipSelection] using broadcasts
        exact ⟨rfl, _, read, own⟩
      | selecting =>
        obtain rfl : payload = _ := by simpa [Setup.tipSelection] using broadcasts
        exact ⟨rfl, _, read, own⟩

/-- An attempt conforms to the order of its kind, how far it has ever come. -/
theorem GoesBy.conforms (goesBy : GoesBy setup tail trytes attempt) : attempt.Conforms := by
  obtain ⟨underway, last⟩ := goesBy
  constructor
  · exact underway.order
  · intro payload broadcasts
    exact (underway.payload broadcasts _ last).1
  · intro trunk branch weight payload attaches
    obtain ⟨tips, chosen, trunk, branch, prepared, -⟩ := underway.attachment attaches _ last
    refine ⟨tips, chosen, branch, prepared, ?_⟩
    rintro rfl
    exact trunk

/-- A promotion is attached to the tail that it refers to, and a reattachment attaches the trytes
that it refers to. -/
theorem GoesBy.refers (goesBy : GoesBy setup tail trytes attempt) {trunk branch : Hash}
    {weight : Nat} {payload : List String}
    (attaches : .attachToTangle trunk branch weight payload ∈ attempt.requests) :
    (attempt.kind = .promotion → trunk = tail) ∧
      (attempt.kind = .reattachment → payload = trytes) := by
  obtain ⟨underway, last⟩ := goesBy
  obtain ⟨tips, -, trunk, -, -, own⟩ := underway.attachment attaches [] last
  refine ⟨?_, own⟩
  rintro rfl
  exact trunk

/-- What an attempt broadcasts has a tail, and a reattachment's is one of the bundle. -/
theorem GoesBy.broadcasts (goesBy : GoesBy setup tail trytes attempt) {payload : List String}
    (broadcasts : .storeAndBroadcast payload ∈ attempt.requests) :
    ∃ transaction, tailOf payload = .ok transaction ∧
      (attempt.kind = .reattachment → transaction.bundle = setup.bundle) := by
  obtain ⟨underway, last⟩ := goesBy
  exact (underway.payload broadcasts [] last).2

/-- The call under way is one for an attempt. -/
theorem Underway.isForAttempt (underway : Underway setup tail trytes kind exchanges stage request) :
    request.operation.isForAttempt = true := by
  have among : request.operation ∈ kind.operations :=
    underway.order.subset (by simp)
  cases kind with
  | promotion => exact decide_eq_true among
  | reattachment => exact decide_eq_true (List.mem_cons_of_mem _ among)

/-! ## Attempts that are over -/

/-- An attempt that is over has made all its calls, or its last call has stopped it. -/
theorem Concluded.closed (concluded : Concluded setup tail trytes attempt output) :
    attempt.IsClosed ∧ (attempt.IsComplete ∨ attempt.IsStopped setup.bundle) := by
  cases concluded with
  | @intro kind exchanges stage request verdict output underway ending =>
    refine ⟨by simp [Attempt.IsClosed], ?_⟩
    have last : (exchanges ++ [Exchange.mk request verdict]).getLast? = some ⟨request, verdict⟩ :=
      List.getLast?_concat
    cases ending with
    | failed => exact .inr ⟨_, last, .inl rfl⟩
    | rejected unfit =>
      cases underway with
      | attaching => exact .inr ⟨_, last, .inr ⟨rfl, _, rfl, unfit⟩⟩
    | succeeded =>
      cases underway with
      | broadcasting attached =>
        cases attached with
        | attaching chosen => cases chosen <;> exact .inl rfl

theorem Concluded.goesBy (concluded : Concluded setup tail trytes attempt output) :
    GoesBy setup tail trytes attempt := by
  cases concluded with
  | intro underway => exact .intro underway [_]

/-- The output of an attempt that is over is seen from outside. -/
theorem Concluded.output_eq (concluded : Concluded setup tail trytes attempt output) :
    attempt.output? = output := by
  cases concluded with
  | @intro kind exchanges stage request verdict output underway ending =>
    cases ending with
    | succeeded =>
      cases underway with
      | broadcasting attached =>
        cases attached with
        | attaching chosen => cases chosen <;> rfl
    | rejected unfit =>
      cases underway with
      | attaching chosen => cases chosen <;> rfl
    | failed =>
      cases underway with
      | preparing | prepared | selecting => rfl
      | attaching chosen => cases chosen <;> rfl
      | broadcasting attached =>
        cases attached with
        | attaching chosen => cases chosen <;> rfl

end Inclusion
