import Inclusion.Node.Exchange
import Inclusion.Proofs.Node.Lists

/-!
# Replies that are lists

A node that sends a document answers a request for a list with all of the list or with an error. A
document that refuses is not looked into any further. Any other has to hold the list under the name
that belongs to the request. All of this holds whatever reader the real numbers of a document have.

Storing and broadcasting is the only request that takes two commands, and a node that did not accept
the first is never sent the second.
-/

namespace Inclusion

namespace Wire

variable {Content Value : Type} {name misfit : String} {document : Json} {request : Request}

/-! ## Refusals -/

/-- The reason that a value gives: its text if it is one, else its written form. -/
inductive Reason : Json → String → Prop where
  | text {reason} : Reason (.text reason) reason
  | other {value} (noText : ∀ text, value ≠ .text text) : Reason value value.compact

/-- The reason that a document gives for refusing a command. A member that is called an error comes
before one that is called an exception, whatever else there is. -/
inductive Refuses (document : Json) : String → Prop where
  | error {value reason} (present : document.member? "error" = some value)
      (given : Reason value reason) : Refuses document reason
  | exception {value reason} (noError : document.member? "error" = none)
      (present : document.member? "exception" = some value) (given : Reason value reason) :
      Refuses document reason

/-- A document that does not refuse has neither of the two members. -/
def Accepts (document : Json) : Prop :=
  document.member? "error" = none ∧ document.member? "exception" = none

theorem reason_iff {value : Json} {reason : String} :
    Reason value reason ↔ reasonOf value = reason := by
  constructor
  · intro given
    cases given with
    | text => rfl
    | other noText =>
      rw [reasonOf]
      exact noText
  · rintro rfl
    cases value with
    | text reason => exact .text
    | _ => exact .other (by simp)

theorem accepted_eq_ok_iff {other : Json} :
    accepted document = .ok other ↔ Accepts document ∧ document = other := by
  rw [accepted, refusal?, Accepts]
  cases document.member? "error" <;> cases document.member? "exception" <;> simp

theorem accepted_eq_error_iff {error : NodeError} : accepted document = .error error ↔
    ∃ reason, Refuses document reason ∧ error = .node reason := by
  rw [accepted, refusal?]
  constructor
  · intro refused
    cases first : document.member? "error" with
    | some value =>
      rw [first] at refused
      cases refused
      exact ⟨_, .error first (reason_iff.mpr rfl), rfl⟩
    | none =>
      cases second : document.member? "exception" with
      | some value =>
        rw [first, second] at refused
        cases refused
        exact ⟨_, .exception first second (reason_iff.mpr rfl), rfl⟩
      | none =>
        rw [first, second] at refused
        cases refused
  · rintro ⟨reason, refuses, rfl⟩
    cases refuses with
    | error present given =>
      obtain rfl := reason_iff.mp given
      rw [present]
      rfl
    | exception noError present given =>
      obtain rfl := reason_iff.mp given
      rw [noError, present]
      rfl

/-! ## Answers -/

/-- The answer to a request for a list. -/
inductive Answers (document : Json) (make : List Value → Reply)
    (Lists : Except String (List Value) → Prop) : Except NodeError Reply → Prop where
  | refused {reason} (refuses : Refuses document reason) :
      Answers document make Lists (.error (.node reason))
  | list {values} (accepts : Accepts document) (lists : Lists (.ok values)) :
      Answers document make Lists (.ok (make values))
  | noList {reason} (accepts : Accepts document) (lists : Lists (.error reason)) :
      Answers document make Lists (.error (.decode reason))

/-- A request whose content is a list is answered with that list. -/
theorem reply_eq_iff {wrap : Content → Json} {shape? : Json → Option Content}
    {judge : Content → Except NodeError Value} {Judged : Content → Except String Value → Prop}
    {make : List Value → Reply} (wraps : Wraps wrap shape?) (judges : Judges judge Judged)
    (reads : ∀ document, content request document =
      listed name misfit shape? judge document >>= fun values => .ok (make values))
    {result : Except NodeError Reply} : reply request document = result ↔
      Answers document make (Listed name misfit wrap Judged document) result := by
  cases result with
  | ok answer =>
    simp only [reply, reads, Except.bind_eq_ok, accepted_eq_ok_iff, listed_eq_ok_iff wraps judges]
    constructor
    · rintro ⟨_, ⟨accepts, rfl⟩, values, lists, same⟩
      cases same
      exact .list accepts lists
    · intro answers
      cases answers with
      | list accepts lists => exact ⟨_, ⟨accepts, rfl⟩, _, lists, rfl⟩
  | error error =>
    simp only [reply, reads, Except.bind_eq_error, accepted_eq_ok_iff, accepted_eq_error_iff,
      listed_eq_error_iff wraps judges]
    constructor
    · rintro (⟨reason, refuses, rfl⟩ |
        ⟨_, ⟨accepts, rfl⟩, ⟨reason, lists, rfl⟩ | ⟨values, -, same⟩⟩)
      · exact .refused refuses
      · exact .noList accepts lists
      · cases same
    · intro answers
      cases answers with
      | refused refuses => exact .inl ⟨_, refuses, rfl⟩
      | noList accepts lists => exact .inr ⟨_, ⟨accepts, rfl⟩, .inl ⟨_, lists, rfl⟩⟩

section

variable {result : Except NodeError Reply}

theorem reply_getInclusionStates_iff {transactions : List Hash} :
    reply (.getInclusionStates transactions) document = result ↔
      Answers document .flags (Listed "states" "state not bool" .bool Itself document) result := by
  refine reply_eq_iff wraps_bool judges_itself fun document => ?_
  simp only [listed_itself, content, flag_eq, bind_assoc]
  rfl

theorem reply_findTransactions_iff {bundles : List Hash} :
    reply (.findTransactions bundles) document = result ↔
      Answers document .hashes
        (Listed "hashes" "hashes element not string" .text WritesHash document) result := by
  refine reply_eq_iff wraps_text judges_hash fun document => ?_
  simp only [listed, content, requiredTexts_eq, bind_assoc]
  rfl

theorem reply_getBalances_iff {addresses : List Hash} {threshold : Nat} :
    reply (.getBalances addresses threshold) document = result ↔
      Answers document .amounts
        (Listed "balances" "balances element not string" .text WritesAmount document) result := by
  refine reply_eq_iff wraps_text judges_amount fun document => ?_
  simp only [listed, content, requiredTexts_eq, bind_assoc]
  rfl

/-- Transactions that come back are listed in one way, whatever was done to them. -/
theorem reply_trytes_iff
    (reads : content request = fun document => do
      return .trytes (← requiredTexts "trytes" document)) :
    reply request document = result ↔
      Answers document .trytes
        (Listed "trytes" "trytes element not string" .text Itself document) result := by
  refine reply_eq_iff wraps_text judges_itself fun document => ?_
  simp only [reads, listed_itself, requiredTexts_eq, bind_assoc]
  rfl

end

end Wire

/-- A command succeeds if a document comes back that does not refuse it. -/
def Delivery.Accepts (reals : Json.RealReader) (delivery : Delivery) : Prop :=
  ∃ document, delivery.document reals = .ok document ∧ Wire.Accepts document

variable {reals : Json.RealReader}

theorem Delivery.accepts_iff {delivery : Delivery} : delivery.Accepts reals ↔
    ∃ document, delivery.document reals >>= Wire.accepted = .ok document := by
  simp only [Accepts, Except.bind_eq_ok, Wire.accepted_eq_ok_iff]
  constructor
  · rintro ⟨document, delivered, accepts⟩
    exact ⟨document, document, delivered, accepts, rfl⟩
  · rintro ⟨_, document, delivered, accepts, -⟩
    exact ⟨document, delivered, accepts⟩

namespace RemoteNode

variable {node : RemoteNode} {command : Json} {delivery : Delivery} {later : List Delivery}

theorem send_of_delivery (next : node.deliveries = delivery :: later) :
    node.send reals command = (⟨later, node.arrived ++ [command]⟩, delivery.document reals) := by
  rw [send, next]

theorem send_of_no_delivery (next : node.deliveries = []) :
    node.send reals command = (node, .error (.http "the connection was refused")) := by
  rw [send, next]

/-! ## Requests that take one command -/

theorem ask_eq_reply {request : Request} {text : String} {document : Json}
    (single : Wire.commands request = [command]) (next : node.deliveries = .body text :: later)
    (parsed : Json.parse? reals text = some document) :
    (node.ask reals request).2 = Wire.reply request document := by
  rw [ask, single, sendAll, send_of_delivery next]
  simp only [Delivery.document, parsed]
  rfl

/-! ## Storing and broadcasting -/

section

variable {trytes : List String} {commands : List Json}

/-- Every command is sent alike, the last one too. -/
theorem sendAll_cons :
    node.sendAll reals (.storeAndBroadcast trytes) (command :: commands) =
      match node.send reals command with
      | (after, delivered) =>
        match delivered >>= Wire.accepted with
        | .ok _ => after.sendAll reals (.storeAndBroadcast trytes) commands
        | .error error => (after, .error error) := by
  cases commands with
  | nil =>
    rw [sendAll]
    obtain ⟨after, error | document⟩ := node.send reals command
    · rfl
    · simp only [Wire.reply, bind, Except.bind]
      cases Wire.accepted document <;> rfl
  | cons other others =>
    rw [sendAll]
    · obtain ⟨after, error | document⟩ := node.send reals command
      · rfl
      · simp only [bind, Except.bind]
        cases Wire.accepted document <;> rfl
    · simp

theorem sendAll_of_accepts (next : node.deliveries = delivery :: later)
    (accepts : delivery.Accepts reals) :
    node.sendAll reals (.storeAndBroadcast trytes) (command :: commands) =
      sendAll reals (.storeAndBroadcast trytes) ⟨later, node.arrived ++ [command]⟩ commands := by
  obtain ⟨document, accepted⟩ := Delivery.accepts_iff.mp accepts
  simp only [sendAll_cons, send_of_delivery next, accepted]

/-- A command that is not accepted is the last. -/
theorem sendAll_of_not_accepts (next : node.deliveries = delivery :: later)
    (refused : ¬ delivery.Accepts reals) :
    (node.sendAll reals (.storeAndBroadcast trytes) (command :: commands)).1 =
        ⟨later, node.arrived ++ [command]⟩ ∧
      ∀ reply, (node.sendAll reals (.storeAndBroadcast trytes) (command :: commands)).2 ≠
        .ok reply := by
  simp only [sendAll_cons, send_of_delivery next]
  cases outcome : delivery.document reals >>= Wire.accepted with
  | ok document => exact absurd (Delivery.accepts_iff.mpr ⟨document, outcome⟩) refused
  | error error => simp

theorem sendAll_of_no_delivery (next : node.deliveries = []) :
    node.sendAll reals (.storeAndBroadcast trytes) (command :: commands) =
      (node, .error (.http "the connection was refused")) := by
  rw [sendAll_cons, send_of_no_delivery next]
  rfl

/-- All commands together succeed if each of them does. -/
theorem sendAll_eq_ok_iff {reply : Reply} :
    (node.sendAll reals (.storeAndBroadcast trytes) commands).2 = .ok reply ↔
      reply = .done ∧ commands.length ≤ node.deliveries.length ∧
        ∀ delivery ∈ node.deliveries.take commands.length, delivery.Accepts reals := by
  induction commands generalizing node with
  | nil => simp [sendAll, eq_comm]
  | cons command commands inductionHypothesis =>
    cases next : node.deliveries with
    | nil => simp [sendAll_of_no_delivery next]
    | cons delivery later =>
      by_cases accepts : delivery.Accepts reals
      · simp [sendAll_of_accepts next accepts, inductionHypothesis, accepts]
      · simp [(sendAll_of_not_accepts next accepts).2, accepts]

/-- A command arrives if the node can be reached and accepted all commands before. -/
theorem sendAll_arrived :
    ∃ sent, (node.sendAll reals (.storeAndBroadcast trytes) commands).1.arrived =
        node.arrived ++ sent ∧
      sent <+: commands ∧ ∀ number, number < sent.length ↔
        number < commands.length ∧ number < node.deliveries.length ∧
          ∀ delivery ∈ node.deliveries.take number, delivery.Accepts reals := by
  induction commands generalizing node with
  | nil => exact ⟨[], by simp [sendAll]⟩
  | cons command commands inductionHypothesis =>
    cases next : node.deliveries with
    | nil => exact ⟨[], by simp [sendAll_of_no_delivery next]⟩
    | cons delivery later =>
      by_cases accepts : delivery.Accepts reals
      · obtain ⟨sent, arrived, initial, numbers⟩ :=
          @inductionHypothesis ⟨later, node.arrived ++ [command]⟩
        refine ⟨command :: sent, ?_, (List.prefix_cons_inj command).mpr initial, fun number => ?_⟩
        · rw [sendAll_of_accepts next accepts, arrived, List.append_assoc, List.singleton_append]
        · cases number with
          | zero => simp
          | succ number => simpa [accepts] using numbers number
      · refine ⟨[command], ?_, by simp, fun number => ?_⟩
        · rw [(sendAll_of_not_accepts next accepts).1]
        · cases number with
          | zero => simp
          | succ number => simp [accepts]

end

/-! ## All or nothing -/

/-- A request for a list is answered with the whole list that the document holds, or with the reason
why there is none; a refusal comes before everything else, and a wrong shape before wrong contents.
Trytes are broadcast only once they are stored. -/
theorem answers_all_or_nothing (reals : Json.RealReader) (node : RemoteNode) :
    (∀ text document later, node.deliveries = .body text :: later →
      Json.parse? reals text = some document →
      (∀ transactions result, (node.ask reals (.getInclusionStates transactions)).2 = result ↔
        Wire.Answers document .flags
          (Wire.Listed "states" "state not bool" .bool Wire.Itself document) result) ∧
      (∀ bundles result, (node.ask reals (.findTransactions bundles)).2 = result ↔
        Wire.Answers document .hashes
          (Wire.Listed "hashes" "hashes element not string" .text Wire.WritesHash document)
          result) ∧
      (∀ addresses threshold result,
        (node.ask reals (.getBalances addresses threshold)).2 = result ↔
          Wire.Answers document .amounts
            (Wire.Listed "balances" "balances element not string" .text Wire.WritesAmount document)
            result) ∧
      (∀ seed transfers security result,
        (node.ask reals (.prepareTransfers seed transfers security)).2 = result ↔
          Wire.Answers document .trytes
            (Wire.Listed "trytes" "trytes element not string" .text Wire.Itself document)
            result) ∧
      ∀ trunk branch weight trytes result,
        (node.ask reals (.attachToTangle trunk branch weight trytes)).2 = result ↔
          Wire.Answers document .trytes
            (Wire.Listed "trytes" "trytes element not string" .text Wire.Itself document)
            result) ∧
    ∀ trytes,
      (∀ reply, (node.ask reals (.storeAndBroadcast trytes)).2 = .ok reply ↔
        reply = .done ∧ ∃ stored broadcast later,
          node.deliveries = stored :: broadcast :: later ∧ stored.Accepts reals ∧
            broadcast.Accepts reals) ∧
      ∃ sent, (node.ask reals (.storeAndBroadcast trytes)).1.arrived = node.arrived ++ sent ∧
        sent <+: [Wire.command "storeTransactions" [("trytes", Wire.trytes trytes)],
          Wire.command "broadcastTransactions" [("trytes", Wire.trytes trytes)]] ∧
        (sent.length = 2 ↔ ∃ stored broadcast later,
          node.deliveries = stored :: broadcast :: later ∧ stored.Accepts reals) := by
  refine ⟨fun text document later next parsed => ⟨fun _ _ => ?_, fun _ _ => ?_, fun _ _ _ => ?_,
    fun _ _ _ _ => ?_, fun _ _ _ _ _ => ?_⟩, fun trytes => ⟨fun reply => ?_, ?_⟩⟩
  · rw [ask_eq_reply rfl next parsed, Wire.reply_getInclusionStates_iff]
  · rw [ask_eq_reply rfl next parsed, Wire.reply_findTransactions_iff]
  · rw [ask_eq_reply rfl next parsed, Wire.reply_getBalances_iff]
  · rw [ask_eq_reply rfl next parsed, Wire.reply_trytes_iff rfl]
  · rw [ask_eq_reply rfl next parsed, Wire.reply_trytes_iff rfl]
  · rw [ask, sendAll_eq_ok_iff]
    rcases node.deliveries with _ | ⟨stored, _ | ⟨broadcast, later⟩⟩ <;> simp [Wire.commands]
  · obtain ⟨sent, arrived, initial, numbers⟩ :=
      @sendAll_arrived reals node trytes (Wire.commands (.storeAndBroadcast trytes))
    have atMost : sent.length ≤ 2 := initial.length_le
    refine ⟨sent, arrived, initial, ?_⟩
    rw [show sent.length = 2 ↔ 1 < sent.length by omega, numbers 1]
    rcases node.deliveries with _ | ⟨stored, _ | ⟨broadcast, later⟩⟩ <;> simp [Wire.commands]

/-- In the first document the first text is too short for a hash, but what is told is that the
second item is no text. The second document refuses with a number, which is told as it is read. -/
theorem answers_all_or_nothing_shape_first :
    let body := "\x7b\"hashes\":[\"9\",true]\x7d"
    let document := Json.record [("hashes", .array [.text "9", .bool true])]
    let refusal := "\x7b\"error\":-1.5\x7d"
    let refusing := Json.record [("error", .number (.real ['-', '1', '.', '5']))]
    let node : RemoteNode := ⟨[.body body, .body refusal], []⟩
    let later : RemoteNode := ⟨[.body refusal], []⟩
    Json.parse? some body = some document ∧ Json.parse? some refusal = some refusing ∧
      (node.ask some (.findTransactions [])).2 = .error (.decode "hashes element not string") ∧
      (later.ask some (.findTransactions [])).2 = .error (.node "-1.5") := by
  intro body document refusal refusing node later
  have letters : body.toList = ['\x7b', '"', 'h', 'a', 's', 'h', 'e', 's', '"', ':', '[', '"', '9',
      '"', ',', 't', 'r', 'u', 'e', ']', '\x7d'] := String.toList_ofList
  have parsed : Json.parse? some body = some document := by
    rw [Json.parse?, Json.Syntax.parse?, letters]
    rfl
  have refusalLetters : refusal.toList = ['\x7b', '"', 'e', 'r', 'r', 'o', 'r', '"', ':', '-', '1',
      '.', '5', '\x7d'] := String.toList_ofList
  have refuses : Json.parse? some refusal = some refusing := by
    rw [Json.parse?, Json.Syntax.parse?, refusalLetters]
    rfl
  obtain ⟨-, hashes, -⟩ := (answers_all_or_nothing some node).1 body document _ rfl parsed
  obtain ⟨-, refused, -⟩ := (answers_all_or_nothing some later).1 refusal refusing [] rfl refuses
  have there : Json.bool true ∈ [.text "9", .bool true] := by simp
  have misshaped : Wire.Listed "hashes" "hashes element not string" .text Wire.WritesHash document
      (.error "hashes element not string") := .shape rfl there (by simp)
  have reason : Wire.Reason (.number (.real ['-', '1', '.', '5'])) "-1.5" := .other (by simp)
  exact ⟨parsed, refuses, (hashes [] _).mpr (.noList ⟨rfl, rfl⟩ misshaped),
    (refused [] _).mpr (.refused (.error rfl reason))⟩

end RemoteNode

end Inclusion
