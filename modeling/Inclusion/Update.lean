import Inclusion.Json.Basic

/-! What a confirmation task reports to its consumer. -/

namespace Inclusion

/-- What happened. -/
inductive UpdateKind where
  | noAction
  | reattach
  | promote
  | confirm
deriving DecidableEq, Repr

/-- The written name of a kind. -/
def UpdateKind.name : UpdateKind → String
  | noAction => "NO_ACTION"
  | reattach => "REATTACH"
  | promote => "PROMOTE"
  | confirm => "CONFIRM"

/-- One event of a task. The figures count from the start of the task. -/
structure Update where
  attaches : Nat
  promotions : Nat
  /-- The milliseconds spent on proof of work. -/
  attachTime : Nat
  /-- The milliseconds spent on tip selection. -/
  tipSelectionTime : Nat
  kind : UpdateKind
  error : Option String
deriving DecidableEq, Repr

namespace Update

/-- After the confirmation nothing more is reported. -/
def isTerminal (update : Update) : Bool :=
  update.kind = .confirm

/-- The written form in the layout of an event, with the time at which it is written. The error is
left out where there is none. -/
def stamped (update : Update) (time : Nat) : Json :=
  .object ([
    ("num_attaches", .nat update.attaches),
    ("num_promotions", .nat update.promotions),
    ("total_duration_att_ms", .nat update.attachTime),
    ("total_duration_gtta_ms", .nat update.tipSelectionTime),
    ("update_time", .nat time),
    ("kind", .text update.kind.name)] ++
    match update.error with
    | some error => [("error", .text error)]
    | none => [])

/-- The written form without a time, for a log. -/
def json (update : Update) : Json :=
  .record ([
    ("num_attaches", .nat update.attaches),
    ("num_promotions", .nat update.promotions),
    ("total_duration_att_ms", .nat update.attachTime),
    ("total_duration_gtta_ms", .nat update.tipSelectionTime),
    ("kind", .text update.kind.name)] ++
    match update.error with
    | some error => [("error", .text error)]
    | none => [])

end Update

end Inclusion
