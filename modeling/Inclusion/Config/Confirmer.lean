import Inclusion.Config.Reading
import Inclusion.Duration
import Inclusion.Hash
import Inclusion.Transaction.Layout

/-!
# The settings of a confirmation engine

Settings are read without judgement and validated before an engine is built. Validation looks at
each setting by itself: it bounds none of them from above, so an interval computed from valid
settings may still be no duration, and the functions that compute one say so.
-/

namespace Inclusion

/-- The proof of work of every attachment. -/
def minWeightMagnitude : Nat := 14

/-- Settings of an engine. -/
structure ConfirmerConfig where
  /-- How deep tip selection starts. -/
  tipDepth : UInt32 := 3
  /-- The tag of promotions. -/
  promoteTag : String := "PROMOTE"
  /-- The address that promotions are sent to. -/
  promoteAddress : String := Hash.null.text
  /-- The seed given to the node that prepares promotions. -/
  promoteSeed : String := Hash.null.text
  /-- A bundle is reattached after so many minutes even if it could be promoted. -/
  forceReattachAfterMinutes : UInt64 := 15
  promoteEverySeconds : UInt64 := 10
  /-- Whether a promotion refers to the promotion before it instead of to the bundle. -/
  promoteChain : Bool := false
  promoteTickMilliseconds : UInt64 := 500
  reattachTickMilliseconds : UInt64 := 100
  promotabilityCheckSeconds : UInt64 := 10
  /-- Checks slow down to half their rate once so many of their loops run. -/
  slowDownThreshold : UInt64 := 50
  /-- The pause after a failed attempt. -/
  errorBackoffSeconds : UInt64 := 5
  /-- The longest an update waits for its consumer. -/
  updateSendTimeoutSeconds : UInt64 := 60
deriving DecidableEq, Repr

/-- Why no engine is built with given settings. -/
inductive ConfigFault where
  /-- A setting that must not be zero. -/
  | notPositive (setting : String)
  | ticksNotPositive
  | promoteTag (cause : TrytesError)
  | promoteTagTooLong
  | promoteAddress (cause : TrytesError)
deriving DecidableEq, Repr

/-- The wording of each fault. -/
def ConfigFault.message : ConfigFault → String
  | notPositive setting => setting ++ " must be positive"
  | ticksNotPositive => "loop ticks must be positive"
  | promoteTag cause => "promote_tag: " ++ cause.message
  | promoteTagTooLong => "promote_tag longer than " ++ toString tagLength ++ " trytes"
  | promoteAddress cause => "promote_address: " ++ cause.message

namespace ConfirmerConfig

/-- The names of the fields. -/
def fieldNames : List String :=
  ["tip_depth", "promote_tag", "promote_address", "promote_seed", "force_reattach_after_min",
    "promote_every_sec", "promote_chain", "promote_tick_ms", "reattach_tick_ms",
    "promotability_check_sec", "slow_down_threshold", "error_backoff_sec",
    "update_send_timeout_sec"]

/-- The settings that a document writes. Every missing field takes its default. -/
def read? (tree : Json.Syntax) : Option ConfirmerConfig := do
  let fields ← Config.fields? fieldNames tree
  return {
    tipDepth := ← Config.orDefault Config.word32? 3 (fields.at 0)
    promoteTag := ← Config.orDefault Config.text? "PROMOTE" (fields.at 1)
    promoteAddress := ← Config.orDefault Config.text? Hash.null.text (fields.at 2)
    promoteSeed := ← Config.orDefault Config.text? Hash.null.text (fields.at 3)
    forceReattachAfterMinutes := ← Config.orDefault Config.word64? 15 (fields.at 4)
    promoteEverySeconds := ← Config.orDefault Config.word64? 10 (fields.at 5)
    promoteChain := ← Config.orDefault Config.flag? false (fields.at 6)
    promoteTickMilliseconds := ← Config.orDefault Config.word64? 500 (fields.at 7)
    reattachTickMilliseconds := ← Config.orDefault Config.word64? 100 (fields.at 8)
    promotabilityCheckSeconds := ← Config.orDefault Config.word64? 10 (fields.at 9)
    slowDownThreshold := ← Config.orDefault Config.word64? 50 (fields.at 10)
    errorBackoffSeconds := ← Config.orDefault Config.word64? 5 (fields.at 11)
    updateSendTimeoutSeconds := ← Config.orDefault Config.word64? 60 (fields.at 12) }

/-- Judges the settings in a fixed order and gives the address of promotions, or the first fault. -/
def validate (config : ConfirmerConfig) : Except ConfigFault Hash :=
  if config.promoteEverySeconds = 0 then .error (.notPositive "promote_every_sec")
  else if config.forceReattachAfterMinutes = 0 then .error (.notPositive "force_reattach_after_min")
  else if config.promoteTickMilliseconds = 0 ∨ config.reattachTickMilliseconds = 0 then
    .error .ticksNotPositive
  else if config.promotabilityCheckSeconds = 0 then .error (.notPositive "promotability_check_sec")
  else if config.updateSendTimeoutSeconds = 0 then .error (.notPositive "update_send_timeout_sec")
  else
    match Trytes.read config.promoteTag with
    | .error cause => .error (.promoteTag cause)
    | .ok trytes =>
      if tagLength < trytes.length then .error .promoteTagTooLong
      else
        match Hash.read config.promoteAddress with
        | .error cause => .error (.promoteAddress cause)
        | .ok address => .ok address

/-- The time after which a bundle is reattached in any case. The minutes are turned into seconds of
64 bits, which may be too few. There is no time then, because arithmetic is taken to be checked as
it is in a debug build; a release build without such checks would wrap around instead. -/
def forceReattachAfter? (config : ConfirmerConfig) : Option Duration :=
  if config.forceReattachAfterMinutes.toNat * 60 < Duration.secondsBound then
    some (.ofSeconds (config.forceReattachAfterMinutes.toNat * 60))
  else none

/-- The least time between two promotions. -/
def promoteEvery (config : ConfirmerConfig) : Duration :=
  .ofSeconds config.promoteEverySeconds.toNat

/-- How often it is asked whether a promotion is due. -/
def promoteTick (config : ConfirmerConfig) : Duration :=
  .ofMilliseconds config.promoteTickMilliseconds.toNat

/-- How often it is asked whether a reattachment is due. -/
def reattachTick (config : ConfirmerConfig) : Duration :=
  .ofMilliseconds config.reattachTickMilliseconds.toNat

/-- The pause after a failed attempt. -/
def errorBackoff (config : ConfirmerConfig) : Duration :=
  .ofSeconds config.errorBackoffSeconds.toNat

/-- The longest an update waits for its consumer. -/
def updateSendTimeout (config : ConfirmerConfig) : Duration :=
  .ofSeconds config.updateSendTimeoutSeconds.toNat

/-- The pause between two checks of a tail, doubled once the given number of running loops reaches
the threshold; the double may be no duration. -/
def promotabilityInterval? (config : ConfirmerConfig) (running : Nat) : Option Duration :=
  let base := Duration.ofSeconds config.promotabilityCheckSeconds.toNat
  if config.slowDownThreshold.toNat ≤ running then base.double? else some base

end ConfirmerConfig

end Inclusion
