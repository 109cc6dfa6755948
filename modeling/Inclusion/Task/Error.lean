import Inclusion.Client.EndpointSet

/-! Why a confirmation engine cannot be built or started, or an attempt of its task failed. -/

namespace Inclusion

/-- What goes wrong in a confirmation engine. -/
inductive ConfirmerError where
  /-- The trytes to confirm are no bundle. -/
  | invalidBundle (cause : TrytesError)
  | alreadyRunning
  /-- An attachment carries another bundle than the one that was sent. -/
  | inconsistentBundle (expected actual : Hash)
  /-- An attachment is no bundle. -/
  | malformedAttachment (cause : TrytesError)
  | api (cause : ApiError)
  | invalidConfig (reason : String)
deriving DecidableEq

/-- The wording of each cause. -/
def ConfirmerError.message : ConfirmerError → String
  | invalidBundle cause => "invalid bundle: " ++ cause.message
  | alreadyRunning => "a confirmation task is already running"
  | inconsistentBundle expected actual =>
    "inconsistent bundle: tracking " ++ expected.text ++ ", attachment carries " ++ actual.text
  | malformedAttachment cause => "malformed attachment: " ++ cause.message
  | api cause => cause.message
  | invalidConfig reason => "invalid configuration: " ++ reason

end Inclusion
