import Inclusion.Hash

/-! Why waiting for a confirmation ended without one. -/

namespace Inclusion

/-- What goes wrong while waiting. -/
inductive MonitorError where
  /-- The registration was removed. -/
  | cancelled (bundle : Hash)
deriving DecidableEq

/-- The wording of each cause. -/
def MonitorError.message : MonitorError → String
  | cancelled bundle => "confirmation watch for " ++ bundle.text ++ " was cancelled"

end Inclusion
