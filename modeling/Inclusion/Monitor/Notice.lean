import Inclusion.Text.Blank
import Inclusion.Hash

/-!
# Notices of confirmation

The feed announces a confirmed transaction in one line of words: the topic `sn`, the index of the
milestone, the transaction, its address, its trunk, its branch and its bundle. Only the bundle
matters here, and more words may follow it.
-/

namespace Inclusion

/-- The topic of confirmations. -/
def confirmationTopic : String := "sn"

/-- The bundle that a line announces as confirmed. -/
def noticedBundle? (line : String) : Option Hash :=
  match Text.words line with
  | topic :: _ :: _ :: _ :: _ :: _ :: bundle :: _ =>
    if topic = confirmationTopic then (Hash.read bundle).toOption else none
  | _ => none

end Inclusion
