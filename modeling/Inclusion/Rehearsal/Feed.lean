import Inclusion.Rehearsal.Step

/-!
# Sessions of the feed in a rehearsal

The feed is connected, sends its frames, and is disconnected, any number of times. Only frames of
text say anything. No time passes, so that nothing is confirmed but by the feed.
-/

namespace Inclusion.Rehearsal

/-- What the feed sends in one piece. -/
inductive Frame where
  | text (content : String)
  /-- A frame without text: it says nothing. -/
  | wordless
  /-- The connection is broken off. -/
  | abort
deriving DecidableEq, Repr

/-- What is seen after a session. -/
structure SessionReport where
  /-- The watchers that were told during the session, in the order of their names. -/
  fired : List String
  connected : Bool
  bundles : List BundleView
  pollers : Nat

namespace State

/-- A frame of the feed is heard. -/
def hear (state : State) : Frame → State
  | .text content => state.perform (.feedSpoke content)
  | _ => state

/-- One session, up to its end or to the break of its connection. -/
def hearAll (state : State) (frames : List Frame) : State :=
  let connected := state.perform (.feedChanged true)
  let heard := (frames.takeWhile (· ≠ .abort)).foldl hear connected
  (heard.perform (.feedChanged false)).settle

/-- Somebody waits for a bundle, under its own name, and times the wait. -/
def await (state : State) (bundle : Hash) : State :=
  let (state, place) := state.introduce bundle.text
  (state.perform (.stopwatchStarted bundle.text)).perform (.register bundle (.callback place))

/-- Whoever was told, in the order of their names. -/
def told (state : State) : List String :=
  (state.log.filterMap fun
    | (_, .fired name) => some name
    | _ => none).mergeSort (· ≤ ·)

/-- Sessions one after another, and what is seen after each. -/
def hearSessions (bundles : List Hash) : State → List (List Frame) → List SessionReport
  | _, [] => []
  | state, frames :: rest =>
    let after := state.hearAll frames
    { fired := after.told
      connected := after.system.monitor.pushConnected
      bundles := bundles.map after.viewBundle
      pollers := after.system.monitor.activePollers } ::
      hearSessions bundles { after with log := [] } rest

end State

/-- Carries out the sessions of a feed while the given bundles are waited for; a bundle may be
waited for more than once. -/
def runFeed (bundles : List Hash) (sessions : List (List Frame)) : List SessionReport :=
  let state : State := {
    system := { monitor := { config := {} } }
    nodes := []
    trace := false }
  (bundles.foldl State.await state).settle.hearSessions bundles sessions

end Inclusion.Rehearsal
