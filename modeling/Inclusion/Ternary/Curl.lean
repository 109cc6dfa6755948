import Inclusion.Ternary.Trit

/-!
# The Curl sponge

Curl keeps a state of 729 trits. A block of 243 trits overwrites the first third of the state, then
81 rounds mix it. In a round every trit is replaced by a combination of two others, found by walking
around the state in strides of 364, half its length, so that each trit enters two combinations.
-/

namespace Inclusion.Curl

/-- The number of trits absorbed or squeezed at once. -/
def blockLength : Nat := 243

/-- The number of trits of the state. -/
def stateLength : Nat := 729

/-- The number of rounds after every block. -/
def rounds : Nat := 81

/-- The trits between two blocks. -/
abbrev State := Vector Trit stateLength

/-- The combination of two trits. -/
def combine : Trit → Trit → Trit
  | .minus, .minus => .plus
  | .minus, .zero => .plus
  | .minus, .plus => .minus
  | .zero, .minus => .zero
  | .zero, .zero => .minus
  | .zero, .plus => .plus
  | .plus, .minus => .minus
  | .plus, .zero => .zero
  | .plus, .plus => .zero

/-- The place 364 steps further around the state. -/
def stride (place : Fin stateLength) : Fin stateLength :=
  if early : place.val < 365 then ⟨place.val + 364, by simp only [stateLength]; omega⟩
  else ⟨place.val - 365, by omega⟩

/-- The walk goes on for the given number of strides from a place, whose trit is at hand, and
appends the combination of the trits at the two ends of each stride. -/
def State.mixFrom (state : State) : Nat → Fin stateLength → Trit → Array Trit → Array Trit
  | 0, _, _, mixed => mixed
  | strides + 1, place, trit, mixed =>
    let next := stride place
    let nextTrit := state.get next
    mixFrom state strides next nextTrit (mixed.push (combine trit nextTrit))

/-- Every stride appends one trit. -/
theorem State.size_mixFrom (state : State) (strides : Nat) (place : Fin stateLength) (trit : Trit)
    (mixed : Array Trit) :
    (state.mixFrom strides place trit mixed).size = mixed.size + strides := by
  induction strides generalizing place trit mixed with
  | zero => rfl
  | succ strides inductionHypothesis =>
    rw [mixFrom, inductionHypothesis, Array.size_push]
    omega

/-- The place where every round begins. -/
def origin : Fin stateLength := ⟨0, by decide⟩

/-- One round of mixing: the combinations along one walk around the whole state. -/
def State.mixOnce (state : State) : State :=
  ⟨state.mixFrom stateLength origin (state.get origin) (Array.emptyWithCapacity stateLength), by
    simp [size_mixFrom]⟩

/-- The given number of rounds. -/
def State.mix : Nat → State → State
  | 0, state => state
  | count + 1, state => mix count state.mixOnce

/-- The state after a block has overwritten its first trits. -/
def State.overwrite (state : State) (block : Array Trit) : State :=
  Vector.ofFn fun place => block.getD place state[place]

/-- The state after the given number of blocks have been taken from the trits. -/
def State.absorb : Nat → State → List Trit → State
  | 0, state, _ => state
  | blocks + 1, state, trits =>
    absorb blocks ((state.overwrite (trits.take blockLength).toArray).mix rounds)
      (trits.drop blockLength)

/-- The state before anything is absorbed. -/
def State.initial : State := Vector.replicate stateLength .zero

/-- The number of blocks that hold a list of trits. -/
def blockCount (trits : List Trit) : Nat :=
  (trits.length + blockLength - 1) / blockLength

/-- The digest: the first block of the state after all trits are absorbed. -/
def digest (trits : List Trit) : List Trit :=
  let state := State.initial.absorb (blockCount trits) trits
  (state.take blockLength).toList

end Inclusion.Curl
