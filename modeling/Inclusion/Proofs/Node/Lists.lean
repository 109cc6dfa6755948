import Mathlib.Data.List.Forall2
import Inclusion.Node.Wire
import Inclusion.Proofs.Hash
import Inclusion.Proofs.Text.Numeral

/-!
# Lists in replies

A list is read from a document in two passes over an array. The first judges the shape of every
element, and only then the second judges what the elements hold; so a wrong shape is told before any
wrong content, wherever the two stand. Nothing is kept of a list with an element that is refused.
-/

namespace Inclusion

/-! ## Passes over a list -/

section

variable {Error Item Value : Type} {judge : Item → Except Error Value} {items : List Item}

/-- A pass succeeds if every element does, and keeps their number and their order. -/
theorem mapM_eq_ok_iff {values : List Value} : items.mapM judge = .ok values ↔
    List.Forall₂ (fun item value => judge item = .ok value) items values := by
  induction items generalizing values with
  | nil => simp [pure, Except.pure, eq_comm]
  | cons item rest inductionHypothesis =>
    rw [List.mapM_cons, Except.bind_eq_ok]
    simp only [Except.bind_eq_ok, inductionHypothesis]
    constructor
    · rintro ⟨value, first, others, later, same⟩
      obtain rfl := Except.ok.inj same
      exact .cons first later
    · rintro (_ | ⟨first, later⟩)
      exact ⟨_, first, _, later, rfl⟩

/-- A pass fails at the first element that does. -/
theorem mapM_eq_error_iff {error : Error} : items.mapM judge = .error error ↔
    ∃ before item after values, items = before ++ item :: after ∧
      List.Forall₂ (fun item value => judge item = .ok value) before values ∧
      judge item = .error error := by
  induction items with
  | nil => simp [pure, Except.pure]
  | cons item rest inductionHypothesis =>
    rw [List.mapM_cons, Except.bind_eq_error]
    constructor
    · rintro (fails | ⟨value, first, later⟩)
      · exact ⟨[], item, rest, [], rfl, .nil, fails⟩
      · rcases Except.bind_eq_error.mp later with fails | ⟨_, _, same⟩
        · obtain ⟨before, bad, after, values, rfl, sound, fails⟩ := inductionHypothesis.mp fails
          exact ⟨item :: before, bad, after, value :: values, rfl, .cons first sound, fails⟩
        · cases same
    · rintro ⟨before, bad, after, values, same, sound, fails⟩
      cases sound with
      | nil =>
        obtain ⟨rfl, rfl⟩ := List.cons.inj same
        exact .inl fails
      | cons first sound =>
        obtain ⟨rfl, rfl⟩ := List.cons.inj same
        refine .inr ⟨_, first, Except.bind_eq_error.mpr (.inl ?_)⟩
        exact inductionHypothesis.mpr ⟨_, bad, after, _, rfl, sound, fails⟩

end

namespace Wire

variable {Content Value : Type} {name misfit : String} {document : Json}

/-! ## The shape of the elements -/

/-- An element of the right shape holds something. -/
def shaped (shape? : Json → Option Content) (misfit : String) (item : Json) :
    Except NodeError Content :=
  match shape? item with
  | some content => .ok content
  | none => .error (.decode misfit)

theorem flag_eq : flag = shaped Json.bool? "state not bool" := by
  funext item
  rw [flag, shaped]
  cases item.bool? <;> rfl

theorem requiredTexts_eq (name : String) (document : Json) :
    requiredTexts name document = requiredArray name document >>= fun items =>
      items.mapM (shaped Json.text? (name ++ " element not string")) := by
  refine bind_congr fun items => congrArg (fun judge => items.mapM judge) ?_
  funext item
  rw [shaped]
  cases item.text? <;> rfl

/-- What has a shape is wrapped in it. -/
def Wraps (wrap : Content → Json) (shape? : Json → Option Content) : Prop :=
  ∀ item content, shape? item = some content ↔ item = wrap content

theorem wraps_bool : Wraps Json.bool Json.bool? := by
  intro item content
  cases item <;> simp [Json.bool?]

theorem wraps_text : Wraps Json.text Json.text? := by
  intro item content
  cases item <;> simp [Json.text?]

section

variable {wrap : Content → Json} {shape? : Json → Option Content} {items : List Json}

theorem shaped_eq_ok_iff (wraps : Wraps wrap shape?) {item : Json} {content : Content} :
    shaped shape? misfit item = .ok content ↔ item = wrap content := by
  rw [← wraps item content, shaped]
  cases shape? item <;> simp

theorem shaped_eq_error_iff (wraps : Wraps wrap shape?) {item : Json} {error : NodeError} :
    shaped shape? misfit item = .error error ↔
      (∀ content, item ≠ wrap content) ∧ error = .decode misfit := by
  simp only [ne_eq, ← wraps item, shaped]
  cases shape? item <;> simp [eq_comm]

theorem mapM_shaped_eq_ok_iff (wraps : Wraps wrap shape?) {contents : List Content} :
    items.mapM (shaped shape? misfit) = .ok contents ↔ items = contents.map wrap := by
  rw [mapM_eq_ok_iff]
  simp only [shaped_eq_ok_iff wraps]
  rw [← List.forall₂_map_right_iff, List.forall₂_eq_eq_eq]

theorem mapM_shaped_eq_error_iff (wraps : Wraps wrap shape?) {error : NodeError} :
    items.mapM (shaped shape? misfit) = .error error ↔
      (∃ item ∈ items, ∀ content, item ≠ wrap content) ∧ error = .decode misfit := by
  constructor
  · intro fails
    obtain ⟨before, item, after, -, rfl, -, bad⟩ := mapM_eq_error_iff.mp fails
    obtain ⟨other, same⟩ := (shaped_eq_error_iff wraps).mp bad
    exact ⟨⟨item, by simp, other⟩, same⟩
  · rintro ⟨⟨item, there, other⟩, rfl⟩
    -- The item need not be the first of a wrong shape, but all of them are told alike.
    cases outcome : items.mapM (shaped shape? misfit) with
    | error error =>
      obtain ⟨before, bad, after, -, rfl, -, fails⟩ := mapM_eq_error_iff.mp outcome
      rw [((shaped_eq_error_iff wraps).mp fails).2]
    | ok contents =>
      obtain rfl := (mapM_shaped_eq_ok_iff wraps).mp outcome
      obtain ⟨content, -, same⟩ := List.mem_map.mp there
      exact absurd same.symm (other content)

end

/-! ## The list -/

/-- How a member of a document is a list, or why it is none. The elements are wrapped contents, and
every content is judged to be a value or to be none for some reason. -/
inductive Listed (name misfit : String) (wrap : Content → Json)
    (Judged : Content → Except String Value → Prop) (document : Json) :
    Except String (List Value) → Prop where
  | all {contents values}
      (present : document.member? name = some (.array (contents.map wrap)))
      (sound : List.Forall₂ (fun content value => Judged content (.ok value)) contents values) :
      Listed name misfit wrap Judged document (.ok values)
  | missing (absent : document.member? name = none) :
      Listed name misfit wrap Judged document (.error ("missing " ++ name))
  | noArray {value} (present : document.member? name = some value)
      (other : ∀ items, value ≠ .array items) :
      Listed name misfit wrap Judged document (.error (name ++ " not array"))
  | shape {items item} (present : document.member? name = some (.array items))
      (there : item ∈ items) (other : ∀ content, item ≠ wrap content) :
      Listed name misfit wrap Judged document (.error misfit)
  | content {before content after values reason}
      (present : document.member? name =
        some (.array ((before ++ content :: after).map wrap)))
      (sound : List.Forall₂ (fun content value => Judged content (.ok value)) before values)
      (bad : Judged content (.error reason)) :
      Listed name misfit wrap Judged document (.error reason)

/-- What a reader of contents makes of each is what the content is judged to be. -/
structure Judges (judge : Content → Except NodeError Value)
    (Judged : Content → Except String Value → Prop) : Prop where
  ok : ∀ content value, judge content = .ok value ↔ Judged content (.ok value)
  error : ∀ content error, judge content = .error error ↔
    ∃ reason, Judged content (.error reason) ∧ error = .decode reason

/-- A list that is read in two passes. -/
def listed (name misfit : String) (shape? : Json → Option Content)
    (judge : Content → Except NodeError Value) (document : Json) :
    Except NodeError (List Value) := do
  (← (← requiredArray name document).mapM (shaped shape? misfit)).mapM judge

/-- If the contents are the values already, the second pass changes nothing. -/
theorem listed_itself {shape? : Json → Option Content} : listed name misfit shape? .ok document =
    requiredArray name document >>= fun items => items.mapM (shaped shape? misfit) := by
  have whole (contents : List Content) :
      contents.mapM (.ok : Content → Except NodeError Content) = .ok contents :=
    mapM_eq_ok_iff.mpr (List.forall₂_same.mpr fun _ _ => rfl)
  simp only [listed, whole]
  exact bind_congr fun items => bind_pure _

theorem requiredArray_eq_ok_iff {items : List Json} :
    requiredArray name document = .ok items ↔ document.member? name = some (.array items) := by
  rw [requiredArray, required]
  cases document.member? name with
  | none => simp [bind, Except.bind]
  | some value => cases value <;> simp [bind, Except.bind, Json.array?]

theorem requiredArray_eq_error_iff {error : NodeError} :
    requiredArray name document = .error error ↔
      (document.member? name = none ∧ error = .decode ("missing " ++ name)) ∨
      ∃ value, document.member? name = some value ∧ (∀ items, value ≠ .array items) ∧
        error = .decode (name ++ " not array") := by
  rw [requiredArray, required]
  cases document.member? name with
  | none => simp [bind, Except.bind, eq_comm]
  | some value => cases value <;> simp [bind, Except.bind, Json.array?, eq_comm]

section

variable {wrap : Content → Json} {shape? : Json → Option Content}
  {judge : Content → Except NodeError Value} {Judged : Content → Except String Value → Prop}

theorem listed_eq_ok_iff (wraps : Wraps wrap shape?) (judges : Judges judge Judged)
    {values : List Value} : listed name misfit shape? judge document = .ok values ↔
      Listed name misfit wrap Judged document (.ok values) := by
  rw [listed, Except.bind_eq_ok]
  simp only [Except.bind_eq_ok, requiredArray_eq_ok_iff, mapM_shaped_eq_ok_iff wraps,
    mapM_eq_ok_iff, judges.ok]
  constructor
  · rintro ⟨_, present, contents, rfl, sound⟩
    exact .all present sound
  · intro listed
    cases listed with
    | all present sound => exact ⟨_, present, _, rfl, sound⟩

theorem listed_eq_error_iff (wraps : Wraps wrap shape?) (judges : Judges judge Judged)
    {error : NodeError} : listed name misfit shape? judge document = .error error ↔
      ∃ reason, Listed name misfit wrap Judged document (.error reason) ∧
        error = .decode reason := by
  rw [listed, Except.bind_eq_error]
  simp only [Except.bind_eq_error, requiredArray_eq_ok_iff, requiredArray_eq_error_iff,
    mapM_shaped_eq_ok_iff wraps, mapM_shaped_eq_error_iff wraps, mapM_eq_error_iff, judges.ok,
    judges.error]
  constructor
  · rintro ((⟨absent, rfl⟩ | ⟨value, present, other, rfl⟩) |
      ⟨items, present, ⟨⟨item, there, other⟩, rfl⟩ |
        ⟨_, rfl, before, content, after, values, rfl, sound, reason, bad, rfl⟩⟩)
    · exact ⟨_, .missing absent, rfl⟩
    · exact ⟨_, .noArray present other, rfl⟩
    · exact ⟨_, .shape present there other, rfl⟩
    · exact ⟨_, .content present sound bad, rfl⟩
  · rintro ⟨reason, listed, rfl⟩
    cases listed with
    | missing absent => exact .inl (.inl ⟨absent, rfl⟩)
    | noArray present other => exact .inl (.inr ⟨_, present, other, rfl⟩)
    | shape present there other => exact .inr ⟨_, present, .inl ⟨⟨_, there, other⟩, rfl⟩⟩
    | content present sound bad =>
      exact .inr ⟨_, present, .inr ⟨_, rfl, _, _, _, _, rfl, sound, _, bad, rfl⟩⟩

end

/-! ## What the elements hold -/

/-- What is a value already. -/
def Itself (value : Value) (verdict : Except String Value) : Prop :=
  verdict = .ok value

/-- The hash that a text writes. A text is refused for its length in bytes, and only if that is
right for its first character that is no letter. -/
inductive WritesHash (text : String) : Except String Hash → Prop where
  | hash {hash : Hash} (same : text = hash.text) : WritesHash text (.ok hash)
  | length (wrong : Trytes.byteLength text.toList ≠ hashLength) :
      WritesHash text
        (.error (TrytesError.length hashLength (Trytes.byteLength text.toList)).message)
  | letter {position fault} (right : Trytes.byteLength text.toList = hashLength)
      (first : Trytes.FirstFault text.toList position fault) :
      WritesHash text (.error (TrytesError.invalidTryte position fault).message)

/-- The number of 64 bits that a text writes. -/
def WritesAmount (text : String) (verdict : Except String Nat) : Prop :=
  ∃ result, Text.Denotes (2 ^ 64) text result ∧ verdict = result.mapError Text.NumeralFault.message

theorem judges_itself : Judges (.ok : Value → Except NodeError Value) Itself where
  ok value other := by simp [Itself, eq_comm]
  error value error := by simp [Itself]

theorem hash_eq_ok_iff {text : String} {value : Hash} :
    hash text = .ok value ↔ text = value.text := by
  rw [← Hash.read_eq_ok_iff, hash]
  cases Hash.read text <;> simp

theorem hash_eq_error_iff {text : String} {error : NodeError} :
    hash text = .error error ↔ ∃ cause, Trytes.readExactly hashLength text = .error cause ∧
      error = .decode cause.message := by
  rw [hash, Hash.read]
  cases Trytes.readExactly hashLength text <;> simp [eq_comm]

theorem judges_hash : Judges hash WritesHash where
  ok text value := by
    rw [hash_eq_ok_iff]
    constructor
    · exact .hash
    · intro writes
      cases writes with
      | hash same => exact same
  error text error := by
    simp only [hash_eq_error_iff, Trytes.readExactly_eq_error_iff]
    constructor
    · rintro ⟨cause, ⟨wrong, rfl⟩ | ⟨right, position, fault, first, rfl⟩, rfl⟩
      · exact ⟨_, .length wrong, rfl⟩
      · exact ⟨_, .letter right first, rfl⟩
    · rintro ⟨reason, writes, rfl⟩
      cases writes with
      | length wrong => exact ⟨_, .inl ⟨wrong, rfl⟩, rfl⟩
      | letter right first => exact ⟨_, .inr ⟨right, _, _, first, rfl⟩, rfl⟩

theorem readAmount_eq_iff {text : String} {result : Except Text.NumeralFault Nat} :
    Text.readNatural (Nat.pow 2 64) text = result ↔ Text.Denotes (2 ^ 64) text result :=
  Text.readNatural_eq_iff (show 0 < 2 ^ 64 by decide)

theorem amount_eq_ok_iff {text : String} {value : Nat} :
    amount text = .ok value ↔ Text.Denotes (2 ^ 64) text (.ok value) := by
  rw [← readAmount_eq_iff, amount]
  cases Text.readNatural (Nat.pow 2 64) text <;> simp

theorem amount_eq_error_iff {text : String} {error : NodeError} :
    amount text = .error error ↔ ∃ fault : Text.NumeralFault,
      Text.Denotes (2 ^ 64) text (.error fault) ∧ error = .decode fault.message := by
  simp only [← readAmount_eq_iff, amount]
  cases Text.readNatural (Nat.pow 2 64) text <;> simp [eq_comm]

theorem judges_amount : Judges amount WritesAmount where
  ok text value := by
    rw [amount_eq_ok_iff]
    constructor
    · exact fun denotes => ⟨_, denotes, rfl⟩
    · rintro ⟨_ | number, denotes, same⟩
      · cases same
      · cases same
        exact denotes
  error text error := by
    rw [amount_eq_error_iff]
    constructor
    · rintro ⟨fault, denotes, rfl⟩
      exact ⟨_, ⟨_, denotes, rfl⟩, rfl⟩
    · rintro ⟨reason, ⟨fault | _, denotes, same⟩, rfl⟩
      · cases same
        exact ⟨fault, denotes, rfl⟩
      · cases same

end Wire

end Inclusion
