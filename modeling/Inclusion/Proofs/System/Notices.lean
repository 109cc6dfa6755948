import Inclusion.Proofs.Hash
import Inclusion.Proofs.Stopwatch
import Inclusion.Proofs.Text.Words
import Inclusion.Proofs.System.Attending

/-!
# What the feed announces

A line announces a bundle by its first and its seventh word, and a text of the feed completes the
watched hashes that its lines announce. A hash that was completed is not watched any more, so that a
second line about it finds nothing to do: what becomes of a text is determined by which hashes its
lines announce, and not by how often. Everything else stays as it was.
-/

namespace Inclusion

/-- A line announces a bundle if white space splits it into at least seven words, of which the first
is the topic of confirmations and the seventh is what the bundle is written as. -/
def Announces (line : String) (bundle : Hash) : Prop :=
  ∃ words, Text.Splits line.toList words ∧ words[0]? = some confirmationTopic ∧
    words[6]? = some bundle.text

theorem announces_iff {line : String} {bundle : Hash} :
    Announces line bundle ↔ (Text.words line)[0]? = some confirmationTopic ∧
      (Text.words line)[6]? = some bundle.text := by
  simp only [Announces, ← Text.words_eq_iff, exists_eq_left']

theorem exists_of_seventh {words : List String} {seventh : String}
    (present : words[6]? = some seventh) :
    ∃ first second third fourth fifth sixth rest,
      words = first :: second :: third :: fourth :: fifth :: sixth :: seventh :: rest := by
  match words, present with
  | _ :: _ :: _ :: _ :: _ :: _ :: _ :: _, present =>
    obtain rfl := Option.some.inj present
    exact ⟨_, _, _, _, _, _, _, rfl⟩

/-- The bundle of a notice is the one that its line announces. -/
theorem noticedBundle?_eq_some_iff {line : String} {bundle : Hash} :
    noticedBundle? line = some bundle ↔ Announces line bundle := by
  have read (word : String) : (Hash.read word).toOption = some bundle ↔ word = bundle.text := by
    rw [← Hash.read_eq_ok_iff]
    cases Hash.read word <;> simp [Except.toOption]
  rw [announces_iff, noticedBundle?]
  constructor
  · intro noticed
    split at noticed
    · next split =>
      rw [split]
      split at noticed
      · next topic => exact ⟨congrArg some topic, congrArg some ((read _).mp noticed)⟩
      · cases noticed
    · cases noticed
  · rintro ⟨topic, seventh⟩
    obtain ⟨_, _, _, _, _, _, _, split⟩ := exists_of_seventh seventh
    rw [split] at topic ⊢
    simp only [if_pos (Option.some.inj topic), (read _).mpr rfl]

theorem nodup_eraseDups {α : Type} [BEq α] [LawfulBEq α] (items : List α) :
    items.eraseDups.Nodup := by
  match items with
  | [] => exact .nil
  | first :: rest =>
    rw [List.eraseDups_cons, List.nodup_cons]
    exact ⟨by simp, nodup_eraseDups (rest.filter fun other => !other == first)⟩
termination_by items.length
decreasing_by exact Nat.lt_succ_of_le (List.length_filter_le _ rest)

/-! ## Completing several hashes -/

namespace Monitor

variable {Watcher : Type} {monitor : Monitor Watcher} {bundle : Hash}

/-- The monitor when hashes are completed: nobody waits for them any more, and the pollers recorded
for them are woken. -/
def completing (monitor : Monitor Watcher) (bundles : List Hash) : Monitor Watcher :=
  { monitor with
    entries := monitor.entries.filter fun entry => entry.1 ∉ bundles
    pollers := monitor.pollers.map fun poller =>
      if ∃ bundle ∈ bundles, monitor.records.lookup bundle = some poller.id then
        { poller with woken := true }
      else poller }

theorem completing_nil (monitor : Monitor Watcher) : monitor.completing [] = monitor := by
  simp [completing]

/-- Hashes are completed one by one. -/
theorem completing_cons (monitor : Monitor Watcher) (bundle : Hash) (rest : List Hash) :
    monitor.completing (bundle :: rest) =
      ((monitor.forget bundle).wake bundle).completing rest := by
  have entries : monitor.entries.filter (fun entry => entry.1 ∉ bundle :: rest) =
      (monitor.entries.filter fun entry => entry.1 ≠ bundle).filter fun entry =>
        entry.1 ∉ rest := by
    rw [List.filter_filter]
    refine List.filter_congr fun entry _ => ?_
    simp [Bool.and_comm]
  unfold wake
  split
  · next id recorded =>
    replace recorded : monitor.records.lookup bundle = some id := recorded
    simp only [completing, entries, forget, modifyPoller, List.map_map]
    congr 1
    refine List.map_congr_left fun poller _ => ?_
    by_cases own : poller.id = id
    · simp [recorded, own]
    · simp [recorded, own, Ne.symm own]
  · next unrecorded =>
    replace unrecorded : monitor.records.lookup bundle = none := unrecorded
    simp only [completing, entries, forget]
    congr 1
    refine List.map_congr_left fun poller _ => if_congr ?_ rfl rfl
    simp [unrecorded]

theorem lookup_completing (monitor : Monitor Watcher) (bundles : List Hash) (bundle : Hash) :
    (monitor.completing bundles).entries.lookup bundle =
      if bundle ∈ bundles then none else monitor.entries.lookup bundle := by
  induction bundles generalizing monitor with
  | nil => rw [completing_nil, if_neg List.not_mem_nil]
  | cons first rest inductionHypothesis =>
    rw [completing_cons, inductionHypothesis, entries_wake, forget, lookup_filter_ne]
    by_cases own : bundle = first <;> simp [own]

theorem pending_completing (monitor : Monitor Watcher) (bundles : List Hash) (bundle : Hash) :
    (monitor.completing bundles).pending bundle =
      if bundle ∈ bundles then [] else monitor.pending bundle := by
  rw [pending, lookup_completing, pending]
  split <;> rfl

theorem isWatching_completing (monitor : Monitor Watcher) (bundles : List Hash) (bundle : Hash) :
    (monitor.completing bundles).isWatching bundle =
      (decide (bundle ∉ bundles) && monitor.isWatching bundle) := by
  rw [isWatching, lookup_completing, isWatching]
  by_cases own : bundle ∈ bundles <;> simp [own]

/-- In a sound monitor the pollers that are woken are the live ones of the completed hashes. -/
theorem Sound.pollers_completing (sound : monitor.Sound) (bundles : List Hash) :
    (monitor.completing bundles).pollers = monitor.pollers.map fun poller =>
      if poller.isLive = true ∧ poller.bundle ∈ bundles then { poller with woken := true }
      else poller := by
  refine List.map_congr_left fun poller member => if_congr ?_ rfl rfl
  constructor
  · rintro ⟨bundle, done, recorded⟩
    obtain ⟨other, alive, rfl, same⟩ :=
      sound.mem_records.mp ((lookup_eq_some_iff_mem sound.single).mp recorded)
    obtain ⟨there, lives⟩ := mem_live.mp alive
    obtain rfl := sound.poller_unique member there same
    exact ⟨lives, done⟩
  · rintro ⟨lives, done⟩
    exact ⟨poller.bundle, done, sound.recorded (mem_live.mpr ⟨member, lives⟩)⟩

end Monitor

namespace System

/-- The system when watched hashes are completed. -/
def completing (system : System) (bundles : List Hash) : System :=
  { system with
    monitor := system.monitor.completing bundles
    callbacks := system.callbacks ++
      bundles.flatMap fun bundle => (system.monitor.pending bundle).map (bundle, ·)
    stopwatch :=
      bundles.foldl (fun watch bundle => (watch.stop bundle.text system.now).1) system.stopwatch }

/-- What is seen when a watched hash is completed. -/
def completion (system : System) (bundle : Hash) : List Effect :=
  [.monitor (.completed bundle (system.monitor.pending bundle)), .monitor (.stopWatch bundle),
    .monitor (.answered true)]

/-- The watched hashes that lines announce, each of them once. -/
def heard (system : System) (lines : List String) : List Hash :=
  ((lines.filterMap noticedBundle?).filter system.monitor.isWatching).eraseDups

theorem completing_nil (system : System) : system.completing [] = system := by
  simp [completing, Monitor.completing_nil]

variable {system : System} {line : String} {lines : List String} {bundle : Hash}
  {others : List Hash}

/-- The registrations of other hashes stay when a hash is completed. -/
theorem pending_completed (absent : bundle ∉ others) {other : Hash} (member : other ∈ others) :
    (system.completing [bundle]).monitor.pending other = system.monitor.pending other := by
  have different : other ∉ [bundle] := fun same => absent (List.mem_singleton.mp same ▸ member)
  exact (Monitor.pending_completing system.monitor [bundle] other).trans (if_neg different)

/-- Hashes are completed one by one. -/
theorem completing_cons (absent : bundle ∉ others) :
    system.completing (bundle :: others) = (system.completing [bundle]).completing others := by
  have callbacks : (others.flatMap fun other =>
      ((system.completing [bundle]).monitor.pending other).map (other, ·)) =
        others.flatMap fun other => (system.monitor.pending other).map (other, ·) :=
    List.flatMap_congr fun other member => by rw [pending_completed absent member]
  conv => rhs; rw [completing, callbacks]
  simp only [completing, Monitor.completing_cons, Monitor.completing_nil, List.flatMap_cons,
    List.flatMap_nil, List.append_nil, List.append_assoc, List.foldl_cons, List.foldl_nil]

/-- What is seen of a completion does not depend on those before. -/
theorem completion_completing (absent : bundle ∉ others) :
    others.flatMap (system.completing [bundle]).completion =
      others.flatMap system.completion := by
  refine List.flatMap_congr fun other member => ?_
  rw [completion, completion, pending_completed absent member]

/-! ## Hearing the lines of a text -/

theorem hearLine_of_unheard
    (unheard : ∀ bundle, noticedBundle? line = some bundle →
      system.monitor.isWatching bundle = false) : system.hearLine line = (system, []) := by
  unfold hearLine
  split
  · next bundle noticed => rw [unheard bundle noticed, if_neg Bool.false_ne_true]
  · rfl

/-- A line that announces a watched hash completes it. -/
theorem hearLine_of_heard
    (noticed : noticedBundle? line = some bundle)
    (watched : system.monitor.isWatching bundle = true) :
    system.hearLine line = (system.completing [bundle], system.completion bundle) := by
  obtain ⟨present, found⟩ := Option.isSome_iff_exists.mp watched
  have pending := Monitor.pending_of_lookup found
  have completed : system.monitor.notifyConfirmed bundle =
      (system.monitor.completing [bundle],
        [.completed bundle present, .stopWatch bundle, .answered true]) := by
    rw [Monitor.completing_cons, Monitor.completing_nil, Monitor.notifyConfirmed,
      Monitor.complete, found, watched]
    rfl
  simp only [hearLine, noticed, watched, if_true, afterMonitor, completed, carryOut, serveMonitor,
    completing, completion, pending, List.flatMap_cons, List.flatMap_nil, List.foldl_cons,
    List.foldl_nil, List.append_nil]
  rfl

theorem heard_cons_of_unheard
    (unheard : ∀ bundle, noticedBundle? line = some bundle →
      system.monitor.isWatching bundle = false) (rest : List String) :
    system.heard (line :: rest) = system.heard rest := by
  cases noticed : noticedBundle? line with
  | none => rw [heard, List.filterMap_cons_none noticed, heard]
  | some bundle =>
    rw [heard, List.filterMap_cons_some noticed,
      List.filter_cons_of_neg (by simp [unheard bundle noticed]), heard]

/-- A hash that a line completes is not watched any more when the lines after it are heard. -/
theorem heard_cons_of_heard (noticed : noticedBundle? line = some bundle)
    (watched : system.monitor.isWatching bundle = true) (rest : List String) :
    bundle ∉ (system.completing [bundle]).heard rest ∧
      system.heard (line :: rest) = bundle :: (system.completing [bundle]).heard rest := by
  have later : (system.completing [bundle]).heard rest =
      (((rest.filterMap noticedBundle?).filter system.monitor.isWatching).filter
        fun other => !other == bundle).eraseDups := by
    rw [heard, List.filter_filter]
    congr 1
    refine List.filter_congr fun other _ => ?_
    rw [completing, Monitor.isWatching_completing]
    simp [beq_eq_decide]
  constructor
  · simp [later]
  · rw [later, heard, List.filterMap_cons_some noticed, List.filter_cons_of_pos watched,
      List.eraseDups_cons]

/-- Lines that are heard one after another complete what they announce together. -/
theorem carryOut_hearLine (system : System) (lines : List String) :
    carryOut hearLine system lines =
      (system.completing (system.heard lines),
        (system.heard lines).flatMap system.completion) := by
  induction lines generalizing system with
  | nil => exact Prod.ext (completing_nil system).symm rfl
  | cons line rest inductionHypothesis =>
    rw [carryOut_cons]
    by_cases announced : ∃ bundle, noticedBundle? line = some bundle ∧
        system.monitor.isWatching bundle = true
    · obtain ⟨bundle, noticed, watched⟩ := announced
      obtain ⟨absent, all⟩ := heard_cons_of_heard noticed watched rest
      rw [hearLine_of_heard noticed watched, inductionHypothesis, all, completing_cons absent,
        completion_completing absent, List.flatMap_cons]
    · have unheard : ∀ bundle, noticedBundle? line = some bundle →
          system.monitor.isWatching bundle = false := by
        intro bundle noticed
        exact eq_false_of_ne_true fun watched => announced ⟨bundle, noticed, watched⟩
      rw [hearLine_of_unheard unheard, inductionHypothesis, heard_cons_of_unheard unheard,
        List.nil_append]

theorem mem_heard : bundle ∈ system.heard lines ↔
    system.monitor.isWatching bundle = true ∧ ∃ line ∈ lines, Announces line bundle := by
  rw [heard, List.mem_eraseDups, List.mem_filter, List.mem_filterMap, and_comm]
  simp only [noticedBundle?_eq_some_iff]

/-- A text of the feed completes exactly the watched hashes that its lines announce, each of them
once. Nobody waits for those any more, their owners are in line to be told, their live pollers are
woken and their stopwatches stopped; the registrations, pollers and stopwatches of all other hashes
stay as they were, and so does everything else. A line that announces no watched hash changes
nothing at all. -/
theorem feedSpoke_completes (system : System) (text : String) :
    ∃ done after, system.step (.feedSpoke text) = some (after, done.flatMap system.completion) ∧
      done.Nodup ∧
      (∀ bundle, bundle ∈ done ↔ system.monitor.isWatching bundle = true ∧
        ∃ line ∈ Text.lines text, Announces line bundle) ∧
      after = system.completing done ∧
      (∀ bundle, after.monitor.pending bundle =
        if bundle ∈ done then [] else system.monitor.pending bundle) ∧
      (∀ bundle, after.monitor.isWatching bundle =
        (decide (bundle ∉ done) && system.monitor.isWatching bundle)) ∧
      (system.monitor.Sound → after.monitor.pollers = system.monitor.pollers.map fun poller =>
        if poller.isLive = true ∧ poller.bundle ∈ done then { poller with woken := true }
        else poller) ∧
      (∀ name, after.stopwatch.find? name =
        if ∃ bundle ∈ done, bundle.text = name then
          (system.stopwatch.find? name).map (StopwatchEntry.halt system.now)
        else system.stopwatch.find? name) ∧
      ∀ line, (∀ bundle, Announces line bundle → system.monitor.isWatching bundle = false) →
        system.hearLine line = (system, []) := by
  refine ⟨system.heard (Text.lines text), _, ?_, nodup_eraseDups _, fun _ => mem_heard, rfl,
    system.monitor.pending_completing _, system.monitor.isWatching_completing _,
    fun sound => sound.pollers_completing _,
    fun name => system.stopwatch.find?_foldl_stop name system.now _, ?_⟩
  · exact congrArg some (carryOut_hearLine system (Text.lines text))
  · intro line unheard
    exact hearLine_of_unheard fun bundle noticed =>
      unheard bundle (noticedBundle?_eq_some_iff.mp noticed)

/-- A hash besides the null hash. -/
def anotherHash : Hash :=
  .ofTrytes (List.replicate hashLength (.ofTrits .plus .zero .zero))

/-- The null hash and another one are watched. -/
def listening : System where
  monitor :=
    { config := {}
      nextId := 3
      entries := [(.null, [⟨1, .callback 7⟩]), (anotherHash, [⟨2, .callback 8⟩])]
      records := [(.null, 1), (anotherHash, 2)]
      pollers := [⟨1, .null, false, .asleep 30⟩, ⟨2, anotherHash, false, .asleep 30⟩] }

/-- A line with the null hash in the seventh place and one more word. -/
def notice : List Char :=
  ['\t', 's', 'n', ' ', '1', ' ', '2', ' ', ' ', '3', ' ', '4', ' ', '5', '\t'] ++
    (Trytes.letters Hash.null.trytes ++ [' ', '6'])

/-- A line with the other hash in the sixth place. -/
def shortNotice : List Char :=
  ['s', 'n', ' ', '1', ' ', '2', ' ', '3', ' ', '4', ' '] ++ Trytes.letters anotherHash.trytes

theorem lines_notices :
    Text.lines (String.ofList (notice ++ '\n' :: (notice ++ '\n' :: shortNotice))) =
      [String.ofList notice, String.ofList notice, String.ofList shortNotice] := by
  have unbroken : '\n' ∉ notice := by decide +kernel
  rw [Text.lines_lineFeed unbroken, Text.lines_lineFeed unbroken,
    Text.lines_last (by decide +kernel) (by decide +kernel)]
  rfl

theorem announces_notice {bundle : Hash} :
    Announces (String.ofList notice) bundle ↔ bundle = .null := by
  have topic : (Text.wordsAfter [] notice)[0]? = some confirmationTopic := rfl
  have seventh : (Text.wordsAfter [] notice)[6]? = some Hash.null.text := rfl
  rw [announces_iff, Text.words, String.toList_ofList, seventh, Option.some.injEq]
  exact ⟨fun same => Hash.text_injective same.2.symm, fun same => ⟨topic, by rw [same]⟩⟩

theorem not_announces_shortNotice (bundle : Hash) :
    ¬ Announces (String.ofList shortNotice) bundle := by
  have seventh : (Text.wordsAfter [] shortNotice)[6]? = none := rfl
  rw [announces_iff, Text.words, String.toList_ofList, seventh]
  simp

theorem sound_listening : listening.monitor.Sound := by
  have distinct : Hash.null ≠ anotherHash := by decide +kernel
  constructor
  · constructor <;> simp [listening, distinct]
  all_goals decide +kernel

/-- A hash that is announced twice is completed once, and one that stands in the wrong place is not
completed. -/
theorem feedSpoke_completes_notices : ∃ after,
    listening.step (.feedSpoke (String.ofList
        (notice ++ '\n' :: (notice ++ '\n' :: shortNotice)))) =
      some (after, listening.completion .null) ∧
    after.monitor.isWatching anotherHash = true ∧
    after.monitor.pollers =
      [⟨1, .null, true, .asleep 30⟩, ⟨2, anotherHash, false, .asleep 30⟩] := by
  obtain ⟨done, after, stepped, distinct, announced, -, -, watching, pollers, -⟩ :=
    listening.feedSpoke_completes
      (String.ofList (notice ++ '\n' :: (notice ++ '\n' :: shortNotice)))
  have only : ∀ bundle, bundle ∈ done ↔ bundle ∈ [Hash.null] := by
    intro bundle
    rw [announced, lines_notices]
    simp only [List.mem_cons, exists_eq_or_imp, List.not_mem_nil, or_false, exists_eq_left,
      announces_notice, not_announces_shortNotice, or_self]
    refine and_iff_right_of_imp ?_
    rintro rfl
    decide +kernel
  obtain rfl : done = [Hash.null] :=
    List.perm_singleton.mp ((List.perm_ext_iff_of_nodup distinct (List.nodup_singleton _)).mpr only)
  refine ⟨after, ?_, ?_, ?_⟩
  · simpa using stepped
  · rw [watching]
    decide +kernel
  · rw [pollers sound_listening]
    decide +kernel

end System

end Inclusion
