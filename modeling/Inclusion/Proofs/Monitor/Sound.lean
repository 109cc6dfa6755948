import Inclusion.Proofs.Monitor.Move

/-!
# What holds of a monitor at every moment

A poller is live until it retires; only a live one asks the nodes. A monitor is `Sound` if its
records are those of its live pollers, no two of them for one hash, if every watched hash has one,
and if every poller has a number of its own. A monitor is sound before anybody registers, and no
step makes it unsound.

A poller on its way out is no longer recorded, and what it does at its end leaves the record of the
poller that may have followed it alone.
-/

namespace Inclusion

/-- Whether a poller has not retired. -/
def Poller.isLive (poller : Poller) : Bool :=
  poller.position ≠ .leaving

/-- The record of a poller. -/
def Poller.record (poller : Poller) : Hash × Nat :=
  (poller.bundle, poller.id)

namespace Monitor

variable {Watcher : Type}

/-- The pollers that have not retired. -/
def live (monitor : Monitor Watcher) : List Poller :=
  monitor.pollers.filter Poller.isLive

/-- A monitor whose registrations, records and pollers agree. -/
structure Sound (monitor : Monitor Watcher) : Prop where
  tidy : Tidy monitor.entries
  /-- The live pollers are recorded, and nothing else is. -/
  records : monitor.records = monitor.live.map Poller.record
  /-- No hash has two of them. -/
  single : (monitor.records.map Prod.fst).Nodup
  /-- Every watched hash has one. -/
  served : ∀ bundle ∈ monitor.entries.map Prod.fst, bundle ∈ monitor.records.map Prod.fst
  distinct : (monitor.pollers.map Poller.id).Nodup
  below : ∀ id ∈ monitor.pollers.map Poller.id, id < monitor.nextId

/-- A monitor that nobody has used. -/
structure IsNew (monitor : Monitor Watcher) : Prop where
  entries : monitor.entries = []
  records : monitor.records = []
  pollers : monitor.pollers = []

theorem IsNew.sound {monitor : Monitor Watcher} (new : monitor.IsNew) : monitor.Sound := by
  obtain ⟨entries, records, pollers⟩ := new
  constructor <;> simp [live, entries, records, pollers]
  exact ⟨by simp, by simp⟩

variable {monitor : Monitor Watcher} {now id : Nat} {bundle : Hash} {poller other : Poller}
  {event : Event Watcher} {turn : Turn Watcher}

/-! ## Pollers and their records -/

/-- A poller is the only one of its number. -/
theorem Sound.poller_unique (sound : monitor.Sound) (here : poller ∈ monitor.pollers)
    (there : other ∈ monitor.pollers) (same : other.id = poller.id) : other = poller :=
  List.inj_on_of_nodup_map sound.distinct there here same

/-- A poller is found by its number. -/
theorem Sound.poller?_eq (sound : monitor.Sound) (member : poller ∈ monitor.pollers) :
    monitor.poller? poller.id = some poller := by
  have some_found : (monitor.poller? poller.id).isSome = true :=
    List.find?_isSome.mpr ⟨poller, member, decide_eq_true rfl⟩
  obtain ⟨other, found⟩ := Option.isSome_iff_exists.mp some_found
  obtain ⟨same, there⟩ := poller?_eq_some found
  exact found.trans (congrArg some (sound.poller_unique member there same))

theorem mem_live : poller ∈ monitor.live ↔ poller ∈ monitor.pollers ∧ poller.isLive = true :=
  List.mem_filter

theorem Sound.mem_records (sound : monitor.Sound) :
    (bundle, id) ∈ monitor.records ↔
      ∃ poller ∈ monitor.live, poller.bundle = bundle ∧ poller.id = id := by
  simp [sound.records, Poller.record]

/-- A live poller is the one recorded for its hash. -/
theorem Sound.recorded (sound : monitor.Sound) (alive : poller ∈ monitor.live) :
    monitor.records.lookup poller.bundle = some poller.id :=
  (lookup_eq_some_iff_mem sound.single).mpr (sound.mem_records.mpr ⟨poller, alive, rfl, rfl⟩)

/-- A hash has one live poller at most. -/
theorem Sound.live_unique (sound : monitor.Sound) (here : poller ∈ monitor.live)
    (there : other ∈ monitor.live) (same : other.bundle = poller.bundle) : other = poller := by
  have recorded := sound.recorded there
  rw [same, sound.recorded here] at recorded
  exact sound.poller_unique (mem_live.mp here).1 (mem_live.mp there).1
    (Option.some.inj recorded).symm

/-- A watched hash has a live poller. -/
theorem Sound.exists_live (sound : monitor.Sound) (watched : monitor.isWatching bundle = true) :
    ∃ poller ∈ monitor.live, poller.bundle = bundle := by
  obtain ⟨entry, member, same⟩ := List.lookup_isSome_iff.mp watched
  have known := sound.served bundle (List.mem_map.mpr ⟨entry, member, (eq_of_beq same).symm⟩)
  rw [sound.records, List.map_map] at known
  obtain ⟨poller, alive, rfl⟩ := List.mem_map.mp known
  exact ⟨poller, alive, rfl⟩

/-! ## Changes of a poller -/

/-- Only the poller of a number is changed. -/
theorem poller?_modifyPoller {change : Poller → Poller} (kept : ∀ poller, (change poller).id =
    poller.id) (monitor : Monitor Watcher) (id other : Nat) :
    (monitor.modifyPoller id change).poller? other =
      if other = id then (monitor.poller? other).map change else monitor.poller? other := by
  rw [poller?, modifyPoller, List.find?_map, poller?]
  have same : (fun poller : Poller => decide (poller.id = other)) ∘
      (fun poller => if poller.id = id then change poller else poller) =
        fun poller : Poller => decide (poller.id = other) := by
    funext poller
    by_cases own : poller.id = id <;> simp [own, kept]
  rw [same]
  cases found : monitor.pollers.find? fun poller => poller.id = other with
  | none => simp
  | some poller =>
    have number : poller.id = other := by simpa using List.find?_some found
    by_cases own : other = id <;> simp [number, own]

/-- A change of a poller that leaves its record and whether it is live as they are makes no
difference to the records. -/
theorem Sound.modifyPoller (sound : monitor.Sound) {change : Poller → Poller}
    (kept : ∀ poller ∈ monitor.pollers, poller.id = id →
      (change poller).record = poller.record ∧ (change poller).isLive = poller.isLive) :
    (monitor.modifyPoller id change).Sound := by
  have same : ∀ poller ∈ monitor.pollers,
      (if poller.id = id then change poller else poller).record = poller.record ∧
        (if poller.id = id then change poller else poller).isLive = poller.isLive := by
    intro poller member
    split
    · next own => exact kept poller member own
    · exact ⟨rfl, rfl⟩
  have numbers : (monitor.modifyPoller id change).pollers.map Poller.id =
      monitor.pollers.map Poller.id := by
    rw [Monitor.modifyPoller, List.map_map]
    exact List.map_congr_left fun poller member => congrArg Prod.snd (same poller member).1
  have alive : (monitor.modifyPoller id change).live.map Poller.record =
      monitor.live.map Poller.record := by
    rw [live, live, Monitor.modifyPoller, List.filter_map, List.map_map]
    have stays : monitor.pollers.filter (Poller.isLive ∘ fun poller =>
        if poller.id = id then change poller else poller) = monitor.pollers.filter Poller.isLive :=
      List.filter_congr fun poller member => (same poller member).2
    rw [stays]
    exact List.map_congr_left fun poller member => (same poller (List.mem_of_mem_filter member)).1
  exact ⟨sound.tidy, sound.records.trans alive.symm, sound.single, sound.served,
    numbers ▸ sound.distinct, numbers ▸ sound.below⟩

/-- A live poller may change as long as it stays live. -/
theorem Sound.live_changed (sound : monitor.Sound) {change : Poller → Poller}
    (found : monitor.poller? id = some poller) (alive : poller.isLive = true)
    (kept : (change poller).record = poller.record) (stays : (change poller).isLive = true) :
    (monitor.modifyPoller id change).Sound := by
  obtain ⟨rfl, here⟩ := poller?_eq_some found
  refine sound.modifyPoller fun other member same => ?_
  rw [sound.poller_unique here member same, alive]
  exact ⟨kept, stays⟩

/-- A live poller may go anywhere but out. -/
theorem Sound.place (sound : monitor.Sound) {position : PollerPosition}
    (found : monitor.poller? id = some poller) (alive : poller.isLive = true)
    (stays : position ≠ .leaving) : (monitor.place id position).Sound :=
  sound.live_changed found alive rfl (by simpa [Poller.isLive] using stays)

/-- The poller recorded for a hash is woken, and of a poller nothing else changes. -/
theorem poller?_wake (monitor : Monitor Watcher) (bundle : Hash) (id : Nat) :
    (monitor.wake bundle).poller? id = (monitor.poller? id).map fun poller =>
      { poller with woken := poller.woken || monitor.records.lookup bundle = some id } := by
  unfold wake
  cases recorded : monitor.records.lookup bundle with
  | none => simp
  | some number =>
    simp only
    rw [poller?_modifyPoller (by simp)]
    by_cases own : id = number
    · simp [own]
    · simp [own, Ne.symm own]

theorem Trimmed.poller? {after : Monitor Watcher} (trimmed : Trimmed monitor bundle after)
    (id : Nat) : ∃ heard, after.poller? id = (monitor.poller? id).map fun poller =>
      { poller with woken := poller.woken || heard } := by
  cases trimmed with
  | same | kept => exact ⟨false, by simp [Monitor.keep, Monitor.poller?]⟩
  | cleared => exact ⟨_, poller?_wake (monitor.forget bundle) bundle id⟩

/-- A registration brings at most a new poller along. -/
theorem poller?_register (monitor : Monitor Watcher) (bundle : Hash) (watcher : Watcher)
    (id : Nat) :
    (monitor.register bundle watcher).1.poller? id = monitor.poller? id ∨
      id = monitor.nextId ∧ monitor.poller? id = none ∧
        (monitor.register bundle watcher).1.poller? id = some ⟨id, bundle, false, .starting⟩ := by
  unfold Monitor.register
  split
  · exact .inl rfl
  · simp only [poller?, List.find?_append]
    cases monitor.pollers.find? fun poller => poller.id = id with
    | some poller => exact .inl rfl
    | none =>
      by_cases own : monitor.nextId = id
      · exact .inr ⟨own.symm, rfl, by simp [own]⟩
      · exact .inl (by simp [own])

/-- A poller that ends is gone, and no other. -/
theorem poller?_leave (monitor : Monitor Watcher) (poller : Poller) (id : Nat) :
    (monitor.leave poller).1.poller? id =
      if id = poller.id then none else monitor.poller? id := by
  rw [leave, poller?, poller?, List.find?_filter]
  split
  · next own => simp [own]
  · next own =>
    congr 1
    funext other
    by_cases same : other.id = id <;> simp [same, own]

/-- To wake a poller changes no record. -/
theorem Sound.wake (sound : monitor.Sound) (bundle : Hash) : (monitor.wake bundle).Sound := by
  unfold Monitor.wake
  split
  · exact sound.modifyPoller fun _ _ _ => ⟨rfl, rfl⟩
  · exact sound

/-! ## Registrations that come and go -/

/-- Where no hash is added, every watched hash keeps its poller. -/
theorem Sound.entries (sound : monitor.Sound)
    {entries : List (Hash × List (Registration Watcher))} (tidy : Tidy entries)
    (fewer : ∀ bundle ∈ entries.map Prod.fst, bundle ∈ monitor.entries.map Prod.fst) :
    { monitor with entries }.Sound :=
  ⟨tidy, sound.records, sound.single,
    fun bundle member => sound.served bundle (fewer bundle member), sound.distinct, sound.below⟩

theorem Sound.forget (sound : monitor.Sound) (bundle : Hash) : (monitor.forget bundle).Sound :=
  sound.entries (sound.tidy.filter _) fun _ member =>
    (List.filter_sublist.map Prod.fst).subset member

theorem Sound.keep (sound : monitor.Sound) {kept : List (Registration Watcher)} (bundle : Hash)
    (some_left : kept ≠ []) : (monitor.keep bundle kept).Sound := by
  refine sound.entries (sound.tidy.keep bundle some_left) fun other member => ?_
  rwa [← map_fst_keep monitor bundle kept]

/-- A registration finds the poller of its hash or brings one along. -/
theorem Sound.register (sound : monitor.Sound) (bundle : Hash) (watcher : Watcher) :
    (monitor.register bundle watcher).1.Sound := by
  have tidy := sound.tidy.addPending ⟨monitor.nextId, watcher⟩ bundle
  have hashes : ∀ other ∈ (addPending ⟨monitor.nextId, watcher⟩ bundle monitor.entries).map
      Prod.fst, other ∈ monitor.entries.map Prod.fst ∨ other = bundle := by
    intro other member
    rw [map_fst_addPending] at member
    split at member
    · exact .inl member
    · simpa [or_comm] using member
  have numbers : ∀ id ∈ monitor.pollers.map Poller.id, id < monitor.nextId + 1 :=
    fun id member => Nat.lt_succ_of_lt (sound.below id member)
  unfold Monitor.register
  split
  · next recorded =>
    have known : bundle ∈ monitor.records.map Prod.fst :=
      List.mem_map.mpr ⟨_, (lookup_eq_some_iff_mem sound.single).mp recorded, rfl⟩
    refine ⟨tidy, sound.records, sound.single, fun other member => ?_, sound.distinct, numbers⟩
    obtain before | rfl := hashes other member
    · exact sound.served other before
    · exact known
  · next unrecorded =>
    have unknown : bundle ∉ monitor.records.map Prod.fst := by
      intro member
      obtain ⟨record, there, same⟩ := List.mem_map.mp member
      have elsewhere := List.lookup_eq_none_iff.mp unrecorded record there
      simp [same] at elsewhere
    have fresh : monitor.nextId ∉ monitor.pollers.map Poller.id :=
      fun member => Nat.lt_irrefl _ (sound.below _ member)
    refine ⟨tidy, ?_, ?_, fun other member => ?_, ?_, ?_⟩
    · simp [live, sound.records, Poller.isLive, Poller.record]
    · simpa using sound.single.concat unknown
    · obtain before | rfl := hashes other member
      · simpa using Or.inl (sound.served other before)
      · simp
    · simpa using sound.distinct.concat fresh
    · intro id member
      obtain earlier | own : id ∈ monitor.pollers.map Poller.id ∨ id = monitor.nextId := by
        simpa using member
      · exact numbers id earlier
      · exact own ▸ Nat.lt_succ_self _

/-! ## Pollers that retire and end -/

/-- Where a poller is live no more and its record is gone, all others are as they were. A hash that
is watched must not lose its poller by it. -/
theorem Sound.unrecord (sound : monitor.Sound) (member : poller ∈ monitor.pollers)
    (idle : poller.isLive = true → monitor.isWatching poller.bundle = false) {pollers : List Poller}
    (alive : pollers.filter Poller.isLive = monitor.live.filter fun other => other.id ≠ poller.id)
    (fewer : (pollers.map Poller.id).Sublist (monitor.pollers.map Poller.id)) :
    { monitor.unrecord poller with pollers }.Sound where
  tidy := sound.tidy
  records := by
    have others : monitor.live.filter (fun other => other.id ≠ poller.id) =
        monitor.live.filter fun other => other.record ≠ poller.record := by
      refine List.filter_congr fun other there => ?_
      have same : other.id = poller.id ↔ other.record = poller.record := by
        refine ⟨fun same => ?_, fun same => congrArg Prod.snd same⟩
        rw [sound.poller_unique member (mem_live.mp there).1 same]
      simp [same]
    rw [live, alive, others, Monitor.unrecord, sound.records, List.filter_map]
    rfl
  single := sound.single.sublist (List.filter_sublist.map _)
  served := by
    intro bundle watched
    obtain ⟨⟨other, id⟩, recorded, rfl⟩ := List.mem_map.mp (sound.served bundle watched)
    refine List.mem_map.mpr ⟨(other, id), List.mem_filter.mpr ⟨recorded, ?_⟩, rfl⟩
    by_contra own
    obtain ⟨rfl, rfl⟩ : other = poller.bundle ∧ id = poller.id := by simpa using own
    obtain ⟨another, there, -, same⟩ := sound.mem_records.mp recorded
    obtain ⟨there, lives⟩ := mem_live.mp there
    obtain rfl := sound.poller_unique member there same
    have unwatched := idle lives
    rw [isWatching, Option.isSome_eq_false_iff, Option.isNone_iff_eq_none,
      List.lookup_eq_none_iff] at unwatched
    obtain ⟨entry, there, same⟩ := List.mem_map.mp watched
    simpa [same] using unwatched entry there
  distinct := sound.distinct.sublist fewer
  below := fun id member => sound.below id (fewer.subset member)

/-- A poller that retires is no longer recorded. Nobody waits for its hash. -/
theorem Sound.retire (sound : monitor.Sound) (found : monitor.poller? poller.id = some poller)
    (unwatched : monitor.isWatching poller.bundle = false) :
    ((monitor.unrecord poller).place poller.id .leaving).Sound := by
  refine sound.unrecord (poller?_eq_some found).2 (fun _ => unwatched) ?_ ?_
  · rw [live, Monitor.unrecord, List.filter_filter]
    generalize monitor.pollers = pollers
    induction pollers with
    | nil => rfl
    | cons first rest inductionHypothesis =>
      rw [List.map_cons, List.filter_cons, List.filter_cons, inductionHypothesis]
      by_cases own : first.id = poller.id <;> simp [own, Poller.isLive]
  · have numbers : ∀ other : Poller, (if other.id = poller.id then
        { other with position := .leaving } else other).id = other.id := by
      intro other
      split <;> rfl
    simp [Monitor.unrecord, Function.comp_def, numbers]

/-- A poller that ends has been recorded no longer. -/
theorem Sound.leave (sound : monitor.Sound) (found : monitor.poller? poller.id = some poller)
    (stands : poller.position = .leaving) : (monitor.leave poller).1.Sound := by
  refine sound.unrecord (poller?_eq_some found).2 (fun alive => ?_) ?_ ?_
  · simp [Poller.isLive, stands] at alive
  · rw [live, List.filter_comm]
  · exact List.filter_sublist.map _

/-! ## All steps -/

theorem Trimmed.sound {after : Monitor Watcher} (trimmed : Trimmed monitor bundle after)
    (sound : monitor.Sound) : after.Sound := by
  cases trimmed with
  | same => exact sound
  | kept some_left => exact sound.keep bundle some_left
  | cleared => exact (sound.forget bundle).wake bundle

/-- A sound monitor stays sound. -/
theorem Sound.step (sound : monitor.Sound) (move : Move now monitor event turn) :
    turn.1.Sound := by
  cases move with
  | register => exact sound.register _ _
  | cancelRegistration => exact (trimmed_cancelRegistration ..).sound sound
  | cancelPolling => exact (trimmed_cancelPolling ..).sound sound
  | notifyConfirmed => exact (trimmed_complete ..).sound sound
  | feedChanged =>
    exact ⟨sound.tidy, sound.records, sound.single, sound.served, sound.distinct, sound.below⟩
  | entered found stands | unknown found stands | unconfirmed found stands =>
    exact sound.place found (by simp [Poller.isLive, stands]) nofun
  | elapsed found stands | asked found stands | known found stands =>
    exact sound.place found (by simp [Poller.isLive, stands]) nofun
  | roused found stands =>
    exact sound.live_changed found (by simp [Poller.isLive, stands]) rfl rfl
  | retired found stands unwatched => exact sound.retire found unwatched
  | left found stands => exact sound.leave found stands
  | failed found stands =>
    refine sound.place found ?_ nofun
    rcases stands with stands | ⟨_, stands⟩ <;> simp [Poller.isLive, stands]
  | @confirmed poller _ _ _ _ found stands =>
    have trimmed := trimmed_complete monitor poller.bundle
    obtain ⟨heard, there⟩ := trimmed.poller? poller.id
    rw [found] at there
    exact (trimmed.sound sound).place there (by simp [Poller.isLive, stands]) nofun

end Monitor

end Inclusion
