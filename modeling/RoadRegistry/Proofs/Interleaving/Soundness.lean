import RoadRegistry.Proofs.Interleaving.Calls

namespace RoadRegistry

namespace Writing

def Stage.Fits (items : List Cluster.Item) (written : List Record) : Stage → Prop
  | .arriving | .admitted => items = [] ∧ written = []
  | .appending rest positions =>
    items = written.map .ofRecord ++ rest ∧ positions = written.map Record.position
  | .waiting positions =>
    items = written.map .ofRecord ∧ positions = written.map Record.position
  | .answered _ => written.map .ofRecord <+: items

/-- What holds between any two steps, with the records that the store had taken before the call. -/
structure Sound (f : Following V O E) (start : Log) (past : List Record) (s : Writing V O E) :
    Prop where
  genuine : s.rehearsal.acknowledgements = []
  tidy : s.log.Tidy
  logged : s.log = start.after s.events
  tails : s.tailer.replica.Tails f.codec s.log s.tailer.reader (past ++ s.tailer.consumed)
    s.tailer.pending
  applied : s.applied.Sublist s.tailer.consumed
  unread : ∀ record ∈ s.written, record ∉ past
  kept : ∀ record ∈ s.written, record ∈ s.log.held ∨ start.Dropped record s.events
  behind : ∀ record ∈ s.written, ∃ index : Nat, record.partition = index ∧
    record.offset < (s.log.part index).nextOffset
  ordered : s.written.Pairwise fun a b => a.partition = b.partition → a.offset < b.offset
  fits : s.stage.Fits s.items s.written
  fatal : ∀ error, .error error ∈ s.items → error.isFatal = true

variable {f : Following V O E} {records : Replica V O → List Cluster.Item} {start : Log}
variable {past : List Record} {s : Writing V O E}

namespace Sound

theorem begin {c : Cluster V O E} {node : Node V O} (atRest : Cluster.AtRest f c)
    (found : c.node? name = some node) : ∃ past, Sound f c.log past (begin c node) := by
  obtain ⟨past, tails⟩ := atRest.tailed node (Cluster.mem_of_node? found)
  refine ⟨past, atRest.genuine, atRest.tidy, rfl, ?_, .slnil, nofun, nofun, nofun, .nil, ⟨rfl, rfl⟩,
    nofun⟩
  exact (List.append_nil past).symm ▸ tails

theorem act (sound : Sound f start past s) {rehearsal : Rehearsal} {deed : Deed} {stage : Stage}
    (genuine : rehearsal.acknowledgements = [])
    (changed : rehearsal.log = (deed.event.run s.log).2)
    (new : ∀ record ∈ deed.own?.toList, record ∉ past ∧ record ∈ rehearsal.log.held ∧
      ∀ earlier ∈ s.written, earlier.partition = record.partition →
        earlier.offset < record.offset)
    (fits : stage.Fits s.items (s.written ++ deed.own?.toList)) :
    Sound f start past { s.act rehearsal deed with stage } := by
  have written : Writing.written { s.act rehearsal deed with stage } =
      s.written ++ deed.own?.toList := written_act s rehearsal deed
  have events : Writing.events { s.act rehearsal deed with stage } = s.events ++ [deed.event] :=
    events_act s rehearsal deed
  have logged : rehearsal.log = start.after (s.events ++ [deed.event]) := by
    rw [changed, Log.after_concat, ← sound.logged]
  have tidy : rehearsal.log.Tidy := by
    rw [changed]
    exact sound.tidy.run deed.event
  have later : s.log.Before rehearsal.log := by
    rw [changed]
    exact .run s.log deed.event
  constructor
  · exact genuine
  · exact tidy
  · rw [events]
    exact logged
  · exact sound.tails.later later
  · exact sound.applied
  · rw [written]
    exact List.forall_mem_append.mpr ⟨sound.unread, fun record own => (new record own).1⟩
  · rw [written, events]
    refine List.forall_mem_append.mpr ⟨fun record mine => ?_, fun record own => ?_⟩
    · have kept := sound.kept record mine
      rw [sound.logged] at kept
      have still := Log.held_or_dropped_concat kept deed.event
      rw [← logged] at still
      exact still
    · exact .inl (new record own).2.1
  · rw [written]
    refine List.forall_mem_append.mpr ⟨fun record mine => ?_, fun record own => ?_⟩
    · obtain ⟨index, placed, below⟩ := sound.behind record mine
      exact ⟨index, placed, Int.lt_of_lt_of_le below (Int.ofNat_le.mpr (later.next index))⟩
    · obtain ⟨index, held⟩ := Log.mem_held.mp (new record own).2.1
      exact ⟨index, tidy.placed index record held, ((tidy.tidy index).range record held).2⟩
  · rw [written]
    refine List.pairwise_append.mpr ⟨sound.ordered, ?_, fun earlier mine record own => ?_⟩
    · cases deed with
      | own record => exact List.pairwise_singleton _ _
      | other event => exact .nil
    · exact (new record own).2.2 earlier mine
  · rw [written]
    exact fits
  · exact sound.fatal

theorem log_event (sound : Sound f start past s) (event : Log.Event) :
    Sound f start past (s.step f records (.log event)) := by
  refine sound.act sound.genuine rfl (List.forall_mem_nil _) ?_
  exact (List.append_nil s.written).symm ▸ sound.fits

theorem append (sound : Sound f start past s) {key : Bytes} {value : Option Bytes}
    {rest : List Cluster.Item} {positions : List Position} {position : Position}
    {rehearsal : Rehearsal} (stage : s.stage = .appending (.ok (key, value) :: rest) positions)
    (appended : s.rehearsal.append key value = .ok (position, rehearsal)) :
    Sound f start past { s.act rehearsal (.own (s.log.nextRecord key value)) with
      stage := .appending rest (positions ++ [position]) } := by
  rcases Rehearsal.append_cases sound.genuine key value with ⟨available, accepted⟩ |
    ⟨error, refused, _⟩
  · rw [accepted] at appended
    cases appended
    have fits := sound.fits
    rw [stage] at fits
    obtain ⟨listed, positions_eq⟩ := fits
    refine sound.act sound.genuine ?_ (List.forall_mem_singleton.mpr ⟨fun known => ?_,
      Log.nextRecord_mem_held s.rehearsal.log key value, fun earlier mine same => ?_⟩) ⟨?_, ?_⟩
    · change _ = ((Log.Event.append key value).run s.rehearsal.log).2
      simp only [Log.Event.run, Log.append_of_available available]
    · -- Offsets only grow, so no reader was given the next one.
      apply sound.tails.served.nextRecord_not_mem key value
      exact List.mem_append_left _ (List.mem_append_left _ known)
    · obtain ⟨index, placed, below⟩ := sound.behind earlier mine
      obtain rfl : s.log.route key = index := Int.ofNat.inj (same.symm.trans placed)
      exact below
    · rw [listed, List.map_append, List.append_assoc]
      rfl
    · rw [positions_eq, List.map_append]
      rfl
  · rw [refused] at appended
    cases appended

theorem withTailer (sound : Sound f start past s) {tailer : Tailer V O} {shared : E}
    {applied : List Record}
    (tails : tailer.replica.Tails f.codec s.log tailer.reader (past ++ tailer.consumed)
      tailer.pending)
    (sublist : applied.Sublist tailer.consumed) :
    Sound f start past { s with tailer, shared, applied } :=
  { sound with tails, applied := sublist }

theorem withStage (sound : Sound f start past s) {stage : Stage} {items : List Cluster.Item}
    (fits : stage.Fits items s.written)
    (fatal : ∀ error, .error error ∈ items → error.isFatal = true) :
    Sound f start past { s with stage, items } :=
  { sound with fits, fatal }

theorem setReplica (sound : Sound f start past s) {replica : Replica V O}
    (tails : replica.Tails f.codec s.log s.tailer.reader (past ++ s.tailer.consumed)
      s.tailer.pending) : Sound f start past (s.setReplica replica) :=
  sound.withTailer tails sound.applied

theorem poll (sound : Sound f start past s) :
    Sound f start past { s with tailer := s.tailer.poll s.log } := by
  unfold Tailer.poll
  by_cases busy : (s.tailer.replica.progress.stopped || s.tailer.batch.isSome) = true
  · rw [if_pos busy]
    exact sound
  · rw [if_neg busy]
    obtain ⟨running, free⟩ : s.tailer.replica.progress.stopped = false ∧ s.tailer.batch = none := by
      simpa using busy
    have tails := sound.tails
    rw [show s.tailer.pending = [] by rw [Tailer.pending, free]] at tails
    cases available : s.log.unavailable with
    | some message =>
      rw [Reader.poll_of_unavailable available]
      exact sound.withTailer (sound.tails.finish rfl) sound.applied
    | none =>
      rw [Reader.poll_of_available available]
      exact sound.withTailer (tails.poll sound.tidy) sound.applied

theorem consume (sound : Sound f start past s) :
    Sound f start past (s.step f records .consume) := by
  unfold step Tailer.consume Tailer.applies
  have tails := sound.tails
  match batch : s.tailer.batch with
  | none =>
    simp only [List.append_nil]
    exact sound
  | some ([], idle) =>
    simp only [List.append_nil]
    rw [Tailer.pending, batch] at tails
    exact sound.withTailer (tails.endOfBatch idle) sound.applied
  | some (record :: rest, idle) =>
    simp only
    rw [Tailer.pending, batch] at tails
    refine sound.withTailer ?_ (sound.applied.append ?_)
    · rw [← List.append_assoc]
      exact tails.consume s.shared
    · split
      · exact List.Sublist.refl _
      · exact List.nil_sublist _

theorem leave (sound : Sound f start past s) : Sound f start past (s.step f records .leave) := by
  rw [step, Tailer.leave]
  split
  · exact sound.setReplica sound.tails.leave
  · exact sound

theorem turn (sound : Sound f start past s)
    (fatal : ∀ error, .error error ∈ records s.tailer.replica → error.isFatal = true)
    (late : Option Position) : Sound f start past (s.turn records late) := by
  have fits := sound.fits
  unfold Writing.turn
  split
  · next stage =>
    rw [stage] at fits
    split
    · exact sound.withStage (by rw [fits.2]; exact List.nil_prefix) sound.fatal
    · exact sound.withStage fits sound.fatal
  · next stage =>
    rw [stage] at fits
    refine sound.withStage ⟨?_, ?_⟩ fatal
    · rw [fits.2]
      rfl
    · rw [fits.2]
      rfl
  · next positions stage =>
    rw [stage] at fits
    exact sound.withStage ⟨fits.1.trans (List.append_nil _), fits.2⟩ sound.fatal
  · next error rest positions stage =>
    rw [stage] at fits
    exact sound.withStage (fits.1 ▸ List.prefix_append _ _) sound.fatal
  · next key value rest positions stage =>
    split
    · next error refused =>
      rw [stage] at fits
      exact sound.withStage (fits.1 ▸ List.prefix_append _ _) sound.fatal
    · next position rehearsal appended => exact sound.append stage appended
  · next positions stage =>
    rw [stage] at fits
    have all : s.written.map Cluster.Item.ofRecord <+: s.items := fits.1 ▸ List.prefix_rfl
    split
    · exact sound.withStage all sound.fatal
    · exact sound.withStage all sound.fatal
    · split
      · exact sound.withStage all sound.fatal
      · exact sound
  · exact sound

theorem step (sound : Sound f start past s)
    (fatal : ∀ error, .error error ∈ records s.tailer.replica → error.isFatal = true)
    (move : Move E) : Sound f start past (s.step f records move) := by
  cases move with
  | turn late => exact sound.turn fatal late
  | poll => exact sound.poll
  | consume => exact sound.consume
  | close => exact sound.setReplica (sound.tails.congr rfl rfl rfl rfl)
  | leave => exact sound.leave
  | log event => exact sound.log_event event
  | accept accepted => exact { sound with }
  | surroundings change => exact { sound with }

theorem run (sound : Sound f start past s)
    (fatal : ∀ replica error, .error error ∈ records replica → error.isFatal = true)
    (moves : List (Move E)) : Sound f start past (s.run f records moves) := by
  induction moves generalizing s with
  | nil => exact sound
  | cons move rest ih => exact ih (sound.step (fatal _) move)

end Sound

end Writing

end RoadRegistry
