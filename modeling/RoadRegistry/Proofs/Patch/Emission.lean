import RoadRegistry.Patch.Emitter
import RoadRegistry.Proofs.Log.Chronicle
import RoadRegistry.Proofs.Patch.Wire

namespace RoadRegistry

theorem Log.records_push {log : Log} (record : Record) (key : Bytes) (index : Nat) :
    ((log.push record (log.route key)).part index).records =
      (log.part index).records ++ if log.route key = index then [record] else [] := by
  split
  · next here =>
    subst here
    rw [part_push_self (log.route_lt key)]
  · next apart => rw [part_push_of_ne apart, List.append_nil]

def Record.patch? (record : Record) : Option PatchSet :=
  record.value.bind fun payload => (PatchSet.model.ofBytes payload).toOption

theorem Record.patch?_of_value {record : Record} {patch : PatchSet} (fits : patch.Fits)
    (held : record.value = some (PatchSet.model.toBytes patch)) : record.patch? = some patch := by
  rw [patch?, held, Option.bind_some, patch.ofBytes_toBytes fits]
  rfl

namespace PatchSet

def key (patch : PatchSet) : Bytes := Bytes.ofString patch.documentId

theorem key_eq_iff {patch : PatchSet} {id : String} :
    patch.key = Bytes.ofString id ↔ patch.documentId = id :=
  Text.Utf8.ofString_inj

end PatchSet

namespace Emitter

variable {patch : PatchSet} {log : Log}

theorem toLog_of_available (available : log.unavailable = none) :
    toLog patch log = (.ok (), log.push
      (log.nextRecord patch.key (some (PatchSet.model.toBytes patch))) (log.route patch.key)) := by
  unfold toLog record
  simp only [Log.append_of_available available]
  rfl

theorem toLog_of_unavailable {message : String} (lost : log.unavailable = some message)
    (patch : PatchSet) :
    ∃ report, toLog patch log = (.error report, log) := by
  unfold toLog record
  simp only [Log.append_of_unavailable lost]
  exact ⟨_, rfl⟩

end Emitter

structure Outbox where
  log : Log
  emitted : List PatchSet

namespace Outbox

inductive Event where
  | emit (patch : PatchSet)
  | setUnavailable (message : String)
  | setAvailable

def step (outbox : Outbox) : Event → Outbox
  | .emit patch =>
    match Emitter.toLog patch outbox.log with
    | (.ok (), log) => ⟨log, outbox.emitted ++ [patch]⟩
    | (.error _, log) => ⟨log, outbox.emitted⟩
  | .setUnavailable message => { outbox with log := outbox.log.setUnavailable message }
  | .setAvailable => { outbox with log := outbox.log.setAvailable }

def run (outbox : Outbox) (events : List Event) : Outbox := events.foldl step outbox

theorem step_emit_of_available {outbox : Outbox} (available : outbox.log.unavailable = none)
    (patch : PatchSet) :
    outbox.step (.emit patch) =
      ⟨outbox.log.push (outbox.log.nextRecord patch.key (some (PatchSet.model.toBytes patch)))
        (outbox.log.route patch.key), outbox.emitted ++ [patch]⟩ := by
  rw [step, Emitter.toLog_of_available available]

theorem step_emit_of_unavailable {outbox : Outbox} {message : String}
    (lost : outbox.log.unavailable = some message) (patch : PatchSet) :
    outbox.step (.emit patch) = outbox := by
  obtain ⟨report, fails⟩ := Emitter.toLog_of_unavailable lost patch
  rw [step, fails]

/-- What of a record comes from the patch set it was emitted for. -/
def content (record : Record) : Bytes × Option Bytes := (record.key, record.value)

def wire (patch : PatchSet) : Bytes × Option Bytes :=
  (patch.key, some (PatchSet.model.toBytes patch))

/-- Every partition got the patch sets that were emitted for it, one record for each. -/
structure Tracks (start : Log) (outbox : Outbox) : Prop where
  routed : ∀ key, outbox.log.route key = start.route key
  held : ∀ index, ∃ fresh,
    (outbox.log.part index).records = (start.part index).records ++ fresh ∧
    fresh.map content =
      (outbox.emitted.filter fun patch => start.route patch.key = index).map wire

namespace Tracks

variable {start : Log} {outbox : Outbox}

theorem refl (start : Log) : Tracks start ⟨start, []⟩ where
  routed _ := rfl
  held _ := ⟨[], (List.append_nil _).symm, rfl⟩

theorem step (tracks : Tracks start outbox) (event : Event) : Tracks start (outbox.step event) := by
  cases event with
  | setUnavailable message => exact ⟨tracks.routed, tracks.held⟩
  | setAvailable => exact ⟨tracks.routed, tracks.held⟩
  | emit patch =>
    cases available : outbox.log.unavailable with
    | some message =>
      rw [step_emit_of_unavailable available]
      exact tracks
    | none =>
      rw [step_emit_of_available available]
      refine ⟨fun key => (Log.route_push ..).trans (tracks.routed key), fun index => ?_⟩
      obtain ⟨fresh, held, contents⟩ := tracks.held index
      rw [Log.records_push, held, tracks.routed, List.filter_append, List.map_append, ← contents]
      by_cases here : start.route patch.key = index
      · refine ⟨_, List.append_assoc .., ?_⟩
        rw [if_pos here, List.map_append, List.filter_cons_of_pos (by simpa using here)]
        rfl
      · refine ⟨_, List.append_assoc .., ?_⟩
        rw [if_neg here, List.append_nil, List.filter_cons_of_neg (by simpa using here)]
        exact (List.append_nil _).symm

theorem run (tracks : Tracks start outbox) (events : List Event) :
    Tracks start (outbox.run events) := by
  induction events generalizing outbox with
  | nil => exact tracks
  | cons event rest ih => exact ih (tracks.step event)

end Tracks

theorem mem_emitted_step {outbox : Outbox} {event : Event} {patch : PatchSet}
    (member : patch ∈ (outbox.step event).emitted) :
    patch ∈ outbox.emitted ∨ event = .emit patch := by
  cases event with
  | setUnavailable message => exact .inl member
  | setAvailable => exact .inl member
  | emit other =>
    cases available : outbox.log.unavailable with
    | some message =>
      rw [step_emit_of_unavailable available] at member
      exact .inl member
    | none =>
      rw [step_emit_of_available available] at member
      exact (List.mem_append.mp member).imp_right fun last => by rw [List.mem_singleton.mp last]

theorem mem_emitted_run {outbox : Outbox} {events : List Event} {patch : PatchSet}
    (member : patch ∈ (outbox.run events).emitted) :
    patch ∈ outbox.emitted ∨ .emit patch ∈ events := by
  induction events generalizing outbox with
  | nil => exact .inl member
  | cons event rest ih =>
    rcases ih member with early | late
    · rcases mem_emitted_step early with old | rfl
      · exact .inl old
      · exact .inr List.mem_cons_self
    · exact .inr (List.mem_cons_of_mem _ late)

theorem read_contents {fresh : List Record} {sent : List PatchSet}
    (contents : fresh.map content = sent.map wire) (fits : ∀ patch ∈ sent, patch.Fits)
    (id : String) :
    (fresh.filter fun record => record.key = Bytes.ofString id).map Record.patch? =
      (sent.filter fun patch => patch.documentId = id).map some := by
  induction fresh generalizing sent with
  | nil =>
    rw [List.map_eq_nil_iff.mp contents.symm]
    rfl
  | cons record fresh ih =>
    obtain ⟨patch, sent, rfl, told, later⟩ := List.map_eq_cons_iff.mp contents.symm
    obtain ⟨key, value⟩ := Prod.mk.inj told
    have rest := ih later.symm fun other member => fits other (List.mem_cons_of_mem _ member)
    have read := Record.patch?_of_value (fits patch List.mem_cons_self) value.symm
    simp only [List.filter_cons, ← key, PatchSet.key_eq_iff]
    split
    · rw [List.map_cons, List.map_cons, read, rest]
    · exact rest

theorem emitted_record {patch : PatchSet} {log : Log} (fits : patch.Fits)
    (available : log.unavailable = none) :
    ∃ record after, Emitter.toLog patch log = (.ok (), after) ∧
      record.key = Bytes.ofString patch.documentId ∧ record.patch? = some patch ∧
      ∀ index, (after.part index).records =
        (log.part index).records ++ if log.route record.key = index then [record] else [] := by
  let record := log.nextRecord patch.key (some (PatchSet.model.toBytes patch))
  have read : record.patch? = some patch := Record.patch?_of_value fits rfl
  exact ⟨record, _, Emitter.toLog_of_available available, rfl, read, Log.records_push record _⟩

theorem log_of_failed {patch : PatchSet} {log after : Log} {report : Report}
    (failed : Emitter.toLog patch log = (.error report, after)) : after = log := by
  cases available : log.unavailable with
  | none =>
    rw [Emitter.toLog_of_available available] at failed
    cases (Prod.mk.inj failed).1
  | some message =>
    obtain ⟨_, fails⟩ := Emitter.toLog_of_unavailable available patch
    rw [fails] at failed
    exact (Prod.mk.inj failed).2.symm

theorem filter_routed (start : Log) (index : Nat) (emitted : List PatchSet) (id : String) :
    (emitted.filter fun patch => start.route patch.key = index).filter
        (fun patch => patch.documentId = id) =
      if start.route (Bytes.ofString id) = index then
        emitted.filter fun patch => patch.documentId = id
      else [] := by
  have key_of {patch : PatchSet} (named : patch.documentId = id) :
      patch.key = Bytes.ofString id := PatchSet.key_eq_iff.mpr named
  rw [List.filter_filter]
  split
  · next here =>
    refine List.filter_congr fun patch _ => ?_
    by_cases named : patch.documentId = id
    · simp [named, key_of named, here]
    · simp [named]
  · next apart =>
    refine List.filter_eq_nil_iff.mpr fun patch _ => ?_
    by_cases named : patch.documentId = id
    · simp [named, key_of named, apart]
    · simp [named]

/-- A patch set is emitted as one record, keyed by its document, that reads back as the patch set;
an emission that fails leaves the log as it was; and over any run of emissions, the new records of a
document stand in one partition and read back as its patch sets, in the order of their emission. -/
theorem patch_sets_survive_wire (start : Log) (events : List Event)
    (fits : ∀ patch, .emit patch ∈ events → patch.Fits) :
    (∀ patch log, patch.Fits → log.unavailable = none →
      ∃ record after, Emitter.toLog patch log = (.ok (), after) ∧
        record.key = Bytes.ofString patch.documentId ∧ record.patch? = some patch ∧
        ∀ index, (after.part index).records =
          (log.part index).records ++ if log.route record.key = index then [record] else []) ∧
    (∀ patch log report after, Emitter.toLog patch log = (.error report, after) → after = log) ∧
    let outbox := run ⟨start, []⟩ events
    ∀ index, ∃ fresh, (outbox.log.part index).records = (start.part index).records ++ fresh ∧
      ∀ id, (fresh.filter fun record => record.key = Bytes.ofString id).map Record.patch? =
        if start.route (Bytes.ofString id) = index then
          (outbox.emitted.filter fun patch => patch.documentId = id).map some
        else [] := by
  refine ⟨fun _ _ => emitted_record, fun _ _ _ _ => log_of_failed, fun index => ?_⟩
  obtain ⟨fresh, held, contents⟩ := ((Tracks.refl start).run events).held index
  refine ⟨fresh, held, fun id => ?_⟩
  have sent : ∀ patch ∈ (run ⟨start, []⟩ events).emitted.filter
      (fun patch => start.route patch.key = index), patch.Fits := by
    intro patch member
    rcases mem_emitted_run (List.mem_filter.mp member).1 with old | now
    · cases old
    · exact fits patch now
  rw [read_contents contents sent id, filter_routed]
  split <;> rfl

/-- Emissions for two documents of one partition, one of them while the log is unavailable. -/
def interrupted : List Event :=
  [.emit ⟨"r1", [.add "/a" .null]⟩, .setUnavailable "broker down", .emit ⟨"r1", [.remove "/b"]⟩,
    .setAvailable, .emit ⟨"r3", []⟩, .emit ⟨"r1", [.replace "/a" (.array [.null]), .remove "/c"]⟩]

theorem interrupted_patch_sets_survive :
    let log := Log.create "patches" 2
    let records := ((run ⟨log, []⟩ interrupted).log.part 1).records
    log.route (Bytes.ofString "r1") = 1 ∧ log.route (Bytes.ofString "r3") = 1 ∧
      (records.filter fun record => record.key = Bytes.ofString "r1").map Record.patch? =
        [some ⟨"r1", [.add "/a" .null]⟩,
          some ⟨"r1", [.replace "/a" (.array [.null]), .remove "/c"]⟩] ∧
      (records.filter fun record => record.key = Bytes.ofString "r3").map Record.patch? =
        [some ⟨"r3", []⟩] := by
  intro log records
  have fits : ∀ patch, .emit patch ∈ interrupted → patch.Fits := by
    intro patch member
    simp only [interrupted, List.mem_cons, List.not_mem_nil, Event.emit.injEq, reduceCtorEq,
      false_or, or_false] at member
    rcases member with rfl | rfl | rfl | rfl <;> decide
  have first : log.route (Bytes.ofString "r1") = 1 := by decide +kernel
  have third : log.route (Bytes.ofString "r3") = 1 := by decide +kernel
  obtain ⟨fresh, held, back⟩ := (patch_sets_survive_wire log interrupted fits).2.2 1
  have all : records = fresh := held
  rw [all]
  refine ⟨first, third, (back "r1").trans ?_, (back "r3").trans ?_⟩
  · rw [if_pos first]
    rfl
  · rw [if_pos third]
    rfl

end Outbox

end RoadRegistry
