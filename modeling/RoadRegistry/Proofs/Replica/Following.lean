import RoadRegistry.Cluster.Basic
import RoadRegistry.Proofs.Log.Delivery
import RoadRegistry.Proofs.Replica.Consumption

namespace RoadRegistry

theorem Progress.evaluate_eq (progress : Progress) :
    ∃ caughtUp, progress.evaluate = { progress with caughtUp } := by
  unfold evaluate
  split
  · exact ⟨_, rfl⟩
  · exact ⟨progress.caughtUp, rfl⟩

theorem Progress.idle_eq (progress : Progress) :
    ∃ caughtUp, progress.idle = { progress with caughtUp } := by
  unfold idle
  split
  · exact ⟨_, rfl⟩
  · exact ⟨progress.caughtUp, rfl⟩

theorem Cluster.openLog_of_available {log : Log} (available : log.unavailable = none) :
    openLog log {} = .ok (⟨log.partitions.map fun _ => 0⟩, log.offsets fun p => p.nextOffset,
      log.offsets Partition.earliest) := by
  unfold openLog Log.endOffsets Log.earliestOffsets Log.checkAvailable
  rw [Reader.openReader_of_available available, available]
  rfl

def Following.plain : Following Bytes Unit Unit where
  codec := .plain
  now _ := 0
  notify _ _ _ observer shared := ⟨observer, shared, false⟩

namespace Replica

variable {f : Following V O E} {codec : Codec V} {r : Replica V O} {shared : E} {log : Log}
variable {appended consumed pending : List Record} {reader : Reader}

theorem endOfBatch_eq (r : Replica V O) (idle : Bool) :
    ∃ caughtUp, r.endOfBatch idle = { r with progress := { r.progress with caughtUp } } := by
  unfold endOfBatch
  cases ended : r.progress.stopped with
  | true => exact ⟨r.progress.caughtUp, rfl⟩
  | false =>
    obtain ⟨evaluated, first⟩ := r.progress.evaluate_eq
    obtain ⟨passed, second⟩ := r.progress.evaluate.idle_eq
    cases idle with
    | false => exact ⟨evaluated, by simp only [first, Bool.false_eq_true, ite_false]⟩
    | true =>
      refine ⟨passed, ?_⟩
      simp only [second, Bool.false_eq_true, ite_false, ite_true]
      rw [first]

theorem begin_eq (r : Replica V O) (ends earliest : Dictionary Int Int) :
    ∃ target caughtUp,
      r.begin ends earliest = { r with progress := { r.progress with target, caughtUp } } := by
  obtain ⟨caughtUp, evaluated⟩ :=
    { r.progress with target := some (Progress.catchUpTarget ends earliest) : Progress }.evaluate_eq
  exact ⟨some (Progress.catchUpTarget ends earliest), caughtUp, by
    rw [begin, Progress.setTarget, evaluated]⟩

/-- A replica that has moved past these records of what its reader was given, with these still in
hand. -/
structure Follows (codec : Codec V) (log : Log) (appended : List Record) (reader : Reader)
    (r : Replica V O) (consumed pending : List Record) : Prop where
  delivered : reader.Delivered log appended (consumed ++ pending)
  mirrors : r.Mirrors codec consumed

namespace Follows

theorem opened (chronicle : log.Chronicle appended) (codec : Codec V) (topic : String)
    (observers : List O) (ends earliest : Dictionary Int Int) :
    Follows codec log appended ⟨log.partitions.map fun _ => 0⟩
      (({ topic, observers } : Replica V O).begin ends earliest) [] [] where
  delivered := .opened chronicle
  mirrors := by
    obtain ⟨target, caughtUp, begun⟩ :=
      ({ topic, observers } : Replica V O).begin_eq ends earliest
    rw [begun]
    exact (Mirrors.initial codec topic observers).congr rfl rfl

theorem push (follows : Follows codec log appended reader r consumed pending) (key : Bytes)
    (value : Option Bytes) :
    Follows codec (log.push (log.nextRecord key value) (log.route key))
      (appended ++ [log.nextRecord key value]) reader r consumed pending :=
  ⟨follows.delivered.push key value, follows.mirrors⟩

theorem compact (follows : Follows codec log appended reader r consumed pending) :
    Follows codec log.compact.2 appended reader r consumed pending :=
  ⟨follows.delivered.compact, follows.mirrors⟩

theorem poll (chronicle : log.Chronicle appended) (keeps : log.KeepsLatest appended)
    (follows : Follows codec log appended reader r consumed []) :
    Follows codec log appended (reader.next log) r consumed (reader.batch log) := by
  have given := follows.delivered
  rw [List.append_nil] at given
  exact ⟨given.poll chronicle keeps, follows.mirrors⟩

theorem consume {record : Record}
    (follows : Follows f.codec log appended reader r consumed (record :: pending))
    (goes_on : (Replica.consume f (r, shared) record).1.progress.stopped = false) :
    Follows f.codec log appended reader (Replica.consume f (r, shared) record).1
      (consumed ++ [record]) pending := by
  have given := follows.delivered
  rw [List.append_cons] at given
  have ordered := given.ordered.sublist (List.sublist_append_left _ _)
  exact ⟨given, follows.mirrors.consume ordered goes_on⟩

theorem consume_all (shared : E) (quiet : f.notify.Quiet) {batch : List Record}
    (legible : Legible f.codec batch)
    (follows : Follows f.codec log appended reader r consumed (batch ++ pending))
    (running : r.progress.stopped = false) :
    Follows f.codec log appended reader (batch.foldl (Replica.consume f) (r, shared)).1
        (consumed ++ batch) pending ∧
      (batch.foldl (Replica.consume f) (r, shared)).1.progress.stopped = false ∧
      (batch.foldl (Replica.consume f) (r, shared)).1.progress.failure = r.progress.failure ∧
      (batch.foldl (Replica.consume f) (r, shared)).1.closed = r.closed := by
  induction batch generalizing r shared consumed with
  | nil =>
    rw [List.append_nil]
    exact ⟨follows, running, rfl, rfl⟩
  | cons record rest ih =>
    obtain ⟨name, value, entry⟩ := legible record List.mem_cons_self
    have moved := Replica.consume_running shared quiet entry running
    have goes_on : (Replica.consume f (r, shared) record).1.progress.stopped = false :=
      (congrArg Progress.stopped moved).trans running
    have next := ih (Replica.consume f (r, shared) record).2
      (fun other member => legible other (List.mem_cons_of_mem _ member))
      (follows.consume goes_on) goes_on
    rw [List.append_assoc, List.singleton_append, moved, consume_closed] at next
    exact next

theorem endOfBatch (follows : Follows codec log appended reader r consumed pending)
    (idle : Bool) :
    Follows codec log appended reader (r.endOfBatch idle) consumed pending := by
  obtain ⟨caughtUp, same⟩ := r.endOfBatch_eq idle
  rw [same]
  exact ⟨follows.delivered, follows.mirrors.congr rfl rfl⟩

theorem mem_appended (follows : Follows codec log appended reader r consumed pending)
    {record : Record} (member : record ∈ consumed ++ pending) : record ∈ appended :=
  (follows.delivered.passed record member).1

theorem sequenced (chronicle : log.Chronicle appended)
    (follows : Follows codec log appended reader r consumed pending) :
    Sequenced (consumed ++ pending) :=
  chronicle.sequenced (fun _ => follows.mem_appended) follows.delivered.ordered

theorem shows (chronicle : log.Chronicle appended)
    (follows : Follows codec log appended reader r consumed [])
    (read : ∀ record ∈ appended, record.offset < reader.position (log.route record.key))
    (legible : Legible codec appended) (key : String) :
    r.entries.get? key = outcome codec appended key := by
  have whole := chronicle.sequenced_appended
  have part := follows.sequenced chronicle
  have given := follows.delivered
  rw [List.append_nil] at part given
  rw [follows.mirrors.entries]
  exact outcome_eq_of_covered whole part (fun record member => (given.passed record member).1)
    (fun record member => given.covered record member (read record member)) legible key

theorem reached (chronicle : log.Chronicle appended)
    (follows : Follows codec log appended reader r consumed []) {record : Record}
    (member : record ∈ appended) (read : record.offset < reader.position (log.route record.key)) :
    r.progress.reached record.partition record.offset = true := by
  have given := follows.delivered
  rw [List.append_nil] at given
  obtain ⟨later, held, same, bound⟩ := given.covered record member read
  have passed := follows.mirrors.passed later held
  have together : later.partition = record.partition := by
    rw [chronicle.placed later (given.passed later held).1, chronicle.placed record member, same]
  rw [together] at passed
  exact decide_eq_true (by omega)

end Follows

end Replica

end RoadRegistry
