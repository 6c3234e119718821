import RoadRegistry.Proofs.Log.Readers
import RoadRegistry.Proofs.Replica.CatchUp

namespace RoadRegistry

def Progress.Grave (progress : Progress) : Prop :=
  ∀ error, progress.failure = some error → error.isFatal = true

namespace Progress.Grave

variable {progress : Progress}

theorem of_unfailed (unfailed : progress.failure = none) : progress.Grave := by
  intro error failed
  rw [unfailed] at failed
  cases failed

theorem finish (grave : progress.Grave) {error : StoreError} (fatal : error.isFatal = true) :
    (progress.finish (some error)).Grave := by
  intro other failed
  cases earlier : progress.failure with
  | some first =>
    rw [Progress.finish, earlier] at failed
    cases failed
    exact grave other earlier
  | none =>
    rw [Progress.finish, earlier] at failed
    cases failed
    exact fatal

end Progress.Grave

theorem Reader.batch_next {log : Log} (tidy : log.Tidy) (reader : Reader) :
    (reader.next log).batch log = [] := by
  refine List.eq_nil_iff_forall_not_mem.mpr fun record given => ?_
  obtain ⟨index, held, above⟩ := mem_batch.mp given
  have below : record.offset < (reader.next log).position index :=
    lt_position_next (tidy.tidy index).sorted held
  omega

namespace Replica

variable {f : Following V O E} {r : Replica V O} {shared : E} {record : Record}

theorem grave_consume (grave : r.progress.Grave) (shared : E) (record : Record) :
    (consume f (r, shared) record).1.progress.Grave := by
  cases ended : r.progress.stopped with
  | true =>
    rw [consume_of_stopped ended]
    exact grave
  | false =>
    cases said : Decoded.ofRecord f.codec record with
    | legacy =>
      rw [consume_of_legacy ended said]
      exact grave
    | broken key error =>
      rw [consume_of_broken ended said]
      exact grave.finish rfl
    | entry key value =>
      rw [consume_of_entry ended said]
      rcases tell_progress f record key (Change.between (r.get? key) value)
        (r.apply (f.now shared) key value) shared with moved | ⟨panicked, _⟩
      · rw [moved]
        exact grave
      · rw [panicked]
        exact grave.finish rfl

/-- A replica that has taken these records of what its reader was given, with these still in
hand. -/
structure Tails (codec : Codec V) (log : Log) (reader : Reader) (r : Replica V O)
    (taken pending : List Record) : Prop where
  served : reader.Served log (taken ++ pending)
  mirrors : r.progress.stopped = false → r.Mirrors codec taken
  grave : r.progress.Grave

namespace Tails

variable {codec : Codec V} {log : Log} {reader : Reader} {taken pending : List Record}

theorem later (tails : Tails codec log reader r taken pending) {later : Log}
    (before : log.Before later) : Tails codec later reader r taken pending :=
  { tails with served := tails.served.later before }

theorem congr (tails : Tails codec log reader r taken pending) {s : Replica V O}
    (entries : s.entries = r.entries) (consumed : s.progress.consumed = r.progress.consumed)
    (failure : s.progress.failure = r.progress.failure)
    (stopped : s.progress.stopped = r.progress.stopped) :
    Tails codec log reader s taken pending where
  served := tails.served
  mirrors running := (tails.mirrors (stopped.symm.trans running)).congr entries consumed
  grave error failed := tails.grave error (failure.symm.trans failed)

theorem begin (tidy : log.Tidy) (codec : Codec V) (topic : String) (observers : List O)
    (ends earliest : Dictionary Int Int) :
    Tails codec log ⟨log.partitions.map fun _ => 0⟩
      (({ topic, observers } : Replica V O).begin ends earliest) [] [] := by
  obtain ⟨target, caughtUp, begun⟩ :=
    ({ topic, observers } : Replica V O).begin_eq ends earliest
  rw [begun]
  exact ⟨.opened tidy, fun _ => (Mirrors.initial codec topic observers).congr rfl rfl,
    .of_unfailed rfl⟩

theorem unopened (tidy : log.Tidy) (codec : Codec V) (topic : String) (observers : List O)
    {error : StoreError} (fatal : error.isFatal = true) :
    Tails codec log ⟨[]⟩ (({ topic, observers } : Replica V O).finish (some error)) [] [] where
  served := {
    passed := nofun
    complete := fun index record held below => by
      have above := ((tidy.tidy index).range record held).1
      have start : Reader.position ⟨[]⟩ index = 0 := rfl
      omega
    ordered := .nil
    behind := fun _ => Int.natCast_nonneg _ }
  mirrors := nofun
  grave := (Progress.Grave.of_unfailed rfl).finish fatal

theorem finish (tails : Tails codec log reader r taken pending) {error : StoreError}
    (fatal : error.isFatal = true) :
    Tails codec log reader (r.finish (some error)) taken pending where
  served := tails.served
  mirrors := nofun
  grave := tails.grave.finish fatal

theorem leave (tails : Tails codec log reader r taken pending) :
    Tails codec log reader (r.finish none) taken pending where
  served := tails.served
  mirrors := nofun
  grave error failed := tails.grave error (by
    rw [Replica.finish, Progress.finish, Option.or_none] at failed
    exact failed)

theorem poll (tidy : log.Tidy) (tails : Tails codec log reader r taken []) :
    Tails codec log (reader.next log) r taken (reader.batch log) where
  served := by
    have given := tails.served
    rw [List.append_nil] at given
    exact given.poll tidy
  mirrors := tails.mirrors
  grave := tails.grave

theorem consume (tails : Tails f.codec log reader r taken (record :: pending)) (shared : E) :
    Tails f.codec log reader (Replica.consume f (r, shared) record).1 (taken ++ [record])
      pending where
  served := by
    rw [List.append_assoc]
    exact tails.served
  mirrors goes_on := by
    have ordered := tails.served.ordered
    rw [List.append_cons] at ordered
    exact (tails.mirrors (running_of_consume goes_on)).consume
      (ordered.sublist (List.sublist_append_left _ _)) goes_on
  grave := grave_consume tails.grave shared record

theorem consume_all {batch : List Record}
    (tails : Tails f.codec log reader r taken (batch ++ pending)) (shared : E) :
    Tails f.codec log reader (batch.foldl (Replica.consume f) (r, shared)).1 (taken ++ batch)
      pending := by
  induction batch generalizing r shared taken with
  | nil =>
    rw [List.append_nil]
    exact tails
  | cons record rest ih =>
    rw [List.append_cons]
    exact ih (tails.consume shared) _

theorem endOfBatch (tails : Tails codec log reader r taken pending) (idle : Bool) :
    Tails codec log reader (r.endOfBatch idle) taken pending := by
  obtain ⟨caughtUp, same⟩ := r.endOfBatch_eq idle
  rw [same]
  exact tails.congr rfl rfl rfl rfl

theorem close {s : Replica V O} (tails : Tails codec log reader r taken pending)
    (shut : r.close = .ok s) : Tails codec log reader s taken pending := by
  unfold Replica.close at shut
  split at shut
  · cases shut
  · cases shut
    split
    · exact tails.congr rfl rfl rfl rfl
    · exact tails.leave.congr rfl rfl rfl rfl

theorem receive (tidy : log.Tidy) (tails : Tails f.codec log reader r taken []) (shared : E) :
    ∃ taken, Tails f.codec log (Replica.poll f log reader (r, shared)).1
      (Replica.poll f log reader (r, shared)).2.1 taken [] := by
  unfold Replica.poll
  cases available : log.unavailable with
  | some message =>
    rw [Reader.poll_of_unavailable available]
    refine ⟨taken, ?_⟩
    unfold Replica.receive
    dsimp only
    split
    · exact tails
    · exact tails.finish rfl
  | none =>
    rw [Reader.poll_of_available available]
    have given := tails.poll tidy
    refine ⟨taken ++ reader.batch log, ?_⟩
    unfold Replica.receive
    dsimp only
    split
    · next ended =>
      refine ⟨?_, fun running => absurd (ended.symm.trans running) nofun, tails.grave⟩
      rw [List.append_nil]
      exact given.served
    · rw [← List.append_nil (reader.batch log)] at given
      exact (given.consume_all shared).endOfBatch _

end Tails

end Replica

end RoadRegistry
