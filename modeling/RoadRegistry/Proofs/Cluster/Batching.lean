import RoadRegistry.Proofs.Cluster.Coherence
import RoadRegistry.Proofs.Cluster.Writing
import RoadRegistry.Proofs.Replica.Absorbing

namespace RoadRegistry

def Codec.ReadsBack (codec : Codec V) (value : V) : Prop :=
  ∀ bytes, codec.encode value = .ok bytes → codec.decode bytes = .ok (some value)

def SyncOutcome.answer : SyncOutcome → Except StoreError Unit
  | .done => .ok ()
  | .failed error => .error error
  | .pending position => .error (.syncTimeout position.partition position.offset)

theorem Progress.sync_of_failed {progress : Progress} {error : StoreError}
    (failed : progress.failure = some error) (positions : List Position) :
    progress.sync positions = .failed error := by
  simp only [sync, failed]

namespace Cluster

def each (step : A → Cluster V O E → Except StoreError B × Cluster V O E) :
    List A → Cluster V O E → Except StoreError Unit × Cluster V O E
  | [], c => (.ok (), c)
  | a :: rest, c =>
    match step a c with
    | (.error error, c) => (.error error, c)
    | (.ok _, c) => each step rest c

inductive Bulk (V : Type) where
  | put (entries : List (String × V))
  | clear (order : List String)

namespace Bulk

def items (codec : Codec V) : Bulk V → List Item
  | .put entries => entries.map fun (key, value) => Replica.encodeEntry codec key value
  | .clear order => order.map fun key => .ok (Replica.encodeTombstone key)

def together (f : Following V O E) (name : String) (bulk : Bulk V) (c : Cluster V O E) :
    Except StoreError Unit × Cluster V O E :=
  match bulk with
  | .put entries => c.putAll f name entries
  | .clear order => c.write f name fun _ => order.map fun key => .ok (Replica.encodeTombstone key)

def singly (f : Following V O E) (name : String) (bulk : Bulk V) (c : Cluster V O E) :
    Except StoreError Unit × Cluster V O E :=
  match bulk with
  | .put entries => each (fun (key, value) c => c.put f name key value) entries c
  | .clear order => each (fun key c => c.remove f name key) order c

/-- The values of the entries can be read back; the keys are those that the store shows. -/
def Fits (codec : Codec V) (r : Replica V O) : Bulk V → Prop
  | .put entries => ∀ entry ∈ entries, codec.ReadsBack entry.2
  | .clear order => order.Perm r.keys

end Bulk

structure Healthy (node : Node V O) : Prop where
  unheld : node.held = false
  unclosed : node.replica.closed = false
  unfailed : node.replica.progress.failure = none
  running : node.replica.progress.stopped = false

/-- Two ways of writing on a store came to the same: the answer, the records on the log, and what
the store shows, which has nothing left to read. -/
structure Alike (name : String) (one other : Except StoreError Unit × Cluster V O E) : Prop where
  answer : one.1 = other.1
  rehearsal : one.2.rehearsal = other.2.rehearsal
  stores : ∃ first second, one.2.node? name = some first ∧ other.2.node? name = some second ∧
    Healthy first ∧ Healthy second ∧ first.reader.batch one.2.log = [] ∧
    second.reader.batch other.2.log = [] ∧ first.replica.entries = second.replica.entries

def Panicked (c : Cluster V O E) (name : String) : Prop :=
  ∃ node, c.node? name = some node ∧ node.replica.progress.failure = some .panicked

variable {f : Following V O E} {name : String} {items : List Item}

def writeEach (f : Following V O E) (name : String) :
    List Item → Cluster V O E → Except StoreError Unit × Cluster V O E :=
  each fun item c => c.write f name fun _ => [item]

theorem writeEach_of_error {c after : Cluster V O E} {item : Item} {error : StoreError}
    (failed : c.write f name (fun _ => [item]) = (.error error, after)) (rest : List Item) :
    writeEach f name (item :: rest) c = (.error error, after) := by
  simp only [writeEach, each, failed]

theorem writeEach_of_ok {c after : Cluster V O E} {item : Item}
    (done : c.write f name (fun _ => [item]) = (.ok (), after)) (rest : List Item) :
    writeEach f name (item :: rest) c = writeEach f name rest after := by
  simp only [writeEach, each, done]

theorem each_eq_writeEach {step : A → Cluster V O E → Except StoreError B × Cluster V O E}
    {item : A → Item} (same : ∀ a c, (step a c).2 = (c.write f name fun _ => [item a]).2 ∧
      (step a c).1.map (fun _ => ()) = (c.write f name fun _ => [item a]).1)
    (list : List A) (c : Cluster V O E) :
    each step list c = writeEach f name (list.map item) c := by
  induction list generalizing c with
  | nil => rfl
  | cons a rest ih =>
    obtain ⟨left, answered⟩ := same a c
    rw [List.map_cons, each, writeEach, each]
    generalize step a c = first at left answered ⊢
    generalize (c.write f name fun _ => [item a]) = second at left answered ⊢
    obtain ⟨answer, after⟩ := first
    obtain ⟨answer', after'⟩ := second
    obtain rfl : after = after' := left
    cases answer <;> cases answer' <;> cases answered
    · rfl
    · exact ih after

theorem Bulk.together_eq (bulk : Bulk V) (c : Cluster V O E) :
    bulk.together f name c = c.write f name fun _ => bulk.items f.codec := by
  cases bulk <;> rfl

theorem Bulk.singly_eq (bulk : Bulk V) (c : Cluster V O E) :
    bulk.singly f name c = writeEach f name (bulk.items f.codec) c := by
  cases bulk with
  | put entries =>
    have same (entry : String × V) (c : Cluster V O E) :
        let written := c.write f name fun _ => [Replica.encodeEntry f.codec entry.1 entry.2]
        (c.put f name entry.1 entry.2).2 = written.2 ∧
          (c.put f name entry.1 entry.2).1.map (fun _ => ()) = written.1 := by
      refine ⟨rfl, ?_⟩
      simp only [Cluster.put]
      cases (c.write f name fun _ => [Replica.encodeEntry f.codec entry.1 entry.2]).1 <;> rfl
    exact each_eq_writeEach same entries c
  | clear order =>
    have same (key : String) (c : Cluster V O E) :
        let written := c.write f name fun _ => [.ok (Replica.encodeTombstone key)]
        (c.remove f name key).2 = written.2 ∧
          (c.remove f name key).1.map (fun _ => ()) = written.1 := by
      refine ⟨rfl, ?_⟩
      simp only [Cluster.remove]
      cases (c.write f name fun _ => [.ok (Replica.encodeTombstone key)]).1 <;> rfl
    exact each_eq_writeEach same order c

def Item.Legible (codec : Codec V) (item : Item) : Prop :=
  ∀ record : Record, item = .ofRecord record →
    ∃ key value, Decoded.ofRecord codec record = .entry key value

theorem legible_written {codec : Codec V} {r : Rehearsal} (genuine : r.acknowledgements = [])
    (legible : ∀ item ∈ items, item.Legible codec) : Legible codec (written items r) := by
  intro record member
  have begun := (appendAll_spec genuine items).2.2.1
  exact legible _ (begun.subset (List.mem_map_of_mem member)) record rfl

theorem write_of_open {c : Cluster V O E} {node : Node V O} (found : c.node? name = some node)
    (is_open : node.replica.ensureOpen = .ok ()) (records : Replica V O → List Item) :
    let appended := appendAll (records node.replica) c.rehearsal
    let settled := settle f { c with rehearsal := appended.2 }
    c.write f name records = (appended.1 >>= settled.sync name, settled) := by
  simp only [write, found, is_open]
  cases (appendAll (records node.replica) c.rehearsal).1 <;> rfl

theorem sync_of_found {c : Cluster V O E} {node : Node V O} (found : c.node? name = some node)
    (positions : List Position) :
    c.sync name positions = (node.replica.progress.sync positions).answer := by
  simp only [Cluster.sync, found]
  cases node.replica.progress.sync positions <;> rfl

section

variable {c : Cluster V (O × List (String × Change V)) E}
variable {node : Node V (O × List (String × Change V))} {log : Log}

theorem Healthy.follow (healthy : Healthy node) (available : log.unavailable = none)
    (legible : Legible f.codec (node.reader.batch log)) (shared : E) :
    let next := (Cluster.follow f.noting log node shared).1
    (next.replica.progress.failure = some .panicked ∧ ¬ f.notify.Quiet) ∨
      Healthy next ∧
        Replica.Absorbed f.codec node.replica (node.reader.batch log) next.replica ∧
        next.replica.progress.consumed =
          (node.replica.progress.past (node.reader.batch log)).consumed := by
  rcases follow_cases f.noting log node shared with ⟨same, abreast⟩ | ⟨_, running, polled⟩
  · have idle := (abreast healthy.unheld healthy.running).2
    rw [same, idle]
    exact .inr ⟨healthy, .refl healthy.running healthy.unfailed, rfl⟩
  · rw [polled]
    simp only [Replica.poll, Reader.poll_of_available available, Replica.receive, running,
      Bool.false_eq_true, ite_false]
    have taken := Replica.foldl_noting running healthy.unfailed legible shared
    generalize reached : (node.reader.batch log).foldl (Replica.consume f.noting)
      (node.replica, shared) = state at taken ⊢
    obtain ⟨caughtUp, ended⟩ := state.1.endOfBatch_eq (node.reader.batch log).isEmpty
    rcases taken with ⟨panicked, loud⟩ | absorbed
    · rw [ended]
      exact .inl ⟨panicked, loud⟩
    · have moved : state.1.progress = node.replica.progress.past (node.reader.batch log) := by
        have goes_on := absorbed.running
        rw [← reached] at goes_on ⊢
        exact Replica.foldl_consume_progress _ goes_on
      have absorbed := absorbed.endOfBatch (node.reader.batch log).isEmpty
      refine .inr ⟨⟨healthy.unheld, absorbed.closed.trans healthy.unclosed, absorbed.unfailed,
        absorbed.running⟩, absorbed, ?_⟩
      rw [ended, ← moved]

theorem Healthy.in_sync (healthy : Healthy node) {progress : Progress} {given records : List Record}
    (moved : node.replica.progress.consumed = (progress.past given).consumed)
    (ordered : given.Pairwise fun a b => a.partition = b.partition → a.offset < b.offset)
    (taken : ∀ record ∈ records, record ∈ given) :
    node.replica.progress.sync (records.map Record.position) = .done := by
  refine Progress.sync_eq_done_iff.mpr ⟨healthy.unfailed, healthy.running, fun position asked => ?_⟩
  obtain ⟨record, own, rfl⟩ := List.mem_map.mp asked
  have passed : record.offset < (progress.past given).watermark record.partition :=
    Progress.lt_watermark_past ordered (taken record own)
  rw [Progress.watermark, ← moved] at passed
  exact decide_eq_true passed

/-- A healthy store has come by what the items are on the log, and the answer is the one that the
appends give. -/
structure Took (f : Following V O E) (items : List Item)
    (c : Cluster V (O × List (String × Change V)) E)
    (node : Node V (O × List (String × Change V)))
    (after : Except StoreError Unit × Cluster V (O × List (String × Change V)) E)
    (next : Node V (O × List (String × Change V))) : Prop where
  healthy : Healthy next
  answer : after.1 = (appendAll items c.rehearsal).1.map fun _ => ()
  rehearsal : after.2.rehearsal = (appendAll items c.rehearsal).2
  absorbed : ∃ given, Log.Rearranged c.log.route given (written items c.rehearsal) ∧
    Replica.Absorbed f.codec node.replica given next.replica

/-- A write on a healthy store that has read the whole log: what it appends, the store is given and
takes, unless an observer panics. -/
theorem AtRest.write_healthy (atRest : AtRest f.noting c) (found : c.node? name = some node)
    (healthy : Healthy node) (legible : ∀ item ∈ items, item.Legible f.codec) :
    let after := c.write f.noting name fun _ => items
    ∃ next, after.2.node? name = some next ∧
      (next.replica.progress.failure = some .panicked ∧ ¬ f.notify.Quiet ∧
          (∃ error, after.1 = .error error) ∨
        Took f items c node after next) := by
  intro after
  obtain ⟨genuine, extended, _, finished⟩ := appendAll_spec atRest.genuine items
  obtain ⟨taken, tails⟩ := atRest.tailed node (mem_of_node? found)
  obtain ⟨available, idle⟩ :=
    atRest.abreast node (mem_of_node? found) healthy.unheld healthy.running
  let rehearsal := (appendAll items c.rehearsal).2
  let settled := settle f.noting { c with rehearsal }
  have is_open : node.replica.ensureOpen = .ok () := by
    unfold Replica.ensureOpen
    rw [healthy.unclosed, healthy.unfailed]
    rfl
  have tidy : rehearsal.log.Tidy := by
    have logged : rehearsal.log = _ := log_appendAll atRest.genuine items
    rw [logged]
    exact atRest.tidy.after _
  have given := tails.served.rearranged idle tidy extended
  have readable := given.legible (legible_written atRest.genuine legible)
  obtain ⟨before, there⟩ := node?_settle f.noting (c := { c with rehearsal }) found
  have split : after = _ := write_of_open found is_open fun _ => items
  rw [split]
  refine ⟨_, there, ?_⟩
  rcases healthy.follow (extended.unavailable.trans available) readable before with
    ⟨panicked, loud⟩ | ⟨still, absorbed, moved⟩
  · -- Whatever became of the appends, a writer is told the failure first.
    refine .inl ⟨panicked, loud, ?_⟩
    cases appendAll items c.rehearsal |>.1 with
    | error error => exact ⟨error, rfl⟩
    | ok positions =>
      refine ⟨.panicked, (sync_of_found there positions).trans ?_⟩
      exact congrArg SyncOutcome.answer (Progress.sync_of_failed panicked positions)
  · refine .inr ⟨still, ?_, rfl, _, given, absorbed⟩
    cases appended : (appendAll items c.rehearsal).1 with
    | error error => rfl
    | ok positions =>
      obtain ⟨_, rfl⟩ := finished positions appended
      have ordered := Reader.batch_ordered (fun index => (tidy.tidy index).sorted) tidy.placed
        node.reader
      have in_sync := still.in_sync moved ordered fun record => given.symm.mem_of_mem
      exact (sync_of_found there _).trans (congrArg SyncOutcome.answer in_sync)

namespace Took

variable {item : Item} {rest : List Item}
variable {first after : Except StoreError Unit × Cluster V (O × List (String × Change V)) E}
variable {next last : Node V (O × List (String × Change V))}

theorem cons (genuine : c.rehearsal.acknowledgements = []) (took : Took f [item] c node first next)
    (done : first.1 = .ok ()) (later : Took f rest first.2 next after last) :
    Took f (item :: rest) c node after last := by
  obtain ⟨given, rearranged, absorbed⟩ := took.absorbed
  obtain ⟨more, rearranged_later, absorbed_later⟩ := later.absorbed
  rcases appendAll_cons_cases genuine item with
    ⟨key, value, next, rfl, _, appended, extended, _, _, onward⟩ | ⟨error, _, refused⟩
  · have left : first.2.rehearsal = next := took.rehearsal.trans (by rw [(onward []).2]; rfl)
    have routes : first.2.log.route = c.log.route := by
      funext key
      rw [Cluster.log, left]
      exact extended.routes key
    have answer := later.answer
    rw [left] at answer rearranged_later
    rw [(onward []).1] at rearranged
    rw [routes] at rearranged_later
    refine ⟨later.healthy, ?_, ?_, given ++ more, ?_, absorbed.trans absorbed_later⟩
    · rw [(onward rest).2, answer]
      cases (appendAll rest next).1 <;> rfl
    · rw [(onward rest).2, later.rehearsal, left]
    · rw [(onward rest).1]
      exact rearranged.append rearranged_later
  · have failed := took.answer
    rw [done, (refused []).2] at failed
    cases failed

theorem of_error (genuine : c.rehearsal.acknowledgements = [])
    (took : Took f [item] c node first next) {error : StoreError} (failed : first.1 = .error error)
    (rest : List Item) : Took f (item :: rest) c node first next := by
  obtain ⟨given, rearranged, absorbed⟩ := took.absorbed
  rcases appendAll_cons_cases genuine item with
    ⟨key, value, next, rfl, _, appended, extended, _, _, onward⟩ | ⟨other, _, refused⟩
  · have answer := took.answer
    rw [failed, (onward []).2] at answer
    cases answer
  · refine ⟨took.healthy, ?_, ?_, given, ?_, absorbed⟩
    · rw [took.answer, (refused []).2, (refused rest).2]
    · rw [took.rehearsal, (refused []).2, (refused rest).2]
    · rw [(refused rest).1]
      rw [(refused []).1] at rearranged
      exact rearranged

end Took

theorem AtRest.writeEach_healthy (atRest : AtRest f.noting c) (found : c.node? name = some node)
    (healthy : Healthy node) (legible : ∀ item ∈ items, item.Legible f.codec) :
    let after := writeEach f.noting name items c
    AtRest f.noting after.2 ∧ ∃ next, after.2.node? name = some next ∧
      (next.replica.progress.failure = some .panicked ∧ ¬ f.notify.Quiet ∨
        Took f items c node after next) := by
  induction items generalizing c node with
  | nil =>
    exact ⟨atRest, node, found, .inr ⟨healthy, rfl, rfl, [], .nil,
      .refl healthy.running healthy.unfailed⟩⟩
  | cons item rest ih =>
    obtain ⟨first_legible, later_legible⟩ := List.forall_mem_cons.mp legible
    have settled := atRest.write name fun _ => [item]
    obtain ⟨next, there, ended⟩ := atRest.write_healthy found healthy
      (List.forall_mem_singleton.mpr first_legible)
    intro after
    generalize written_first : (c.write f.noting name fun _ => [item]) = first
      at settled there ended
    obtain ⟨answer, c'⟩ := first
    cases answer with
    | error error =>
      have stays : after = _ := writeEach_of_error written_first rest
      rw [stays]
      refine ⟨settled, next, there, ended.imp (fun broken => ⟨broken.1, broken.2.1⟩) fun took => ?_⟩
      exact took.of_error atRest.genuine rfl rest
    | ok _ =>
      rcases ended with ⟨_, _, error, failed⟩ | took
      · cases failed
      · have goes_on : after = _ := writeEach_of_ok written_first rest
        obtain ⟨still, last, found', ended⟩ := ih settled there took.healthy later_legible
        rw [goes_on]
        exact ⟨still, last, found', ended.imp_right (took.cons atRest.genuine rfl)⟩

def heard (c : Cluster V (O × List (String × Change V)) E) (name : String) :
    Option (List (List (String × Change V))) :=
  (c.node? name).map fun node => node.replica.observers.map Prod.snd

theorem Took.alike
    {after after' : Except StoreError Unit × Cluster V (O × List (String × Change V)) E}
    {next next' : Node V (O × List (String × Change V))} (took : Took f items c node after next)
    (took' : Took f items c node after' next') :
    next.replica.entries = next'.replica.entries ∧
      List.Forall₂ (SameCalls c.log.route) (next.replica.observers.map Prod.snd)
        (next'.replica.observers.map Prod.snd) := by
  obtain ⟨given, same, absorbed⟩ := took.absorbed
  obtain ⟨given', same', absorbed'⟩ := took'.absorbed
  constructor
  · refine Dictionary.ext_get? fun key => ?_
    rw [absorbed.entries, absorbed'.entries, same.outcome_eq, same'.outcome_eq]
  · rw [absorbed.noted, absorbed'.noted, List.forall₂_map_left_iff, List.forall₂_map_right_iff,
      List.forall₂_same]
    intro observer _ index
    have calls := same.calls f.codec node.replica.get? index
    have calls' := same'.calls f.codec node.replica.get? index
    rw [List.filter_append, List.filter_append, calls, calls']

end

theorem Bulk.Fits.legible {codec : Codec V} {r : Replica V O} {bulk : Bulk V}
    (fits : bulk.Fits codec r) : ∀ item ∈ bulk.items codec, item.Legible codec := by
  intro item member record same
  cases bulk with
  | put entries =>
    obtain ⟨entry, listed, rfl⟩ := List.mem_map.mp member
    change Replica.encodeEntry codec entry.1 entry.2 = _ at same
    unfold Replica.encodeEntry at same
    cases encoded : codec.encode entry.2 with
    | error error =>
      rw [encoded] at same
      cases same
    | ok bytes =>
      rw [encoded, Item.ofRecord, Except.ok.injEq, Prod.mk.injEq] at same
      exact ⟨_, _, Decoded.ofRecord_value same.1.symm same.2.symm (fits entry listed bytes encoded)⟩
  | clear order =>
    obtain ⟨key, _, rfl⟩ := List.mem_map.mp member
    rw [Replica.encodeTombstone, Item.ofRecord, Except.ok.injEq, Prod.mk.injEq] at same
    exact ⟨_, _, Decoded.ofRecord_tombstone same.1.symm same.2.symm⟩

theorem AtRest.bulk {f : Following V O E} {c : Cluster V (O × List (String × Change V)) E}
    {node : Node V (O × List (String × Change V))} (atRest : AtRest f.noting c)
    (found : c.node? name = some node) (healthy : Healthy node) {bulk : Bulk V}
    (fits : bulk.Fits f.codec node.replica) :
    let together := bulk.together f.noting name c
    let singly := bulk.singly f.noting name c
    ∃ one other, together.2.node? name = some one ∧ singly.2.node? name = some other ∧
      (¬ f.notify.Quiet ∧ (one.replica.progress.failure = some .panicked ∨
          other.replica.progress.failure = some .panicked) ∨
        Took f (bulk.items f.codec) c node together one ∧
          Took f (bulk.items f.codec) c node singly other ∧
          one.reader.batch together.2.log = [] ∧ other.reader.batch singly.2.log = []) := by
  intro together singly
  have wrote : together = _ := bulk.together_eq c
  have wrote_each : singly = _ := bulk.singly_eq c
  clear_value together singly
  subst wrote wrote_each
  have settled := atRest.write name fun _ => bulk.items f.codec
  obtain ⟨one, there, ended⟩ := atRest.write_healthy found healthy fits.legible
  obtain ⟨settled_each, other, there_too, ended_each⟩ :=
    atRest.writeEach_healthy found healthy fits.legible
  refine ⟨one, other, there, there_too, ?_⟩
  rcases ended with ⟨panicked, loud, _⟩ | took
  · exact .inl ⟨loud, .inl panicked⟩
  rcases ended_each with ⟨panicked, loud⟩ | took_each
  · exact .inl ⟨loud, .inr panicked⟩
  · refine .inr ⟨took, took_each, ?_, ?_⟩
    · exact (settled.abreast one (mem_of_node? there) took.healthy.unheld took.healthy.running).2
    · exact (settled_each.abreast other (mem_of_node? there_too) took_each.healthy.unheld
        took_each.healthy.running).2

end Cluster

namespace View

variable {f : Following V O E} {g : Following V P F} (v : View f g)

theorem each {step : A → Cluster V O E → Except StoreError B × Cluster V O E}
    {seen : A → Cluster V P F → Except StoreError B × Cluster V P F}
    (same : ∀ a c, seen a (v.cluster c) = (step a c).map id v.cluster) (list : List A)
    (c : Cluster V O E) :
    Cluster.each seen list (v.cluster c) = (Cluster.each step list c).map id v.cluster := by
  induction list generalizing c with
  | nil => rfl
  | cons a rest ih =>
    simp only [Cluster.each, same]
    generalize step a c = first
    obtain ⟨answer, after⟩ := first
    cases answer with
    | error error => rfl
    | ok _ => exact ih after

theorem together (name : String) (c : Cluster V O E) (bulk : Cluster.Bulk V) :
    bulk.together g name (v.cluster c) = (bulk.together f name c).map id v.cluster := by
  rw [bulk.together_eq, bulk.together_eq, v.codec]
  exact v.write name c fun _ => rfl

theorem singly (name : String) (c : Cluster V O E) (bulk : Cluster.Bulk V) :
    bulk.singly g name (v.cluster c) = (bulk.singly f name c).map id v.cluster := by
  rw [bulk.singly_eq, bulk.singly_eq, v.codec]
  exact v.each (fun item c => v.write name c fun _ => rfl) _ c

end View

namespace Cluster

variable {f : Following V O E} {name : String} {node : Node V O}

theorem exists_noted {log : Log} {shared : E} {history : List (Event V O E)}
    (found : (after f log shared history).node? name = some node) :
    ∃ noting, (noted f log shared history).node? name = some noting ∧
      (unnoted f).node noting = node := by
  rw [← unnoted_noted, View.node?] at found
  exact Option.map_eq_some_iff.mp found

theorem Item.ofRecord_eq_tombstone {record : Record} {key : String}
    (same : Item.ofRecord record = .ok (Replica.encodeTombstone key)) :
    record.key = Key.encode key ∧ record.value = none := by
  rw [Replica.encodeTombstone, Item.ofRecord, Except.ok.injEq, Prod.mk.injEq] at same
  exact same

theorem appends_of_tombstones {records : List Record} {order : List String}
    (every : records.map Item.ofRecord =
      order.map fun key => Except.ok (Replica.encodeTombstone key)) :
    records.map (fun record => Log.Event.append record.key record.value) =
      order.map fun key => .append (Key.encode key) none := by
  induction records generalizing order with
  | nil =>
    rw [List.map_nil, List.nil_eq, List.map_eq_nil_iff] at every
    rw [every]
    rfl
  | cons record rest ih =>
    cases order with
    | nil => cases every
    | cons key more =>
      obtain ⟨first, others⟩ := List.cons.inj every
      obtain ⟨same_key, no_value⟩ := Item.ofRecord_eq_tombstone first
      rw [List.map_cons, List.map_cons, ih others, same_key, no_value]

theorem AtRest.cleared {c : Cluster V (O × List (String × Change V)) E}
    {node : Node V (O × List (String × Change V))} (atRest : AtRest f.noting c)
    (found : c.node? name = some node) (healthy : Healthy node) {order : List String}
    (all : order.Perm node.replica.keys) :
    let cleared := (Bulk.clear order).together f.noting name c
    cleared.1 = .ok () →
      cleared.2.log = c.log.after (order.map fun key => .append (Key.encode key) none) ∧
        ∃ final, cleared.2.node? name = some final ∧ final.replica.keys = [] := by
  intro cleared succeeded
  have fits : (Bulk.clear order).Fits f.codec node.replica := all
  obtain ⟨final, there, ended⟩ := atRest.write_healthy found healthy fits.legible
  rcases ended with ⟨_, _, error, failed⟩ | took
  · cases succeeded.symm.trans failed
  obtain ⟨positions, appended⟩ : ∃ positions,
      (appendAll ((Bulk.clear order).items f.codec) c.rehearsal).1 = .ok positions := by
    have answer := succeeded.symm.trans took.answer
    cases outcome : (appendAll ((Bulk.clear order).items f.codec) c.rehearsal).1 with
    | error error =>
      rw [outcome] at answer
      cases answer
    | ok positions => exact ⟨positions, rfl⟩
  have every := ((appendAll_spec atRest.genuine _).2.2.2 positions appended).1
  obtain ⟨given, rearranged, absorbed⟩ := took.absorbed
  have removes {record : Record} {key : String}
      (same : Item.ofRecord record = .ok (Replica.encodeTombstone key)) :
      Decoded.ofRecord f.codec record = .entry key none := by
    obtain ⟨same_key, no_value⟩ := Item.ofRecord_eq_tombstone same
    exact Decoded.ofRecord_tombstone same_key no_value
  refine ⟨?_, final, there, absorbed.keys_nil (fun record member => ?_) fun key live => ?_⟩
  · have logged : cleared.2.log = _ :=
      (congrArg Rehearsal.log took.rehearsal).trans (log_appendAll atRest.genuine _)
    rw [logged, appends_of_tombstones every]
    rfl
  · have listed := List.mem_map_of_mem (f := Item.ofRecord) (rearranged.mem_of_mem member)
    rw [every] at listed
    obtain ⟨key, _, same⟩ := List.mem_map.mp listed
    exact ⟨key, removes same.symm⟩
  · have listed : .ok (Replica.encodeTombstone key) ∈ (Bulk.clear order).items f.codec :=
      List.mem_map_of_mem (all.mem_iff.mpr live)
    rw [← every] at listed
    obtain ⟨record, there, same⟩ := List.mem_map.mp listed
    exact ⟨record, rearranged.symm.mem_of_mem there, removes same⟩

theorem node?_unnoted {c : Cluster V (O × List (String × Change V)) E}
    {noting : Node V (O × List (String × Change V))} (found : c.node? name = some noting) :
    ((unnoted f).cluster c).node? name = some ((unnoted f).node noting) := by
  rw [View.node?, found]
  rfl

theorem Healthy.unnoted {noting : Node V (O × List (String × Change V))}
    (healthy : Healthy noting) : Healthy ((unnoted f).node noting) :=
  ⟨healthy.unheld, healthy.unclosed, healthy.unfailed, healthy.running⟩

theorem AtRest.bulk_alike {c : Cluster V (O × List (String × Change V)) E}
    {start : Node V (O × List (String × Change V))} (atRest : AtRest f.noting c)
    (found : c.node? name = some start) (healthy : Healthy start) {bulk : Bulk V}
    (fits : bulk.Fits f.codec start.replica) :
    let together := bulk.together f name ((unnoted f).cluster c)
    let singly := bulk.singly f name ((unnoted f).cluster c)
    ¬ f.notify.Quiet ∧ (Panicked together.2 name ∨ Panicked singly.2 name) ∨
      Alike name together singly ∧
        ∃ calls others, heard (bulk.together f.noting name c).2 name = some calls ∧
          heard (bulk.singly f.noting name c).2 name = some others ∧
          List.Forall₂ (fun calls others => SameCalls c.log.route calls others ∧
            ∀ key, Change.ofKey key calls = Change.ofKey key others) calls others := by
  intro together singly
  have wrote : together = _ := (unnoted f).together name c bulk
  have wrote_each : singly = _ := (unnoted f).singly name c bulk
  obtain ⟨one, other, there, there_too, ended⟩ := atRest.bulk found healthy fits
  rw [wrote, wrote_each]
  rcases ended with ⟨loud, panicked⟩ | ⟨took, took_each, idle, idle_each⟩
  · refine .inl ⟨loud, panicked.imp (fun failed => ?_) fun failed => ?_⟩
    · exact ⟨_, node?_unnoted there, failed⟩
    · exact ⟨_, node?_unnoted there_too, failed⟩
  · obtain ⟨entries, calls⟩ := took.alike took_each
    refine .inr ⟨⟨?_, ?_, _, _, node?_unnoted there, node?_unnoted there_too,
      took.healthy.unnoted, took_each.healthy.unnoted, idle, idle_each, entries⟩, _, _,
      congrArg (Option.map _) there, congrArg (Option.map _) there_too, ?_⟩
    · exact took.answer.trans took_each.answer.symm
    · exact took.rehearsal.trans took_each.rehearsal.symm
    · exact calls.imp fun _ _ same => ⟨same, same.ofKey⟩

theorem clear_eq_bulk {c : Cluster V O E} (found : c.node? name = some node) :
    c.clear f name = (Bulk.clear node.replica.keys).together f name c := by
  unfold Cluster.clear Bulk.together Cluster.write
  rw [found]

theorem AtRest.cleared_unnoted {c : Cluster V (O × List (String × Change V)) E}
    {start : Node V (O × List (String × Change V))} (atRest : AtRest f.noting c)
    (found : c.node? name = some start) (healthy : Healthy start) {order : List String}
    (all : order.Perm start.replica.keys) :
    let cleared := (Bulk.clear order).together f name ((unnoted f).cluster c)
    cleared.1 = .ok () →
      cleared.2.log = c.log.after (order.map fun key => .append (Key.encode key) none) ∧
        ∃ final, cleared.2.node? name = some final ∧ final.replica.keys = [] := by
  intro cleared succeeded
  have wrote : cleared = _ := (unnoted f).together name c (.clear order)
  rw [wrote] at succeeded ⊢
  obtain ⟨logged, final, there, nothing⟩ := atRest.cleared found healthy all succeeded
  exact ⟨logged, _, node?_unnoted there, nothing⟩

/-- A bulk of writes is the same as its writes one by one, up to the first that fails. On a store
that follows the log, is open and has not failed, both give the same answer and leave the same
records at the same offsets; the store consumes all of them both ways, shows the same after it, and
tells each observer the same of the keys of each partition, and so the same of each key. Only where
an observer panics, the two part. To clear a store is to remove each of its keys once, in any order:
on success, the log has got one tombstone for each key that had a value and nothing else, and no
key has a value. -/
theorem bulk_equals_single_writes (f : Following V O E) (topic : String) (partitions : Nat)
    (shared : E) {history : List (Event V O E)} (genuine : ∀ event ∈ history, event.genuine = true)
    (found : (after f (.create topic partitions) shared history).node? name = some node)
    (healthy : Healthy node) :
    let c := after f (.create topic partitions) shared history
    let noting := noted f (.create topic partitions) shared history
    (∀ bulk : Bulk V, bulk.Fits f.codec node.replica →
      let together := bulk.together f name c
      let singly := bulk.singly f name c
      ¬ f.notify.Quiet ∧ (Panicked together.2 name ∨ Panicked singly.2 name) ∨
        Alike name together singly ∧
          ∃ calls others, heard (bulk.together f.noting name noting).2 name = some calls ∧
            heard (bulk.singly f.noting name noting).2 name = some others ∧
            List.Forall₂ (fun calls others => SameCalls c.log.route calls others ∧
              ∀ key, Change.ofKey key calls = Change.ofKey key others) calls others) ∧
      c.clear f name = (Bulk.clear node.replica.keys).together f name c ∧
      node.replica.keys.Nodup ∧
      (∀ key, key ∈ node.replica.keys ↔ node.replica.containsKey key = true) ∧
      ∀ order, order.Perm node.replica.keys →
        let cleared := (Bulk.clear order).together f name c
        cleared.1 = .ok () →
          cleared.2.log = c.log.after (order.map fun key => .append (Key.encode key) none) ∧
            ∃ final, cleared.2.node? name = some final ∧ final.replica.keys = [] := by
  intro c noting
  obtain ⟨start, begun, rfl⟩ := exists_noted found
  have atRest := noted_atRest f topic partitions shared genuine
  have sound : Healthy start :=
    ⟨healthy.unheld, healthy.unclosed, healthy.unfailed, healthy.running⟩
  have plain : c = (unnoted f).cluster noting := (unnoted_noted ..).symm
  refine ⟨fun bulk fits => ?_, clear_eq_bulk found, Replica.keys_nodup _, fun key =>
    Replica.mem_keys_iff, fun order all => ?_⟩
  · rw [plain]
    exact atRest.bulk_alike begun sound fits
  · rw [plain]
    exact atRest.cleared_unnoted begun sound all

/-- A store with some keys, one of which was removed, on a log that will refuse the third append. -/
def scarce : List (Event Bytes Unit Unit) :=
  [.start "roads" [()] {}, .putAll "roads" [("a", [1]), ("b", [2]), ("c", [3])],
    .remove "roads" "b", .rehearse (some 2) []]

theorem scarce_bulk_equals_single_writes :
    let c := after .plain (.create "roads" 3) () scarce
    let entries := [("a", [4]), ("a", [5]), ("d", [6])]
    (∀ event ∈ scarce, event.genuine = true) ∧ ∃ node, c.node? "roads" = some node ∧
      Healthy node ∧ (Bulk.put entries).Fits Codec.plain node.replica ∧
      Alike "roads" (c.putAll .plain "roads" entries)
        ((Bulk.put entries).singly .plain "roads" c) ∧
      (c.putAll .plain "roads" entries).1 = .error (.io "roads" "append rejected") ∧
      ["c", "a"].Perm node.replica.keys ∧
      ((Bulk.clear ["c", "a"]).together .plain "roads" c).2.log =
        c.log.after [.append (Key.encode "c") none, .append (Key.encode "a") none] := by
  intro c entries
  have genuine : ∀ event ∈ scarce, event.genuine = true := by decide
  have state : (c.node? "roads").any (fun node => !node.held && !node.replica.closed &&
      node.replica.progress.failure.isNone && !node.replica.progress.stopped &&
      node.replica.keys = ["a", "c"]) = true := by decide +kernel
  obtain ⟨node, found, all⟩ := (Option.any_eq_true _ _).mp state
  simp only [Bool.and_eq_true, Bool.not_eq_true', Option.isNone_iff_eq_none,
    decide_eq_true_eq] at all
  obtain ⟨⟨⟨⟨unheld, unclosed⟩, unfailed⟩, running⟩, keys⟩ := all
  have healthy : Healthy node := ⟨unheld, unclosed, unfailed, running⟩
  have fits : (Bulk.put entries).Fits Codec.plain node.replica := by
    intro entry _ bytes encoded
    cases encoded
    rfl
  have order : ["c", "a"].Perm node.replica.keys := by
    rw [keys]
    exact .swap ..
  have same := bulk_equals_single_writes .plain "roads" 3 () genuine found healthy
  refine ⟨genuine, node, found, healthy, fits, ?_, by rfl, order, ?_⟩
  · rcases same.1 (.put entries) fits with ⟨loud, _⟩ | ⟨alike, _⟩
    · exact absurd (fun _ _ _ _ _ => rfl) loud
    · exact alike
  · exact (same.2.2.2.2 _ order (by rfl)).1

end Cluster

end RoadRegistry
