import RoadRegistry.Proofs.Dictionary
import RoadRegistry.Proofs.Replica.Following

namespace RoadRegistry

namespace Progress

variable {progress : Progress} {target : Dictionary Int Int}

def watermark (progress : Progress) (partition : Int) : Int :=
  (progress.consumed.get? partition).getD 0

def past (progress : Progress) (records : List Record) : Progress :=
  records.foldl (fun progress record => progress.advance record.position) progress

theorem past_cons (progress : Progress) (record : Record) (rest : List Record) :
    progress.past (record :: rest) = (progress.advance record.position).past rest := rfl

theorem past_replay (progress : Progress) (records : List Record) :
    (progress.past records).target = progress.target ∧
      (progress.past records).caughtUp = progress.caughtUp := by
  induction records generalizing progress with
  | nil => exact ⟨rfl, rfl⟩
  | cons record rest ih => exact ih (progress.advance record.position)

theorem contains_advance (progress : Progress) (record : Record) (partition : Int) :
    (progress.advance record.position).consumed.contains partition = true ↔
      record.partition = partition ∨ progress.consumed.contains partition = true := by
  have inserted : (progress.advance record.position).consumed =
      progress.consumed.insert record.partition (record.offset + 1) := rfl
  rw [Dictionary.contains, inserted, Dictionary.get?_insert]
  by_cases here : partition = record.partition
  · simp [here]
  · rw [if_neg here]
    simp only [Ne.symm here, false_or]
    rfl

theorem contains_past (progress : Progress) (records : List Record) (partition : Int) :
    (progress.past records).consumed.contains partition = true ↔
      progress.consumed.contains partition = true ∨
        ∃ record ∈ records, record.partition = partition := by
  induction records generalizing progress with
  | nil => simp [past]
  | cons record rest ih =>
    rw [past_cons, ih, contains_advance]
    simp only [List.mem_cons, exists_eq_or_imp]
    rw [or_comm (a := record.partition = partition), or_assoc]

theorem watermark_past_of_absent {records : List Record} {partition : Int}
    (absent : ∀ record ∈ records, record.partition ≠ partition) :
    (progress.past records).watermark partition = progress.watermark partition := by
  induction records generalizing progress with
  | nil => rfl
  | cons record rest ih =>
    have apart := absent record List.mem_cons_self
    rw [past_cons, ih fun other member => absent other (List.mem_cons_of_mem _ member)]
    exact (watermark_advance progress record partition).trans (if_neg (Ne.symm apart))

theorem watermark_past_le {records : List Record} {partition bound : Int}
    (below : ∀ record ∈ records, record.partition = partition → record.offset < bound)
    (start : progress.watermark partition ≤ bound) :
    (progress.past records).watermark partition ≤ bound := by
  induction records generalizing progress with
  | nil => exact start
  | cons record rest ih =>
    rw [past_cons]
    refine ih (fun other member => below other (List.mem_cons_of_mem _ member)) ?_
    rw [watermark, watermark_advance]
    split
    · next here => exact below record List.mem_cons_self here.symm
    · exact start

theorem lt_watermark_past {records : List Record}
    (ordered : records.Pairwise fun a b => a.partition = b.partition → a.offset < b.offset)
    {record : Record} (member : record ∈ records) :
    record.offset < (progress.past records).watermark record.partition := by
  induction records generalizing progress record with
  | nil => cases member
  | cons first rest ih =>
    rw [List.pairwise_cons] at ordered
    rw [past_cons]
    rcases List.mem_cons.mp member with rfl | later
    · by_cases again : ∃ other ∈ rest, other.partition = record.partition
      · obtain ⟨other, there, same⟩ := again
        have above := ordered.1 other there same.symm
        have passed : other.offset <
            ((progress.advance record.position).past rest).watermark other.partition :=
          ih ordered.2 there
        rw [same] at passed
        omega
      · rw [watermark_past_of_absent fun other there same => again ⟨other, there, same⟩]
        have moved := watermark_advance progress record record.partition
        rw [if_pos rfl] at moved
        rw [watermark, moved]
        omega
    · exact ih ordered.2 later

/-- A partition that delivers anything delivers its newest record, and so has been consumed to its
end. The end offsets and the shortcut of an empty poll therefore come to the same. -/
structure Due (progress : Progress) (target : Dictionary Int Int) : Prop where
  positive : ∀ partition stop, target.get? partition = some stop → 0 < stop
  ended : ∀ partition stop, target.get? partition = some stop →
    progress.consumed.contains partition = true → stop ≤ progress.watermark partition

def AllDelivered (progress : Progress) (target : Dictionary Int Int) : Prop :=
  ∀ partition, target.contains partition = true → progress.consumed.contains partition = true

theorem Due.reached_iff (due : progress.Due target) {partition stop : Int}
    (entry : target.get? partition = some stop) :
    progress.reached partition (stop - 1) = true ↔
      progress.consumed.contains partition = true := by
  have positive := due.positive partition stop entry
  rw [reached, decide_eq_true_eq]
  constructor
  · intro below
    cases seen : progress.consumed.get? partition with
    | none =>
      rw [seen, Option.getD_none] at below
      omega
    | some offset => rw [Dictionary.contains, seen, Option.isSome_some]
  · intro delivered
    have ended := due.ended partition stop entry delivered
    rw [watermark] at ended
    omega

theorem Due.evaluate (due : progress.Due target) (targeted : progress.target = some target) :
    progress.evaluate.caughtUp = true ↔
      progress.caughtUp = true ∨ progress.AllDelivered target := by
  simp only [Progress.evaluate, targeted, Bool.or_eq_true, List.all_eq_true, Prod.forall]
  apply or_congr_right
  constructor
  · intro all partition listed
    obtain ⟨stop, entry⟩ := Option.isSome_iff_exists.mp listed
    have positive := due.positive partition stop entry
    rcases all partition stop (Dictionary.mem_entries_iff.mpr entry) with zero | reached
    · have : stop = 0 := by simpa using zero
      omega
    · exact (due.reached_iff entry).mp reached
  · intro all partition stop member
    have entry := Dictionary.mem_entries_iff.mp member
    exact .inr ((due.reached_iff entry).mpr
      (all partition (by rw [Dictionary.contains, entry, Option.isSome_some])))

theorem idle_caughtUp (targeted : progress.target = some target) :
    progress.idle.caughtUp = true ↔ progress.caughtUp = true ∨ progress.AllDelivered target := by
  simp only [idle, targeted, Bool.or_eq_true, List.all_eq_true]
  apply or_congr_right
  constructor
  · intro all partition listed
    obtain ⟨stop, entry⟩ := Option.isSome_iff_exists.mp listed
    exact all partition (List.mem_map_of_mem (Dictionary.mem_entries_iff.mpr entry))
  · intro all partition member
    obtain ⟨⟨_, stop⟩, there, rfl⟩ := List.mem_map.mp member
    have entry := Dictionary.mem_entries_iff.mp there
    exact all _ (by rw [Dictionary.contains, entry, Option.isSome_some])

end Progress

namespace Replica

variable {f : Following V O E} {r : Replica V O} {target : Dictionary Int Int}

theorem consume_replay (f : Following V O E) (state : Replica V O × E) (record : Record) :
    (consume f state record).1.progress.target = state.1.progress.target ∧
      (consume f state record).1.progress.caughtUp = state.1.progress.caughtUp := by
  obtain ⟨r, shared⟩ := state
  cases ended : r.progress.stopped with
  | true =>
    rw [consume_of_stopped ended]
    exact ⟨rfl, rfl⟩
  | false =>
    rcases consume_cases f shared record ended with ⟨failure, failed⟩ | ⟨moved, _⟩
    · rw [failed]
      exact ⟨rfl, rfl⟩
    · rw [moved]
      exact ⟨rfl, rfl⟩

theorem foldl_consume_replay (f : Following V O E) (records : List Record)
    (state : Replica V O × E) :
    (records.foldl (consume f) state).1.progress.target = state.1.progress.target ∧
      (records.foldl (consume f) state).1.progress.caughtUp = state.1.progress.caughtUp := by
  induction records generalizing state with
  | nil => exact ⟨rfl, rfl⟩
  | cons record rest ih =>
    obtain ⟨target, flag⟩ := consume_replay f state record
    rw [List.foldl_cons, ← target, ← flag]
    exact ih (consume f state record)

theorem running_of_foldl {records : List Record} {state : Replica V O × E}
    (goes_on : (records.foldl (consume f) state).1.progress.stopped = false) :
    state.1.progress.stopped = false := by
  cases ended : state.1.progress.stopped with
  | false => rfl
  | true =>
    rw [foldl_consume_of_stopped (r := state.1) ended, ended] at goes_on
    exact goes_on

theorem foldl_consume_progress (records : List Record) {state : Replica V O × E}
    (goes_on : (records.foldl (consume f) state).1.progress.stopped = false) :
    (records.foldl (consume f) state).1.progress = state.1.progress.past records := by
  induction records generalizing state with
  | nil => rfl
  | cons record rest ih =>
    obtain ⟨r, shared⟩ := state
    have first_goes_on : (consume f (r, shared) record).1.progress.stopped = false :=
      running_of_foldl goes_on
    have running := running_of_consume first_goes_on
    rcases consume_cases f shared record running with ⟨failure, failed⟩ | ⟨moved, _⟩
    · rw [failed] at first_goes_on
      cases first_goes_on
    · rw [List.foldl_cons, ih goes_on, moved]
      rfl

theorem reached_foldl_consume (f : Following V O E) (r : Replica V O) (shared : E)
    {records : List Record} {record : Record}
    (above : ∀ later ∈ records, later.partition = record.partition → record.offset < later.offset)
    (reached : r.progress.reached record.partition record.offset = true) :
    (records.foldl (consume f) (r, shared)).1.progress.reached record.partition record.offset =
      true := by
  induction records generalizing r shared with
  | nil => exact reached
  | cons first rest ih =>
    have still : (consume f (r, shared) first).1.progress.reached record.partition
        record.offset = true := by
      cases ended : r.progress.stopped with
      | true =>
        rw [consume_of_stopped ended]
        exact reached
      | false =>
        rcases consume_cases f shared first ended with ⟨failure, failed⟩ | ⟨moved, _⟩
        · rw [failed]
          exact reached
        · rw [moved, Progress.reached, decide_eq_true_eq, Progress.watermark_advance]
          split
          · next here =>
            have less := above first List.mem_cons_self here.symm
            omega
          · exact of_decide_eq_true reached
    rw [List.foldl_cons]
    exact ih (consume f (r, shared) first).1 (consume f (r, shared) first).2
      (fun later member => above later (List.mem_cons_of_mem _ member)) still

theorem caughtUp_endOfBatch (already : r.progress.caughtUp = true) (isIdle : Bool) :
    (r.endOfBatch isIdle).progress.caughtUp = true := by
  have evaluated : r.progress.evaluate.caughtUp = true := by
    unfold Progress.evaluate
    split
    · simp only [already, Bool.true_or]
    · exact already
  have idled : r.progress.evaluate.idle.caughtUp = true := by
    unfold Progress.idle
    split
    · simp only [evaluated, Bool.true_or]
    · exact evaluated
  unfold endOfBatch
  split
  · exact already
  · cases isIdle with
    | false => exact evaluated
    | true => exact idled

theorem endOfBatch_caughtUp (running : r.progress.stopped = false)
    (due : r.progress.Due target) (targeted : r.progress.target = some target) (idle : Bool) :
    (r.endOfBatch idle).progress.caughtUp = true ↔
      r.progress.caughtUp = true ∨ r.progress.AllDelivered target := by
  obtain ⟨caughtUp, evaluated⟩ := r.progress.evaluate_eq
  have flag := due.evaluate targeted
  unfold endOfBatch
  simp only [running, Bool.false_eq_true, ite_false]
  cases idle with
  | false => exact flag
  | true =>
    have same_target : r.progress.evaluate.target = some target := by rw [evaluated, targeted]
    have same_consumed :
        r.progress.evaluate.AllDelivered target ↔ r.progress.AllDelivered target := by
      rw [evaluated]
      rfl
    simp only [ite_true]
    rw [Progress.idle_caughtUp same_target, flag, same_consumed, or_assoc, or_self]

end Replica

end RoadRegistry
