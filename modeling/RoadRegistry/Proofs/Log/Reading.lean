import RoadRegistry.Log.Reader
import RoadRegistry.Proofs.Log.Chronicle

namespace RoadRegistry

namespace Reader

def position (reader : Reader) (index : Nat) : Int := reader.positions[index]?.getD 0

def batch (reader : Reader) (log : Log) : List Record :=
  (collect reader.positions log.partitions).1

def next (reader : Reader) (log : Log) : Reader := ⟨(collect reader.positions log.partitions).2⟩

theorem poll_of_available {log : Log} (available : log.unavailable = none) (reader : Reader) :
    reader.poll log = .ok (reader.batch log, reader.next log) := by
  unfold poll Log.checkAvailable
  rw [available]
  rfl

theorem poll_of_unavailable {log : Log} {message : String} (lost : log.unavailable = some message)
    (reader : Reader) : reader.poll log = .error (.io log.topic message) := by
  unfold poll Log.checkAvailable
  rw [lost]
  rfl

theorem mem_fresh {position : Int} {p : Partition} {record : Record} :
    record ∈ fresh position p ↔ record ∈ p.records ∧ position ≤ record.offset := by
  simp only [fresh, List.mem_filter, decide_eq_true_eq]

theorem fresh_sublist (position : Int) (p : Partition) :
    (fresh position p).Sublist p.records := List.filter_sublist

theorem fresh_empty (position : Int) : fresh position .empty = [] := rfl

theorem le_after {position : Int} {p : Partition} :
    position ≤ after position (fresh position p) := by
  unfold after
  cases last : (fresh position p).getLast? with
  | none => exact Int.le_refl _
  | some record =>
    have above := (mem_fresh.mp (List.mem_of_getLast? last)).2
    simp only
    omega

theorem lt_after {position : Int} {records : List Record}
    (sorted : records.Pairwise (·.offset < ·.offset)) {record : Record}
    (member : record ∈ records) : record.offset < after position records := by
  rcases List.eq_nil_or_concat records with rfl | ⟨others, last, rfl⟩
  · cases member
  · rw [List.concat_eq_append] at sorted member ⊢
    rw [after, List.getLast?_concat]
    simp only
    rcases List.mem_append.mp member with earlier | same
    · have := (List.pairwise_append.mp sorted).2.2 record earlier last
        (List.mem_singleton_self last)
      omega
    · rw [List.mem_singleton.mp same]
      omega

theorem after_le {position bound : Int} {p : Partition}
    (below : ∀ record ∈ p.records, record.offset < bound) (start : position ≤ bound) :
    after position (fresh position p) ≤ bound := by
  unfold after
  cases last : (fresh position p).getLast? with
  | none => exact start
  | some record => exact below record (mem_fresh.mp (List.mem_of_getLast? last)).1

theorem mem_collect {positions : List Int} {partitions : List Partition} {record : Record} :
    record ∈ (collect positions partitions).1 ↔ ∃ index : Nat,
      record ∈ fresh (positions[index]?.getD 0) (partitions[index]?.getD .empty) := by
  induction partitions generalizing positions with
  | nil => simp [collect, fresh_empty]
  | cons p rest ih =>
    simp only [collect, List.mem_append, ih]
    constructor
    · rintro (here | ⟨index, member⟩)
      · exact ⟨0, by simpa [List.headD_eq_head?_getD, List.head?_eq_getElem?] using here⟩
      · exact ⟨index + 1, by simpa using member⟩
    · rintro ⟨index, member⟩
      cases index with
      | zero =>
        exact .inl (by simpa [List.headD_eq_head?_getD, List.head?_eq_getElem?] using member)
      | succ index => exact .inr ⟨index, by simpa using member⟩

theorem position_collect (positions : List Int) (partitions : List Partition) (index : Nat) :
    (collect positions partitions).2[index]?.getD 0 =
      after (positions[index]?.getD 0)
        (fresh (positions[index]?.getD 0) (partitions[index]?.getD .empty)) := by
  induction partitions generalizing positions index with
  | nil => simp [collect, fresh_empty, after]
  | cons p rest ih =>
    cases index with
    | zero => simp [collect, List.headD_eq_head?_getD, List.head?_eq_getElem?]
    | succ index => simp [collect, ih]

theorem collect_eq_filter {positions : List Int} {partitions : List Partition}
    (unread : Record → Bool)
    (tells : ∀ index : Nat, ∀ record ∈ (partitions[index]?.getD .empty).records,
      positions[index]?.getD 0 ≤ record.offset ↔ unread record = true) :
    (collect positions partitions).1 = (partitions.flatMap (·.records)).filter unread := by
  induction partitions generalizing positions with
  | nil => rfl
  | cons p rest ih =>
    have later (index : Nat) (record : Record)
        (member : record ∈ (rest[index]?.getD .empty).records) :
        positions.tail[index]?.getD 0 ≤ record.offset ↔ unread record = true := by
      rw [List.getElem?_tail]
      exact tells (index + 1) record (by simpa using member)
    have first : fresh (positions.headD 0) p = p.records.filter unread := by
      refine List.filter_congr fun record member => ?_
      rw [List.headD_eq_head?_getD, List.head?_eq_getElem?, Bool.eq_iff_iff, decide_eq_true_eq]
      exact tells 0 record (by simpa using member)
    simp only [collect, List.flatMap_cons, List.filter_append, first, ih later]

theorem collect_ordered (base : Int) {positions : List Int} {partitions : List Partition}
    (sorted : ∀ p ∈ partitions, p.records.Pairwise (·.offset < ·.offset))
    (placed : ∀ index : Nat, ∀ record ∈ (partitions[index]?.getD .empty).records,
      record.partition = base + index) :
    (collect positions partitions).1.Pairwise
      fun a b => a.partition = b.partition → a.offset < b.offset := by
  induction partitions generalizing base positions with
  | nil => exact .nil
  | cons p rest ih =>
    have later (index : Nat) (record : Record)
        (member : record ∈ (rest[index]?.getD .empty).records) :
        record.partition = base + 1 + index := by
      have := placed (index + 1) record (by simpa using member)
      omega
    simp only [collect]
    refine List.pairwise_append.mpr
      ⟨?_, ih _ (fun q member => sorted q (List.mem_cons_of_mem _ member)) later, ?_⟩
    · have fresh_sorted := (sorted p List.mem_cons_self).sublist
        (fresh_sublist (positions.headD 0) p)
      refine fresh_sorted.imp ?_
      intro a b less _
      exact less
    · intro a here b there same
      obtain ⟨index, member⟩ := mem_collect.mp there
      have first := placed 0 a (by simpa using (mem_fresh.mp here).1)
      have second := later index b (mem_fresh.mp member).1
      omega

variable {reader : Reader} {log : Log}

theorem mem_batch {record : Record} : record ∈ reader.batch log ↔ ∃ index : Nat,
    record ∈ (log.part index).records ∧ reader.position index ≤ record.offset := by
  simp only [batch, mem_collect, mem_fresh, position, Log.part]

theorem position_next (reader : Reader) (log : Log) (index : Nat) :
    (reader.next log).position index =
      after (reader.position index) (fresh (reader.position index) (log.part index)) :=
  position_collect ..

theorem position_next_of_idle (idle : reader.batch log = []) (index : Nat) :
    (reader.next log).position index = reader.position index := by
  have nothing : fresh (reader.position index) (log.part index) = [] := by
    refine List.eq_nil_iff_forall_not_mem.mpr fun record found => ?_
    have given : record ∈ reader.batch log := mem_batch.mpr ⟨index, mem_fresh.mp found⟩
    rw [idle] at given
    cases given
  rw [position_next, nothing]
  rfl

theorem batch_ordered
    (sorted : ∀ index, (log.part index).records.Pairwise (·.offset < ·.offset))
    (placed : ∀ index : Nat, ∀ record ∈ (log.part index).records, record.partition = index)
    (reader : Reader) :
    (reader.batch log).Pairwise fun a b => a.partition = b.partition → a.offset < b.offset := by
  apply collect_ordered 0
  · intro p member
    obtain ⟨index, inside, rfl⟩ := List.getElem_of_mem member
    simpa [Log.part, inside] using sorted index
  · intro index record member
    have here : record.partition = index := placed index record member
    omega

theorem lt_position_next {record : Record} {index : Nat}
    (sorted : (log.part index).records.Pairwise (·.offset < ·.offset))
    (held : record ∈ (log.part index).records) :
    record.offset < (reader.next log).position index := by
  rw [position_next]
  by_cases read : reader.position index ≤ record.offset
  · have fresh_sorted := sorted.sublist (fresh_sublist (reader.position index) (log.part index))
    exact lt_after fresh_sorted (mem_fresh.mpr ⟨held, read⟩)
  · exact Int.lt_of_lt_of_le (Int.not_le.mp read) le_after

theorem position_next_le {index : Nat}
    (below : ∀ record ∈ (log.part index).records, record.offset < (log.part index).nextOffset)
    (start : reader.position index ≤ (log.part index).nextOffset) :
    (reader.next log).position index ≤ (log.part index).nextOffset := by
  rw [position_next]
  exact after_le below start

end Reader

end RoadRegistry
