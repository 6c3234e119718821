import RoadRegistry.Proofs.Cluster.Coherence
import RoadRegistry.Proofs.Cluster.Errors
import RoadRegistry.Proofs.Interleaving.Basic

namespace RoadRegistry

namespace Writing

inductive Stage where
  | arriving
  | admitted
  | appending (rest : List Cluster.Item) (positions : List Position)
  | waiting (positions : List Position)
  | answered (outcome : Except StoreError Unit)

inductive Deed where
  | own (record : Record)
  | other (event : Log.Event)

namespace Deed

def event : Deed → Log.Event
  | .own record => .append record.key record.value
  | .other event => event

def own? : Deed → Option Record
  | .own record => some record
  | .other _ => none

def other? : Deed → Option Log.Event
  | .own _ => none
  | .other event => some event

end Deed

inductive Move (E : Type) where
  /-- The writer goes on. If its deadline has come, it reports a position that it waits for. -/
  | turn (late : Option Position)
  | poll
  | consume
  | close
  /-- A store that was closed ends tailing, once it has nothing in hand. -/
  | leave
  | log (event : Log.Event)
  | accept (accepted : Option Nat)
  | surroundings (change : E → E)

def Move.other? : Move E → Option Log.Event
  | .log event => some event
  | _ => none

end Writing

def Progress.pending (progress : Progress) (positions : List Position) : List Position :=
  ((syncTargets positions).entries.filter fun (partition, offset) =>
    !progress.reached partition offset).map fun (partition, offset) => ⟨partition, offset⟩

/-- A write between two of its steps, while its store tails and others change the log. -/
structure Writing (V O E : Type) where
  rehearsal : Rehearsal
  tailer : Tailer V O
  shared : E
  stage : Writing.Stage := .arriving
  /-- What the call is to append, what was done to the log and what the store has applied, all
  since the call began. No step looks at it. -/
  items : List Cluster.Item := []
  deeds : List Writing.Deed := []
  applied : List Record := []

def Decoded.isEntry : Decoded V → Bool
  | .entry _ _ => true
  | .legacy | .broken _ _ => false

def Tailer.applies (codec : Codec V) (t : Tailer V O) : List Record :=
  match t.batch with
  | some (record :: _, _) =>
    if !t.replica.progress.stopped && (Decoded.ofRecord codec record).isEntry then [record] else []
  | some ([], _) | none => []

def Tailer.leave (t : Tailer V O) : Tailer V O :=
  if t.replica.closed && t.batch.isNone then { t with replica := t.replica.finish none } else t

namespace Tailer

theorem applied_consume (f : Following V O E) (t : Tailer V O) (shared : E) :
    (t.consume f shared).1.replica.counters.applied =
      t.replica.counters.applied + (t.applies f.codec).length := by
  unfold Tailer.consume Tailer.applies
  match t.batch with
  | none => rfl
  | some ([], idle) =>
    obtain ⟨caughtUp, same⟩ := t.replica.endOfBatch_eq idle
    simp only [same, List.length_nil, Nat.add_zero]
  | some (record :: rest, idle) =>
    simp only
    cases ended : t.replica.progress.stopped with
    | true => rw [Replica.consume_of_stopped ended]; rfl
    | false =>
      cases said : Decoded.ofRecord f.codec record with
      | legacy => rw [Replica.consume_of_legacy ended said]; rfl
      | broken key error => rw [Replica.consume_of_broken ended said]; rfl
      | entry key value =>
        rw [Replica.consume_of_entry ended said, Replica.tell_counters]
        rfl

theorem reader_drain (f : Following V O E) (count : Nat) (t : Tailer V O) (shared : E) :
    (drain f count (t, shared)).1.reader = t.reader := by
  induction count generalizing t shared with
  | zero => rfl
  | succ count ih =>
    refine (ih (t.consume f shared).1 (t.consume f shared).2).trans ?_
    unfold consume
    split <;> rfl

theorem batch_drain {f : Following V O E} {count : Nat} {t : Tailer V O} {shared : E}
    (enough : t.batch = none ∨ t.pending.length < count) :
    (drain f count (t, shared)).1.batch = none := by
  induction count generalizing t shared with
  | zero => exact enough.resolve_right (Nat.not_lt_zero _)
  | succ count ih =>
    refine ih ?_
    unfold pending at enough ⊢
    split
    · next free => exact .inl free
    · exact .inl rfl
    · next record rest idle batch =>
      rw [batch] at enough
      exact .inr (Nat.lt_of_succ_lt_succ (enough.resolve_left nofun))

end Tailer

namespace Writing

def begin (c : Cluster V O E) (node : Node V O) : Writing V O E where
  rehearsal := c.rehearsal
  tailer := { reader := node.reader, replica := node.replica }
  shared := c.shared

def log (s : Writing V O E) : Log := s.rehearsal.log

def written (s : Writing V O E) : List Record := s.deeds.filterMap Deed.own?

def events (s : Writing V O E) : List Log.Event := s.deeds.map Deed.event

def setReplica (s : Writing V O E) (replica : Replica V O) : Writing V O E :=
  { s with tailer := { s.tailer with replica } }

def answer (s : Writing V O E) (outcome : Except StoreError Unit) : Writing V O E :=
  { s with stage := .answered outcome }

def act (s : Writing V O E) (rehearsal : Rehearsal) (deed : Deed) : Writing V O E :=
  { s with rehearsal, deeds := s.deeds ++ [deed] }

def turn (records : Replica V O → List Cluster.Item) (late : Option Position)
    (s : Writing V O E) : Writing V O E :=
  match s.stage with
  | .arriving =>
    match s.tailer.replica.ensureOpen with
    | .error error => s.answer (.error error)
    | .ok () => { s with stage := .admitted }
  | .admitted =>
    { s with
      stage := .appending (records s.tailer.replica) []
      items := records s.tailer.replica }
  | .appending [] positions => { s with stage := .waiting positions }
  | .appending (.error error :: _) _ => s.answer (.error error)
  | .appending (.ok (key, value) :: rest) positions =>
    match s.rehearsal.append key value with
    | .error error => s.answer (.error error)
    | .ok (position, rehearsal) =>
      { s.act rehearsal (.own (s.log.nextRecord key value)) with
        stage := .appending rest (positions ++ [position]) }
  | .waiting positions =>
    match s.tailer.replica.progress.sync positions with
    | .done => s.answer (.ok ())
    | .failed error => s.answer (.error error)
    | .pending _ =>
      match late.filter (· ∈ s.tailer.replica.progress.pending positions) with
      | some position => s.answer (.error (.syncTimeout position.partition position.offset))
      | none => s
  | .answered _ => s

def step (f : Following V O E) (records : Replica V O → List Cluster.Item) (s : Writing V O E) :
    Move E → Writing V O E
  | .turn late => s.turn records late
  | .poll => { s with tailer := s.tailer.poll s.log }
  | .consume =>
    let (tailer, shared) := s.tailer.consume f s.shared
    { s with tailer, shared, applied := s.applied ++ s.tailer.applies f.codec }
  | .close => s.setReplica { s.tailer.replica with closed := true }
  | .leave => { s with tailer := s.tailer.leave }
  | .log event => s.act { s.rehearsal with log := (event.run s.log).2 } (.other event)
  | .accept accepted => { s with rehearsal := { s.rehearsal with accepted } }
  | .surroundings change => { s with shared := change s.shared }

def run (f : Following V O E) (records : Replica V O → List Cluster.Item) (s : Writing V O E)
    (moves : List (Move E)) : Writing V O E :=
  moves.foldl (step f records) s

def Stage.isUnderway : Stage → Bool
  | .appending _ _ | .waiting _ => true
  | .arriving | .admitted | .answered _ => false

def StoppedBefore (f : Following V O E) (records : Replica V O → List Cluster.Item)
    (s : Writing V O E) (moves : List (Move E)) (record : Record) : Prop :=
  ∃ early, early <+: moves ∧
    (s.run f records early).tailer.replica.progress.stopped = true ∧
    record ∉ (s.run f records early).tailer.consumed

section

variable (f : Following V O E) (records : Replica V O → List Cluster.Item) (s : Writing V O E)

theorem events_act (rehearsal : Rehearsal) (deed : Deed) :
    (s.act rehearsal deed).events = s.events ++ [deed.event] :=
  List.map_append

theorem written_act (rehearsal : Rehearsal) (deed : Deed) :
    (s.act rehearsal deed).written = s.written ++ deed.own?.toList := by
  rw [written, act, List.filterMap_append]
  cases deed <;> rfl

theorem run_cons (move : Move E) (rest : List (Move E)) :
    s.run f records (move :: rest) = (s.step f records move).run f records rest := rfl

theorem run_append (moves more : List (Move E)) :
    s.run f records (moves ++ more) = (s.run f records moves).run f records more :=
  List.foldl_append

theorem tailer_turn (late : Option Position) : (s.turn records late).tailer = s.tailer := by
  unfold turn
  repeat' split
  all_goals rfl

theorem applied_turn (late : Option Position) : (s.turn records late).applied = s.applied := by
  unfold turn
  repeat' split
  all_goals rfl

theorem deeds_turn (late : Option Position) : (s.turn records late).deeds = s.deeds ∨
    ∃ record, (s.turn records late).deeds = s.deeds ++ [.own record] := by
  unfold turn
  repeat' split
  all_goals first | exact .inl rfl | exact .inr ⟨_, rfl⟩

theorem others_step (move : Move E) :
    (s.step f records move).deeds.filterMap Deed.other? =
      s.deeds.filterMap Deed.other? ++ move.other?.toList := by
  cases move with
  | turn late =>
    rcases deeds_turn records s late with same | ⟨record, more⟩
    · rw [step, same]
      exact (List.append_nil _).symm
    · rw [step, more, List.filterMap_append]
      rfl
  | log event => exact List.filterMap_append
  | poll | consume | close | leave | accept accepted | surroundings change =>
    exact (List.append_nil _).symm

theorem others_run (moves : List (Move E)) :
    (s.run f records moves).deeds.filterMap Deed.other? =
      s.deeds.filterMap Deed.other? ++ moves.filterMap Move.other? := by
  induction moves generalizing s with
  | nil => exact (List.append_nil _).symm
  | cons move rest ih =>
    rw [run_cons, ih, others_step, List.append_assoc]
    cases move <;> rfl

theorem run_consumes (count : Nat) :
    let t := s.run f records (List.replicate count .consume)
    t.rehearsal = s.rehearsal ∧ t.stage = s.stage ∧ t.deeds = s.deeds ∧
      t.tailer = (Tailer.drain f count (s.tailer, s.shared)).1 := by
  induction count generalizing s with
  | zero => exact ⟨rfl, rfl, rfl, rfl⟩
  | succ count ih => exact ih (s.step f records .consume)

theorem applied_step (move : Move E) :
    (s.step f records move).tailer.replica.counters.applied + s.applied.length =
      s.tailer.replica.counters.applied + (s.step f records move).applied.length := by
  cases move with
  | turn late => rw [step, tailer_turn, applied_turn]
  | consume =>
    simp only [step, Tailer.applied_consume, List.length_append]
    omega
  | poll =>
    simp only [step, Tailer.poll]
    split
    · rfl
    · split <;> rfl
  | leave =>
    rw [step, Tailer.leave]
    split <;> rfl
  | log event | close | accept accepted | surroundings change => rfl

theorem applied_run (moves : List (Move E)) :
    (s.run f records moves).tailer.replica.counters.applied + s.applied.length =
      s.tailer.replica.counters.applied + (s.run f records moves).applied.length := by
  induction moves generalizing s with
  | nil => rfl
  | cons move rest ih =>
    have one := applied_step f records s move
    have onward := ih (s.step f records move)
    rw [run_cons]
    omega

/-- A step takes no record, or one, which a running store applies if it decodes. -/
theorem taken_step (move : Move E) :
    (s.step f records move).tailer.consumed = s.tailer.consumed ∧
        (s.step f records move).applied = s.applied ∨
      ∃ record, (s.step f records move).tailer.consumed = s.tailer.consumed ++ [record] ∧
        (s.step f records move).applied = s.applied ++
          if !s.tailer.replica.progress.stopped && (Decoded.ofRecord f.codec record).isEntry
          then [record] else [] := by
  cases move with
  | turn late => exact .inl ⟨by rw [step, tailer_turn], by rw [step, applied_turn]⟩
  | poll =>
    rw [step, Tailer.poll]
    split
    · exact .inl ⟨rfl, rfl⟩
    · split <;> exact .inl ⟨rfl, rfl⟩
  | consume =>
    rw [step, Tailer.consume, Tailer.applies]
    rcases s.tailer.batch with _ | ⟨_ | ⟨record, rest⟩, idle⟩
    · exact .inl ⟨rfl, List.append_nil _⟩
    · exact .inl ⟨rfl, List.append_nil _⟩
    · exact .inr ⟨record, rfl, rfl⟩
  | leave =>
    rw [step, Tailer.leave]
    split <;> exact .inl ⟨rfl, rfl⟩
  | log event | close | accept accepted | surroundings change => exact .inl ⟨rfl, rfl⟩

end

variable {f : Following V O E} {records : Replica V O → List Cluster.Item} {s : Writing V O E}

theorem applied_or_stopped_before (fresh : s.tailer.consumed = []) (moves : List (Move E))
    {record : Record} (entry : (Decoded.ofRecord f.codec record).isEntry = true)
    (taken : record ∈ (s.run f records moves).tailer.consumed) :
    record ∈ (s.run f records moves).applied ∨ s.StoppedBefore f records moves record := by
  induction moves using List.reverseRecOn with
  | nil =>
    rw [run, List.foldl_nil, fresh] at taken
    cases taken
  | append_singleton moves last ih =>
    have onward : s.run f records (moves ++ [last]) = (s.run f records moves).step f records last :=
      run_append ..
    rw [onward] at taken ⊢
    have cases := taken_step f records (s.run f records moves) last
    by_cases earlier : record ∈ (s.run f records moves).tailer.consumed
    · refine (ih earlier).imp (fun applied => ?_) fun ⟨early, before, stopped⟩ =>
        ⟨early, before.trans (List.prefix_append _ _), stopped⟩
      rcases cases with ⟨_, same⟩ | ⟨_, _, more⟩
      · rw [same]
        exact applied
      · rw [more]
        exact List.mem_append_left _ applied
    · rcases cases with ⟨same, _⟩ | ⟨new, one, more⟩
      · rw [same] at taken
        exact absurd taken earlier
      · -- The last step took the record, so what counts is whether the store ran until then.
        rw [one] at taken
        obtain rfl := List.mem_singleton.mp ((List.mem_append.mp taken).resolve_left earlier)
        cases ended : (s.run f records moves).tailer.replica.progress.stopped with
        | true => exact .inr ⟨moves, List.prefix_append _ _, ended, earlier⟩
        | false =>
          rw [more, ended, entry]
          exact .inl (List.mem_append_right _ (List.mem_singleton_self _))

theorem events_of_unwritten (unwritten : s.written = []) :
    s.events = s.deeds.filterMap Deed.other? := by
  have every (deeds : List Deed) (none : deeds.filterMap Deed.own? = []) :
      deeds.map Deed.event = deeds.filterMap Deed.other? := by
    induction deeds with
    | nil => rfl
    | cons deed rest ih =>
      cases deed with
      | own record => cases none
      | other event => exact congrArg (event :: ·) (ih none)
  exact every s.deeds unwritten

theorem step_of_answered {outcome : Except StoreError Unit} (answered : s.stage = .answered outcome)
    (move : Move E) : (s.step f records move).stage = .answered outcome ∧
      (s.step f records move).written = s.written := by
  cases move with
  | turn late =>
    simp only [step, turn, answered]
    exact ⟨trivial, trivial⟩
  | log event =>
    refine ⟨answered, ?_⟩
    rw [step, written_act]
    exact List.append_nil _
  | poll | consume | close | leave | accept accepted | surroundings change => exact ⟨answered, rfl⟩

theorem run_of_answered {outcome : Except StoreError Unit} (answered : s.stage = .answered outcome)
    (moves : List (Move E)) : (s.run f records moves).stage = .answered outcome ∧
      (s.run f records moves).written = s.written := by
  induction moves generalizing s with
  | nil => exact ⟨answered, rfl⟩
  | cons move rest ih =>
    obtain ⟨still, same⟩ := step_of_answered (f := f) answered move
    rw [run_cons, ← same]
    exact ih still

theorem running_of_step {move : Move E}
    (goes_on : (s.step f records move).tailer.replica.progress.stopped = false) :
    s.tailer.replica.progress.stopped = false := by
  refine Bool.eq_false_iff.mpr fun ended => Bool.eq_false_iff.mp goes_on ?_
  cases move with
  | turn late => rw [step, tailer_turn, ended]
  | poll => simp only [step, Tailer.poll, ended, Bool.true_or, ite_true]
  | consume =>
    simp only [step, Tailer.consume]
    split
    · exact ended
    · obtain ⟨caughtUp, same⟩ := s.tailer.replica.endOfBatch_eq ‹Bool›
      simp only [same, ended]
    · simp only [Replica.consume_of_stopped ended, ended]
  | leave =>
    rw [step, Tailer.leave]
    split
    · rfl
    · exact ended
  | log event | close | accept accepted | surroundings change => exact ended

theorem running_of_run {moves : List (Move E)}
    (goes_on : (s.run f records moves).tailer.replica.progress.stopped = false) :
    s.tailer.replica.progress.stopped = false := by
  induction moves generalizing s with
  | nil => exact goes_on
  | cons move rest ih => exact running_of_step (ih goes_on)

theorem items_step {move : Move E} (underway : (s.step f records move).stage.isUnderway = true) :
    (s.step f records move).items = records s.tailer.replica ∨
      s.stage.isUnderway = true ∧ (s.step f records move).items = s.items := by
  cases move with
  | turn late =>
    revert underway
    simp only [step, turn]
    split
    · split <;> nofun
    · exact fun _ => .inl rfl
    · next stage => exact fun _ => .inr ⟨by rw [stage]; rfl, rfl⟩
    · nofun
    · next stage =>
      split
      · nofun
      · exact fun _ => .inr ⟨by rw [stage]; rfl, rfl⟩
    · next stage =>
      split
      · nofun
      · nofun
      · split
        · nofun
        · exact fun _ => .inr ⟨by rw [stage]; rfl, rfl⟩
    · exact fun underway => .inr ⟨underway, rfl⟩
  | poll | consume | log event | leave | close | accept accepted | surroundings change =>
    exact .inr ⟨underway, rfl⟩

theorem items_run {moves : List (Move E)} (arriving : s.stage.isUnderway = false)
    (underway : (s.run f records moves).stage.isUnderway = true) :
    ∃ early, early <+: moves ∧
      (s.run f records moves).items = records (s.run f records early).tailer.replica := by
  induction moves using List.reverseRecOn with
  | nil => exact absurd (arriving.symm.trans underway) Bool.false_ne_true
  | append_singleton moves last ih =>
    rw [run_append] at underway ⊢
    rcases items_step underway with now | ⟨earlier, same⟩
    · exact ⟨moves, List.prefix_append _ _, now⟩
    · obtain ⟨early, before, listed⟩ := ih earlier
      exact ⟨early, before.trans (List.prefix_append _ _), same.trans listed⟩

end Writing

end RoadRegistry
