import RoadRegistry.Inspection.Bench
import RoadRegistry.Proofs.Inspection.Isolation
import RoadRegistry.Proofs.Reaction.Accounting

namespace RoadRegistry

def Question.method : Question V → String
  | .added _ => "new"
  | .updated _ _ => "update"
  | .removed _ => "delete"
  | .inspected _ => "inspect"

def Question.note (asked : String × Question V) : String := asked.2.method ++ ":" ++ asked.1

/-- The agent writes down each question that it is asked, and the emitter writes nothing. -/
structure Binding.Notes (b : Binding V E) (notes : E → List String) : Prop where
  added : ∀ key value shared, notes (b.agent.added key value shared).2 =
    notes shared ++ [Question.note (key, .added value)]
  updated : ∀ key old new shared, notes (b.agent.updated key old new shared).2 =
    notes shared ++ [Question.note (key, .updated old new)]
  removed : ∀ key old shared, notes (b.agent.removed key old shared).2 =
    notes shared ++ [Question.note (key, .removed old)]
  inspected : ∀ key value shared, notes (b.agent.inspected key value shared).2 =
    notes shared ++ [Question.note (key, .inspected value)]
  emitted : ∀ patch shared, notes (b.emitter patch shared).2 = notes shared

namespace Binding.Notes

variable {b : Binding V E} {notes : E → List String}

theorem emit (noted : b.Notes notes) (key : String) (operations : List Patch.Operation)
    (stats : ReactionStats) (shared : E) :
    notes (b.emit key operations stats shared).2 = notes shared := by
  have sent := noted.emitted ⟨key, operations⟩ shared
  unfold Binding.emit
  split
  · rfl
  · split
    · next handed => rw [← sent, handed]
    · next handed => rw [← sent, handed]

theorem settle (noted : b.Notes notes) (key : String) (stats : ReactionStats)
    (call : Outcome (List Patch.Operation) × E) :
    notes (settle stats call (b.emit key)).2 = notes call.2 := by
  obtain ⟨outcome, shared⟩ := call
  cases outcome with
  | returned operations => exact noted.emit key operations stats shared
  | failed report => rfl
  | panicked => rfl

theorem react (noted : b.Notes notes) (key : String) (change : Change V) (stats : ReactionStats)
    (shared : E) : notes (b.react key change stats shared).2 =
      notes shared ++ (Change.questions b.same [(key, change)]).map Question.note := by
  cases change with
  | new value =>
    simp only [Binding.react]
    rw [noted.settle, noted.added]
    rfl
  | update old value =>
    simp only [Binding.react]
    cases equal : b.same old value with
    | true => simp [Change.questions, Change.question?, equal]
    | false =>
      rw [if_neg (by simp), noted.settle, noted.updated]
      simp [Change.questions, Change.question?, equal]
  | remove old =>
    have written := noted.removed key old shared
    simp only [Binding.react]
    rcases called : b.agent.removed key old shared with ⟨answer, after⟩
    rw [called] at written
    cases answer <;> exact written

theorem turn (noted : b.Notes notes) (turn : Turn V) (gate : Gate) (stats : ReactionStats)
    (shared : E) : notes (turn.run b (⟨gate, .active stats⟩, shared)).2 = notes shared ++
      (Change.questions b.same (Turn.heard gate.muted [turn])).map Question.note := by
  cases turn with
  | switched muted =>
    rw [Turn.run_switched]
    exact (List.append_nil _).symm
  | told get key change =>
    obtain ⟨muted, suppressed⟩ := gate
    cases muted with
    | true =>
      rw [Turn.run_told_of_muted b rfl]
      exact (List.append_nil _).symm
    | false =>
      rw [Turn.run_told_of_unmuted b rfl]
      exact noted.react key change stats shared

theorem inspect (noted : b.Notes notes) (now : E → UInt64) (report : ScanReport) (shared : E)
    (document : String × V) :
    notes (Inspector.inspect ⟨b.agent, b.emitter, now⟩ (report, shared) document).2 =
      notes shared ++ [Question.note (Inspector.question document)] := by
  obtain ⟨key, value⟩ := document
  have asked := noted.inspected key value shared
  simp only [Inspector.inspect]
  rcases called : b.agent.inspected key value shared with ⟨answer, after⟩
  rw [called] at asked
  cases answer with
  | failed report => exact asked
  | panicked => exact asked
  | returned operations =>
    cases operations with
    | nil => exact asked
    | cons first rest =>
      have sent := noted.emitted ⟨key, first :: rest⟩ after
      simp only
      rcases handed : b.emitter ⟨key, first :: rest⟩ after with ⟨reply, final⟩
      rw [handed] at sent
      cases reply <;> exact sent.trans asked

theorem scan (noted : b.Notes notes) (now : E → UInt64) (documents : List (String × V))
    (shared : E) : notes (Inspector.scan ⟨b.agent, b.emitter, now⟩ documents shared).2 =
      notes shared ++ (documents.map Inspector.question).map Question.note := by
  have folded (report : ScanReport) (shared : E) :
      notes (documents.foldl (Inspector.inspect ⟨b.agent, b.emitter, now⟩) (report, shared)).2 =
        notes shared ++ (documents.map Inspector.question).map Question.note := by
    induction documents generalizing report shared with
    | nil => exact (List.append_nil _).symm
    | cons document rest ih =>
      let next := Inspector.inspect ⟨b.agent, b.emitter, now⟩ (report, shared) document
      have first : notes next.2 = _ := noted.inspect now report shared document
      rw [List.foldl_cons, List.map_cons, List.map_cons, List.append_cons, ← first]
      exact ih next.1 next.2
  exact folded {} shared

end Binding.Notes

theorem Script.agent_notes (script : Script) (same : V → V → Bool) :
    (Surroundings.bind (script.agent.within Surroundings.rehearsedPart) same).Notes
      fun surroundings => surroundings.rehearsed.calls := by
  have played (table : List (String × Line)) (method key : String) (state : Rehearsed) :
      (play table method key state).2.calls = state.calls ++ [method ++ ":" ++ key] := by
    unfold play
    dsimp only
    split <;> rfl
  refine ⟨fun key _ shared => played script.change "new" key _,
    fun key _ _ shared => played script.change "update" key _, fun key _ shared => ?_,
    fun key _ shared => played script.inspect "inspect" key _, fun _ _ => rfl⟩
  have written := played script.delete "delete" key shared.rehearsed
  simp only [Surroundings.bind, Agent.within, Agent.within.lift, agent, Surroundings.rehearsedPart]
  rcases called : play script.delete "delete" key shared.rehearsed with ⟨outcome, after⟩
  rw [called] at written
  cases outcome <;> exact written

theorem Turn.heard_cons (b : Binding V E) (turn : Turn V) (gate : Gate) (stats : ReactionStats)
    (shared : E) (rest : List (Turn V)) : heard gate.muted (turn :: rest) =
      heard gate.muted [turn] ++
        heard (turn.run b (⟨gate, .active stats⟩, shared)).1.gate.muted rest := by
  cases turn with
  | switched muted =>
    rw [run_switched]
    rfl
  | told get key change =>
    obtain ⟨muted, suppressed⟩ := gate
    cases muted <;> rfl

theorem Turn.run_tally (b : Binding V E) (turn : Turn V) (gate : Gate)
    (past : List (String × Change V)) (said : List (Exchange V)) (shared : E) :
    let heard := heard gate.muted [turn]
    ∃ more, Conversation (Change.questions b.same heard) more ∧
      (turn.run b (⟨gate, .active (.tally b.same past said)⟩, shared)).1.inner =
        .active (.tally b.same (past ++ heard) (said ++ more)) := by
  intro heard
  obtain ⟨more, conversation, counted, _, _, same⟩ :=
    run_traced b [turn] gate past said shared
  refine ⟨more, conversation, ?_⟩
  rw [List.foldl_cons, List.foldl_nil] at same
  rw [same]
  exact counted

namespace Bench

variable {b : Binding V Surroundings} {bench : Bench V}

inductive Step (V : Type) where
  | change (key : String) (change : Change V)
  | switch (muted : Bool)
  | scan

def Step.turn? : Step V → Option (Turn V)
  | .change key made => some (.told (fun _ => none) key made)
  | .switch muted => some (.switched muted)
  | .scan => none

def step (b : Binding V Surroundings) (bench : Bench V) : Step V → Bench V
  | .change key change => bench.change b key change
  | .switch muted =>
    { bench with reaction := if muted then bench.reaction.mute else bench.reaction.unmute }
  | .scan => (bench.scan b).2

theorem step_of_turn {next : Step V} {turn : Turn V} (is_turn : next.turn? = some turn) :
    bench.step b next = { bench with
      reaction := (turn.run b (bench.reaction, bench.surroundings)).1
      surroundings := (turn.run b (bench.reaction, bench.surroundings)).2 } := by
  cases next with
  | change key change => cases is_turn; rfl
  | switch muted => cases is_turn; rfl
  | scan => cases is_turn

def asked (same : V → V → Bool) (documents : List (String × V)) :
    Bool → List (Step V) → List (String × Question V)
  | _, [] => []
  | muted, .change key change :: rest =>
    (if muted then [] else Change.questions same [(key, change)]) ++ asked same documents muted rest
  | _, .switch muted :: rest => asked same documents muted rest
  | muted, .scan :: rest => documents.map Inspector.question ++ asked same documents muted rest

theorem scanTimes_eq_foldl (count : Nat) :
    bench.scanTimes b count = (List.replicate count Step.scan).foldl (step b) bench := by
  induction count generalizing bench with
  | zero => rfl
  | succ count ih => exact ih

/-- Whatever is done on a bench, and in whatever order: the reaction deals with the changes that it
hears as it does anywhere, and inspectors make no difference to what it counts. -/
theorem reaction_foldl_step (b : Binding V Surroundings) (steps : List (Step V)) (gate : Gate)
    (past : List (String × Change V)) (said : List (Exchange V)) (documents : List (String × V))
    (schedule : Schedule) (surroundings : Surroundings) :
    let start : Bench V :=
      ⟨⟨gate, .active (.tally b.same past said)⟩, schedule, documents, surroundings⟩
    let after := steps.foldl (step b) start
    let heard := Turn.heard gate.muted (steps.filterMap Step.turn?)
    after.documents = documents ∧ after.schedule = schedule ∧
      ∃ more, Conversation (Change.questions b.same heard) more ∧
        after.reaction.inner = .active (.tally b.same (past ++ heard) (said ++ more)) := by
  induction steps generalizing gate past said surroundings with
  | nil =>
    refine ⟨rfl, rfl, [], .nil, ?_⟩
    rw [List.append_nil]
    exact congrArg (Reaction.active ∘ (ReactionStats.tally b.same · said)) past.append_nil.symm
  | cons next rest ih =>
    simp only [List.foldl_cons]
    cases is_turn : next.turn? with
    | none =>
      cases next with
      | scan =>
        rw [List.filterMap_cons_none is_turn]
        exact ih gate past said _
      | change key change => cases is_turn
      | switch muted => cases is_turn
    | some turn =>
      obtain ⟨now, conversation, counted⟩ := turn.run_tally b gate past said surroundings
      have gone_on := Turn.heard_cons b turn gate (.tally b.same past said) surroundings
        (rest.filterMap Step.turn?)
      rw [step_of_turn is_turn, List.filterMap_cons_some is_turn, gone_on]
      simp only
      rcases ran : turn.run b (⟨gate, .active (.tally b.same past said)⟩, surroundings) with
        ⟨⟨gate', reaction⟩, after⟩
      rw [ran] at counted
      obtain rfl : reaction = _ := counted
      obtain ⟨same_documents, same_schedule, more, conversations, recounted⟩ :=
        ih gate' (past ++ Turn.heard gate.muted [turn]) (said ++ now) after
      rw [List.append_assoc, List.append_assoc] at recounted
      refine ⟨same_documents, same_schedule, now ++ more, ?_, recounted⟩
      rw [Change.questions_append]
      exact conversation.append conversations

theorem scan_accounted_for (b : Binding V Surroundings) (bench : Bench V) :
    let after := (bench.scan b).2
    after.reaction = bench.reaction ∧ after.documents = bench.documents ∧
      ∃ said, Conversation (bench.documents.map Inspector.question) said ∧
        (bench.scan b).1 = { ({} : ScanReport).count said with
          startedAt := bench.surroundings.now, finishedAt := after.surroundings.now } := by
  intro after
  obtain ⟨conversation, reported, same⟩ := Inspector.scan_traced
    ⟨b.agent, b.emitter, Surroundings.now⟩ bench.documents bench.surroundings
  refine ⟨rfl, rfl, _, conversation, ?_⟩
  simp only [after, scan, same]
  exact reported

theorem notes_foldl_step {notes : Surroundings → List String} (noted : b.Notes notes)
    (steps : List (Step V)) (gate : Gate) (stats : ReactionStats) (schedule : Schedule)
    (documents : List (String × V)) (surroundings : Surroundings) :
    notes (steps.foldl (step b)
        ⟨⟨gate, .active stats⟩, schedule, documents, surroundings⟩).surroundings =
      notes surroundings ++ (asked b.same documents gate.muted steps).map Question.note := by
  induction steps generalizing gate stats surroundings with
  | nil => exact (List.append_nil _).symm
  | cons next rest ih =>
    rw [List.foldl_cons]
    cases next with
    | scan =>
      have scanned := noted.scan Surroundings.now documents surroundings
      rw [asked, List.map_append, ← List.append_assoc, ← scanned]
      exact ih gate stats _
    | switch muted => cases muted <;> exact ih { gate with muted := _ } stats surroundings
    | change key change =>
      have told := noted.turn (.told (fun _ => none) key change) gate stats surroundings
      have is_turn : (Step.change key change).turn? = some (.told (fun _ => none) key change) := rfl
      rw [step_of_turn is_turn, asked, List.map_append]
      obtain ⟨muted, suppressed⟩ := gate
      cases muted with
      | true => exact ih ⟨true, suppressed + 1⟩ stats surroundings
      | false =>
        rw [Turn.run_told_of_unmuted b rfl] at told ⊢
        rw [← List.append_assoc]
        exact (ih ⟨false, suppressed⟩ _ _).trans (congrArg (· ++ _) told)

/-- A script is asked what the changes that get past the gate and the documents of the inspectors
call for, and nothing else. -/
theorem calls_of_script (script : Script) (same : V → V → Bool) (steps : List (Step V))
    (gate : Gate) (stats : ReactionStats) (schedule : Schedule) (documents : List (String × V))
    (surroundings : Surroundings) :
    let b := Surroundings.bind (script.agent.within Surroundings.rehearsedPart) same
    let after := steps.foldl (step b) ⟨⟨gate, .active stats⟩, schedule, documents, surroundings⟩
    after.surroundings.rehearsed.calls = surroundings.rehearsed.calls ++
      (asked same documents gate.muted steps).map Question.note :=
  notes_foldl_step (script.agent_notes same) steps gate stats schedule documents surroundings

end Bench

end RoadRegistry
