import RoadRegistry.Proofs.Reaction.Transcript
import RoadRegistry.Reaction.Basic

namespace RoadRegistry

namespace Change

/-- What an agent is asked about a change. An update that leaves the document as it was is no
question. -/
def question? (same : V → V → Bool) : Change V → Option (Question V)
  | .new value => some (.added value)
  | .update old value => if same old value then none else some (.updated old value)
  | .remove old => some (.removed old)

def questions (same : V → V → Bool) (changes : List (String × Change V)) :
    List (String × Question V) :=
  changes.filterMap fun told => (told.2.question? same).map fun question => (told.1, question)

theorem questions_append (same : V → V → Bool) (changes more : List (String × Change V)) :
    questions same (changes ++ more) = questions same changes ++ questions same more :=
  List.filterMap_append

end Change

namespace ReactionStats

def count (stats : ReactionStats) (more : List (Exchange V)) : ReactionStats where
  emitted := stats.emitted + more.countP Exchange.isAccepted
  agentFailures := stats.agentFailures + more.countP Exchange.isUnanswered
  emitFailures := stats.emitFailures + more.countP Exchange.isRefused
  unchanged := stats.unchanged

def tally (same : V → V → Bool) (heard : List (String × Change V)) (said : List (Exchange V)) :
    ReactionStats where
  emitted := said.countP Exchange.isAccepted
  agentFailures := said.countP Exchange.isUnanswered
  emitFailures := said.countP Exchange.isRefused
  unchanged := heard.countP fun told => (told.2.question? same).isNone

variable {same : V → V → Bool} {heard : List (String × Change V)} {said : List (Exchange V)}

theorem tally_asked {key : String} {change : Change V} {question : Question V}
    (asks : change.question? same = some question) (more : List (Exchange V)) :
    tally same (heard ++ [(key, change)]) (said ++ more) =
      (tally same heard said).count more := by
  simp [tally, count, asks]

theorem tally_idle {key : String} {change : Change V} (idle : change.question? same = none) :
    tally same (heard ++ [(key, change)]) said =
      { tally same heard said with unchanged := (tally same heard said).unchanged + 1 } := by
  simp [tally, idle]

end ReactionStats

namespace Binding

def traced (b : Binding V E) : Binding V (E × List (Exchange V)) :=
  ⟨b.agent.traced, b.emitter.traced, b.same⟩

theorem emit_traced (b : Binding V E) (key : String) {operations : List Patch.Operation}
    (something : operations ≠ []) (stats : ReactionStats) (shared : E)
    (said : List (Exchange V)) :
    let reply := (b.emitter ⟨key, operations⟩ shared).1
    let plain := b.emit key operations stats shared
    b.traced.emit key operations stats (shared, said) =
        (plain.1, plain.2, said ++ [.handed ⟨key, operations⟩ reply]) ∧
      ∀ question : Question V, plain.1 = stats.count
        [.asked key question (.returned operations), .handed ⟨key, operations⟩ reply] := by
  intro reply plain
  have nonempty : operations.isEmpty = false := by simpa using something
  have written : b.traced.emitter ⟨key, operations⟩ (shared, said) =
      (reply, (b.emitter ⟨key, operations⟩ shared).2,
        said ++ [.handed ⟨key, operations⟩ reply]) := rfl
  simp only [plain, emit, nonempty, Bool.false_eq_true, ite_false, written, reply]
  rcases b.emitter ⟨key, operations⟩ shared with ⟨_ | _, after⟩
  · exact ⟨rfl, fun _ => rfl⟩
  · exact ⟨rfl, fun _ => rfl⟩

theorem settle_traced (b : Binding V E) (key : String) (question : Question V)
    (alive : question.isRemoval = false) (stats : ReactionStats)
    (call : Outcome (List Patch.Operation) × E) (said : List (Exchange V)) :
    let plain := settle stats call (b.emit key)
    ∃ more, Dialogue key question more ∧ plain.1 = stats.count more ∧
      settle stats (Agent.traced.write key question id call said) (b.traced.emit key) =
        (plain.1, plain.2, said ++ more) := by
  obtain ⟨outcome, shared⟩ := call
  cases outcome with
  | failed report => exact ⟨[.asked key question (.failed report)], .kept rfl, rfl, rfl⟩
  | panicked => exact ⟨[.asked key question .panicked], .kept rfl, rfl, rfl⟩
  | returned operations =>
    by_cases nothing : operations = []
    · subst nothing
      exact ⟨[.asked key question (.returned [])], .kept rfl, rfl, rfl⟩
    · obtain ⟨handed, counted⟩ := b.emit_traced key nothing stats shared
        (said ++ [.asked key question (.returned operations)])
      refine ⟨_, .published nothing alive _, counted question, handed.trans ?_⟩
      rw [List.append_assoc]
      rfl

theorem react_traced (b : Binding V E) (heard : List (String × Change V))
    (said : List (Exchange V)) (key : String) (change : Change V) (shared : E) :
    let stats := ReactionStats.tally b.same heard said
    let plain := b.react key change stats shared
    ∃ more, Conversation (Change.questions b.same [(key, change)]) more ∧
      plain.1 = .tally b.same (heard ++ [(key, change)]) (said ++ more) ∧
      b.traced.react key change stats (shared, said) = (plain.1, plain.2, said ++ more) := by
  intro stats plain
  cases change with
  | new value =>
    obtain ⟨more, dialogue, counted, written⟩ :=
      b.settle_traced key (.added value) rfl stats (b.agent.added key value shared) said
    exact ⟨more, .of_dialogue dialogue, counted.trans (ReactionStats.tally_asked rfl more).symm,
      written⟩
  | update old value =>
    cases equal : b.same old value with
    | true =>
      have idle : (Change.update old value).question? b.same = none := if_pos equal
      have unasked : plain = ({ stats with unchanged := stats.unchanged + 1 }, shared) :=
        if_pos equal
      have unwritten : b.traced.react key (.update old value) stats (shared, said) =
          ({ stats with unchanged := stats.unchanged + 1 }, shared, said) := if_pos equal
      refine ⟨[], ?_, ?_, ?_⟩
      · rw [Change.questions, List.filterMap_cons, idle]
        exact .nil
      · rw [List.append_nil, ReactionStats.tally_idle idle, unasked]
      · rw [unwritten, unasked, List.append_nil]
    | false =>
      have asks : (Change.update old value).question? b.same = some (.updated old value) :=
        if_neg (by simp [equal])
      obtain ⟨more, dialogue, counted, written⟩ :=
        b.settle_traced key (.updated old value) rfl stats (b.agent.updated key old value shared)
          said
      have put : plain = settle stats (b.agent.updated key old value shared) (b.emit key) :=
        if_neg (by simp [equal])
      have written_down : b.traced.react key (.update old value) stats (shared, said) = _ :=
        if_neg (by simp [traced, equal])
      refine ⟨more, ?_, ?_, ?_⟩
      · rw [Change.questions, List.filterMap_cons, asks]
        exact .of_dialogue dialogue
      · rw [put, ReactionStats.tally_asked asks]
        exact counted
      · rw [put, written_down]
        exact written
  | remove old =>
    have asks : (Change.remove old).question? b.same = some (.removed old) := rfl
    rcases called : b.agent.removed key old shared with ⟨answer, after⟩
    refine ⟨[.asked key (.removed old) (answer.map fun () => [])], .of_dialogue (.kept ?_), ?_⟩
    · cases answer <;> rfl
    · rw [ReactionStats.tally_asked asks]
      simp only [plain, react, called, traced, Agent.traced, Agent.traced.write]
      cases answer <;> exact ⟨rfl, rfl⟩

end Binding

/-- A change that comes to the gate, with what the replica gives at that moment, or a switch of the
gate. -/
inductive Turn (V : Type) where
  | told (get : String → Option V) (key : String) (change : Change V)
  | switched (muted : Bool)

namespace Turn

def run (b : Binding V E) (state : Gated Reaction × E) : Turn V → Gated Reaction × E
  | .told get key change =>
    let notice := Gated.notify (Reaction.notify b) get key change state.1 state.2
    (notice.observer, notice.shared)
  | .switched muted => (if muted then state.1.mute else state.1.unmute, state.2)

def arrivals : Bool → List (Turn V) → List (Bool × String × Change V)
  | _, [] => []
  | muted, .told _ key change :: rest => (muted, key, change) :: arrivals muted rest
  | _, .switched muted :: rest => arrivals muted rest

def heard (muted : Bool) (turns : List (Turn V)) : List (String × Change V) :=
  ((arrivals muted turns).filter fun arrival => !arrival.1).map (·.2)

variable {gate : Gate} {reaction : Reaction}

theorem run_switched (b : Binding V E) (muted : Bool) (shared : E) :
    run b (⟨gate, reaction⟩, shared) (.switched muted) =
      (⟨{ gate with muted }, reaction⟩, shared) := by
  cases muted <;> rfl

theorem run_told_of_muted (b : Binding V E) (closed : gate.muted = true)
    (get : String → Option V) (key : String) (change : Change V) (shared : E) :
    run b (⟨gate, reaction⟩, shared) (.told get key change) =
      (⟨{ gate with suppressed := gate.suppressed + 1 }, reaction⟩, shared) := by
  simp only [run, Gated.notify, closed, ite_true]

theorem run_told_of_unmuted (b : Binding V E) (opened : gate.muted = false)
    (get : String → Option V) (key : String) (change : Change V) (stats : ReactionStats)
    (shared : E) :
    run b (⟨gate, .active stats⟩, shared) (.told get key change) =
      (⟨gate, .active (b.react key change stats shared).1⟩,
        (b.react key change stats shared).2) := by
  simp only [run, Gated.notify, opened, Bool.false_eq_true, ite_false, Reaction.notify]

theorem run_traced (b : Binding V E) (turns : List (Turn V)) (gate : Gate)
    (past : List (String × Change V)) (said : List (Exchange V)) (shared : E) :
    let s := turns.foldl (run b.traced) (⟨gate, .active (.tally b.same past said)⟩, shared, said)
    let changes := heard gate.muted turns
    ∃ more, Conversation (Change.questions b.same changes) more ∧
      s.1.inner = .active (.tally b.same (past ++ changes) (said ++ more)) ∧
      s.2.2 = said ++ more ∧
      s.1.gate.suppressed = gate.suppressed + (arrivals gate.muted turns).countP (·.1) ∧
      turns.foldl (run b) (⟨gate, .active (.tally b.same past said)⟩, shared) = (s.1, s.2.1) := by
  induction turns generalizing gate past said shared with
  | nil =>
    refine ⟨[], .nil, ?_, (List.append_nil said).symm, rfl, rfl⟩
    rw [List.append_nil]
    exact congrArg (Reaction.active ∘ (ReactionStats.tally b.same · said)) past.append_nil.symm
  | cons turn rest ih =>
    cases turn with
    | switched muted =>
      simp only [List.foldl_cons, run_switched]
      exact ih { gate with muted } past said shared
    | told get key change =>
      obtain ⟨muted, suppressed⟩ := gate
      cases muted with
      | true =>
        obtain ⟨more, conversation, counted, written, dropped, same⟩ :=
          ih ⟨true, suppressed + 1⟩ past said shared
        simp only [List.foldl_cons, run_told_of_muted]
        refine ⟨more, conversation, counted, written, dropped.trans ?_, same⟩
        rw [arrivals, List.countP_cons_of_pos rfl, Nat.add_right_comm, Nat.add_assoc]
      | false =>
        obtain ⟨now, conversation, tallied, recorded⟩ :=
          b.react_traced past said key change shared
        obtain ⟨more, conversations, counted, written, dropped, same⟩ :=
          ih ⟨false, suppressed⟩ (past ++ [(key, change)]) (said ++ now)
            (b.react key change (.tally b.same past said) shared).2
        simp only [List.foldl_cons, run_told_of_unmuted, recorded, tallied]
        rw [List.append_assoc] at written
        rw [List.append_assoc, List.append_assoc] at counted
        refine ⟨now ++ more, ?_, counted, written, dropped, same⟩
        exact Change.questions_append b.same [(key, change)] _ ▸ conversation.append conversations

end Turn

/-- A reaction emits exactly what its agent asks for. Over any changes and any switching of the
gate, whatever the agent and the emitter do: changes that find the gate muted are only counted
there. Of the others, each one that changes something is put to the agent once, in its turn, and
each patch set that the agent asks for is handed to the emitter once, before the next change is
looked at. The counters are the numbers of patch sets accepted and refused, of calls that failed or
panicked, and of updates that changed nothing. -/
theorem Reaction.emits_what_agent_asks_for (b : Binding V E) (muted : Bool) (shared : E)
    (turns : List (Turn V)) :
    let fresh : Gated Reaction := ⟨{ muted }, .active {}⟩
    let s := turns.foldl (Turn.run b.traced) (fresh, shared, [])
    let said := s.2.2
    let heard := Turn.heard muted turns
    turns.foldl (Turn.run b) (fresh, shared) = (s.1, s.2.1) ∧
      s.1.gate.suppressed = (Turn.arrivals muted turns).countP (·.1) ∧
      said.filterMap Exchange.question? = Change.questions b.same heard ∧
      Conversation (Change.questions b.same heard) said ∧
      said.filterMap Exchange.patch? = said.filterMap Exchange.wanted? ∧
      s.1.inner = .active {
        emitted := said.countP Exchange.isAccepted
        emitFailures := said.countP Exchange.isRefused
        agentFailures := said.countP Exchange.isUnanswered
        unchanged := heard.countP fun told => (told.2.question? b.same).isNone } := by
  intro fresh s said heard
  obtain ⟨more, conversation, counted, written, dropped, same⟩ :=
    Turn.run_traced b turns { muted } [] [] shared
  obtain rfl : said = more := written
  refine ⟨same, dropped.trans (Nat.zero_add _), conversation.asks, conversation,
    conversation.hands, counted⟩

end RoadRegistry
