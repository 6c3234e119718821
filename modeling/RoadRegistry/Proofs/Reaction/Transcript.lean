import RoadRegistry.Reaction.Agent

namespace RoadRegistry

inductive Question (V : Type) where
  | added (value : V)
  | updated (old new : V)
  | removed (old : V)
  | inspected (value : V)

def Question.isRemoval : Question V → Bool
  | .removed _ => true
  | .added _ | .updated _ _ | .inspected _ => false

inductive Exchange (V : Type) where
  /-- An agent that is told of a removal has nothing to answer, and counts as asking for nothing. -/
  | asked (key : String) (question : Question V) (answer : Outcome (List Patch.Operation))
  | handed (patch : PatchSet) (reply : Except Report Unit)

def Outcome.map (change : α → β) : Outcome α → Outcome β
  | .returned value => .returned (change value)
  | .failed report => .failed report
  | .panicked => .panicked

theorem Outcome.map_id (outcome : Outcome α) : outcome.map id = outcome := by
  cases outcome <;> rfl

def Outcome.operations : Outcome (List Patch.Operation) → List Patch.Operation
  | .returned operations => operations
  | .failed _ | .panicked => []

def Agent.traced (agent : Agent V E) : Agent V (E × List (Exchange V)) where
  added key value state := write key (.added value) id (agent.added key value state.1) state.2
  updated key old new state :=
    write key (.updated old new) id (agent.updated key old new state.1) state.2
  removed key old state :=
    write key (.removed old) (fun () => []) (agent.removed key old state.1) state.2
  inspected key value state :=
    write key (.inspected value) id (agent.inspected key value state.1) state.2
where
  write {α : Type} (key : String) (question : Question V) (operations : α → List Patch.Operation)
      (call : Outcome α × E) (said : List (Exchange V)) : Outcome α × E × List (Exchange V) :=
    (call.1, call.2, said ++ [.asked key question (call.1.map operations)])

def Emitter.traced (emitter : Emitter E) : Emitter (E × List (Exchange V)) := fun patch state =>
  let (reply, shared) := emitter patch state.1
  (reply, shared, state.2 ++ [.handed patch reply])

theorem Agent.traced_inspected {agent : Agent V E} {key : String} {value : V} {shared after : E}
    {answer : Outcome (List Patch.Operation)}
    (called : agent.inspected key value shared = (answer, after)) (said : List (Exchange V)) :
    agent.traced.inspected key value (shared, said) =
      (answer, after, said ++ [.asked key (.inspected value) answer]) := by
  simp only [traced, traced.write, called, Outcome.map_id]

theorem Emitter.traced_of_sent {emitter : Emitter E} {patch : PatchSet} {shared after : E}
    {reply : Except Report Unit} (sent : emitter patch shared = (reply, after))
    (said : List (Exchange V)) :
    emitter.traced patch (shared, said) = (reply, after, said ++ [.handed patch reply]) := by
  simp only [traced, sent]

namespace Exchange

def question? : Exchange V → Option (String × Question V)
  | .asked key question _ => some (key, question)
  | .handed _ _ => none

def patch? : Exchange V → Option PatchSet
  | .asked _ _ _ => none
  | .handed patch _ => some patch

def wanted? : Exchange V → Option PatchSet
  | .asked key _ answer =>
    if answer.operations.isEmpty then none else some ⟨key, answer.operations⟩
  | .handed _ _ => none

def isUnanswered : Exchange V → Bool
  | .asked _ _ (.failed _) | .asked _ _ .panicked => true
  | .asked _ _ (.returned _) | .handed _ _ => false

def isContent : Exchange V → Bool
  | .asked _ _ (.returned []) => true
  | .asked _ _ _ | .handed _ _ => false

def isAccepted : Exchange V → Bool
  | .handed _ (.ok ()) => true
  | .handed _ (.error _) | .asked _ _ _ => false

def isRefused : Exchange V → Bool
  | .handed _ (.error _) => true
  | .handed _ (.ok ()) | .asked _ _ _ => false

theorem filter_wanted {name key : String} (same : name = key) (question : Question V)
    (answer : Outcome (List Patch.Operation)) :
    (asked name question answer).wanted?.toList.filter (·.documentId ≠ key) = [] := by
  rw [wanted?]
  split
  · rfl
  · exact List.filter_cons_of_neg (by simp [same])

end Exchange

/-- What one question leads to. Only an answer that asks for patches is handed on, and nothing is
after a removal. -/
inductive Dialogue (key : String) (question : Question V) : List (Exchange V) → Prop where
  | kept {answer : Outcome (List Patch.Operation)} (nothing : answer.operations = []) :
    Dialogue key question [.asked key question answer]
  | published {operations : List Patch.Operation} (something : operations ≠ [])
      (alive : question.isRemoval = false) (reply : Except Report Unit) :
    Dialogue key question
      [.asked key question (.returned operations), .handed ⟨key, operations⟩ reply]

theorem Dialogue.exists_answer {key : String} {question : Question V} {said : List (Exchange V)}
    (dialogue : Dialogue key question said) : ∃ answer, .asked key question answer ∈ said ∧
      said.filterMap Exchange.patch? = (Exchange.asked key question answer).wanted?.toList ∧
      said.filterMap Exchange.wanted? = (Exchange.asked key question answer).wanted?.toList := by
  cases dialogue with
  | @kept answer nothing =>
    have unwanted : (Exchange.asked key question answer).wanted? = none :=
      if_pos (List.isEmpty_iff.mpr nothing)
    refine ⟨answer, List.mem_singleton_self _, ?_, ?_⟩
    · rw [unwanted]
      rfl
    · rw [List.filterMap_cons, unwanted]
      rfl
  | @published operations something alive reply =>
    have wanted : (Exchange.asked key question (.returned operations)).wanted? =
        some ⟨key, operations⟩ :=
      if_neg (by simpa [Outcome.operations] using something)
    refine ⟨.returned operations, List.mem_cons_self, ?_, ?_⟩
    · rw [wanted]
      rfl
    · rw [List.filterMap_cons_some wanted, wanted]
      rfl

inductive Conversation : List (String × Question V) → List (Exchange V) → Prop where
  | nil : Conversation [] []
  | cons {key : String} {question : Question V} {questions : List (String × Question V)}
      {now later : List (Exchange V)} (dialogue : Dialogue key question now)
      (conversation : Conversation questions later) :
    Conversation ((key, question) :: questions) (now ++ later)

namespace Conversation

variable {questions more : List (String × Question V)} {said later : List (Exchange V)}

theorem append (first : Conversation questions said) (second : Conversation more later) :
    Conversation (questions ++ more) (said ++ later) := by
  induction first with
  | nil => exact second
  | cons dialogue _ ih =>
    rw [List.append_assoc]
    exact .cons dialogue ih

theorem of_dialogue {key : String} {question : Question V} (dialogue : Dialogue key question said) :
    Conversation [(key, question)] said :=
  said.append_nil ▸ .cons dialogue .nil

theorem asks (conversation : Conversation questions said) :
    said.filterMap Exchange.question? = questions := by
  induction conversation with
  | nil => rfl
  | cons dialogue _ ih =>
    rw [List.filterMap_append, ih]
    cases dialogue <;> rfl

theorem hands (conversation : Conversation questions said) :
    said.filterMap Exchange.patch? = said.filterMap Exchange.wanted? := by
  induction conversation with
  | nil => rfl
  | cons dialogue _ ih =>
    obtain ⟨answer, _, handed, wanted⟩ := dialogue.exists_answer
    rw [List.filterMap_append, List.filterMap_append, ih, handed, wanted]

/-- Where the same questions are answered alike, but for those about one document, the same is
handed on, but for that document. -/
theorem patches_alike {others : List (Exchange V)} (first : Conversation questions said)
    (second : Conversation questions others) (key : String)
    (alike : ∀ name question answer answer', name ≠ key → .asked name question answer ∈ said →
      .asked name question answer' ∈ others → answer = answer') :
    (said.filterMap Exchange.patch?).filter (·.documentId ≠ key) =
      (others.filterMap Exchange.patch?).filter (·.documentId ≠ key) := by
  induction first generalizing others with
  | nil =>
    cases second
    rfl
  | @cons name question questions now later dialogue _ ih =>
    cases second with
    | @cons _ _ _ now' later' dialogue' conversation' =>
      have rest := ih conversation' fun name question answer answer' apart here there =>
        alike name question answer answer' apart (List.mem_append_right now here)
          (List.mem_append_right now' there)
      obtain ⟨answer, asked, handed, _⟩ := dialogue.exists_answer
      obtain ⟨answer', asked', handed', _⟩ := dialogue'.exists_answer
      rw [List.filterMap_append, List.filterMap_append, List.filter_append, List.filter_append,
        rest, handed, handed']
      congr 1
      by_cases here : name = key
      · rw [Exchange.filter_wanted here, Exchange.filter_wanted here]
      · rw [alike name question answer answer' here (List.mem_append_left later asked)
          (List.mem_append_left later' asked')]

theorem balance (conversation : Conversation questions said) :
    said.countP Exchange.isAccepted + said.countP Exchange.isRefused +
      said.countP Exchange.isUnanswered + said.countP Exchange.isContent = questions.length := by
  induction conversation with
  | nil => rfl
  | @cons key question questions now later dialogue _ ih =>
    have one : now.countP Exchange.isAccepted + now.countP Exchange.isRefused +
        now.countP Exchange.isUnanswered + now.countP Exchange.isContent = 1 := by
      cases dialogue with
      | @kept answer nothing =>
        cases answer with
        | returned operations =>
          obtain rfl : operations = [] := nothing
          rfl
        | failed report => rfl
        | panicked => rfl
      | @published operations something alive reply =>
        cases operations with
        | nil => exact absurd rfl something
        | cons first rest => cases reply <;> rfl
    simp only [List.countP_append, List.length_cons]
    omega

end Conversation

end RoadRegistry
