import RoadRegistry.Inspection.Scan
import RoadRegistry.Proofs.Reaction.Transcript
import RoadRegistry.Proofs.Replica.Snapshot

namespace RoadRegistry

namespace ScanReport

def count (report : ScanReport) (more : List (Exchange V)) : ScanReport :=
  { report with
    inspected := report.inspected + (more.filterMap Exchange.question?).length
    emitted := report.emitted + more.countP Exchange.isAccepted
    failed := report.failed + (more.countP Exchange.isUnanswered + more.countP Exchange.isRefused) }

theorem count_append (report : ScanReport) (said more : List (Exchange V)) :
    report.count (said ++ more) = (report.count said).count more := by
  simp only [count, List.filterMap_append, List.length_append, List.countP_append, mk.injEq,
    and_true]
  omega

end ScanReport

namespace Inspector

def traced (i : Inspector V E) : Inspector V (E × List (Exchange V)) where
  agent := i.agent.traced
  emitter := i.emitter.traced
  now state := i.now state.1

def question (document : String × V) : String × Question V := (document.1, .inspected document.2)

theorem inspect_traced (i : Inspector V E) (report : ScanReport) (said : List (Exchange V))
    (shared : E) (document : String × V) :
    let plain := i.inspect (report, shared) document
    ∃ more, Dialogue document.1 (.inspected document.2) more ∧ plain.1 = report.count more ∧
      i.traced.inspect (report, shared, said) document = (plain.1, plain.2, said ++ more) := by
  obtain ⟨key, value⟩ := document
  rcases called : i.agent.inspected key value shared with ⟨answer, after⟩
  have answered : i.traced.agent.inspected key value (shared, said) =
      (answer, after, said ++ [.asked key (.inspected value) answer]) :=
    Agent.traced_inspected called said
  simp only [inspect, called, answered]
  cases answer with
  | failed report => exact ⟨_, .kept rfl, rfl, rfl⟩
  | panicked => exact ⟨_, .kept rfl, rfl, rfl⟩
  | returned operations =>
    cases operations with
    | nil => exact ⟨_, .kept rfl, rfl, rfl⟩
    | cons first rest =>
      rcases sent : i.emitter ⟨key, first :: rest⟩ after with ⟨reply, final⟩
      have handed (past : List (Exchange V)) : i.traced.emitter ⟨key, first :: rest⟩ (after, past) =
          (reply, final, past ++ [.handed ⟨key, first :: rest⟩ reply]) :=
        Emitter.traced_of_sent sent past
      refine ⟨_, .published (List.cons_ne_nil first rest) rfl reply, ?_⟩
      simp only [sent, handed, List.append_assoc]
      cases reply <;> exact ⟨rfl, rfl⟩

theorem foldl_inspect_traced (i : Inspector V E) (documents : List (String × V))
    (report : ScanReport) (said : List (Exchange V)) (shared : E) :
    let s := documents.foldl i.traced.inspect (report, shared, said)
    ∃ more, Conversation (documents.map question) more ∧ s.1 = report.count more ∧
      s.2.2 = said ++ more ∧
      documents.foldl i.inspect (report, shared) = (s.1, s.2.1) := by
  induction documents generalizing report said shared with
  | nil =>
    exact ⟨[], .nil, rfl, (List.append_nil said).symm, rfl⟩
  | cons document rest ih =>
    obtain ⟨now, dialogue, counted, written⟩ :=
      i.inspect_traced report said shared document
    obtain ⟨more, conversation, recounted, recorded, same⟩ :=
      ih (report.count now) (said ++ now) (i.inspect (report, shared) document).2
    rw [← ScanReport.count_append] at recounted
    rw [List.append_assoc] at recorded
    have inspected : i.inspect (report, shared) document =
        (report.count now, (i.inspect (report, shared) document).2) := by rw [← counted]
    simp only [List.foldl_cons, written, counted]
    rw [inspected]
    exact ⟨now ++ more, .cons dialogue conversation, recounted, recorded, same⟩

theorem scan_traced (i : Inspector V E) (documents : List (String × V)) (shared : E) :
    let s := i.traced.scan documents (shared, [])
    Conversation (documents.map question) s.2.2 ∧
      s.1 = { ({} : ScanReport).count s.2.2 with
        startedAt := i.now shared, finishedAt := i.now s.2.1 } ∧
      i.scan documents shared = (s.1, s.2.1) := by
  intro s
  obtain ⟨more, conversation, counted, written, same⟩ :=
    i.foldl_inspect_traced documents {} [] shared
  rw [List.nil_append] at written
  rw [← written] at conversation counted
  have scanned : i.scan documents shared =
      let s := documents.foldl i.inspect ({}, shared)
      ({ s.1 with startedAt := i.now shared, finishedAt := i.now s.2 }, s.2) := rfl
  rw [same] at scanned
  let finish (report : ScanReport) : ScanReport :=
    { report with startedAt := i.now shared, finishedAt := i.now s.2.1 }
  exact ⟨conversation, congrArg finish counted, scanned⟩

theorem questions_increasing (r : Replica V O) :
    (r.documents.map question).Pairwise fun a b => a.1 < b.1 := by
  rw [List.pairwise_map]
  exact r.documents_sorted

theorem mem_questions_iff {r : Replica V O} {key : String} {value : V} :
    (key, Question.inspected value) ∈ r.documents.map question ↔ r.get? key = some value := by
  rw [Replica.get?, Option.join_eq_some_iff, ← Replica.mem_documents, List.mem_map]
  constructor
  · rintro ⟨⟨_, _⟩, member, equal⟩
    cases equal
    exact member
  · exact fun member => ⟨(key, value), member, rfl⟩

theorem not_tombstoned_of_asked {r : Replica V O} {key : String} {asks : Question V}
    (member : (key, asks) ∈ r.documents.map question) : r.isTombstoned key = false := by
  rw [List.mem_map] at member
  obtain ⟨⟨_, value⟩, held, equal⟩ := member
  cases equal
  simp only [Replica.isTombstoned, Replica.mem_documents.mp held]

theorem scan_counts (i : Inspector V E) (documents : List (String × V)) (shared : E) :
    let s := i.traced.scan documents (shared, [])
    s.1.inspected = documents.length ∧
      s.1.emitted = s.2.2.countP Exchange.isAccepted ∧
      s.1.failed = s.2.2.countP Exchange.isUnanswered + s.2.2.countP Exchange.isRefused := by
  intro s
  obtain ⟨conversation, reported, _⟩ := i.scan_traced documents shared
  have asked : (s.2.2.filterMap Exchange.question?).length = documents.length := by
    rw [conversation.asks, List.length_map]
  rw [reported]
  refine ⟨?_, Nat.zero_add _, Nat.zero_add _⟩
  simp only [ScanReport.count]
  rw [Nat.zero_add]
  exact asked

theorem scan_balance (i : Inspector V E) (documents : List (String × V)) (shared : E) :
    let s := i.traced.scan documents (shared, [])
    s.1.emitted + s.1.failed + s.2.2.countP Exchange.isContent = s.1.inspected := by
  dsimp only
  obtain ⟨inspected, emitted, failed⟩ := i.scan_counts documents shared
  have balance := (i.scan_traced documents shared).1.balance
  rw [List.length_map] at balance
  rw [emitted, failed, inspected]
  omega

end Inspector

/-- A pass puts every live document of a store to the agent once, in the order of the keys, hands on
the corrections that the answers call for, and counts both. What comes of one document makes no
difference to the others: another agent is asked the same, and where it answers alike about all of
them, the same corrections of them are handed on. -/
theorem Inspector.isolates_documents (i : Inspector V E) (r : Replica V O) (shared : E) :
    let s := i.traced.scan r.documents (shared, [])
    let said := s.2.2
    let asked := said.filterMap Exchange.question?
    i.scan r.documents shared = (s.1, s.2.1) ∧
      asked = r.documents.map Inspector.question ∧
      asked.Pairwise (fun a b => a.1 < b.1) ∧
      (∀ key value, (key, Question.inspected value) ∈ asked ↔ r.get? key = some value) ∧
      (∀ key question, (key, question) ∈ asked → r.isTombstoned key = false) ∧
      said.filterMap Exchange.patch? = said.filterMap Exchange.wanted? ∧
      Conversation asked said ∧
      s.1.inspected = r.size ∧
      s.1.emitted = said.countP Exchange.isAccepted ∧
      s.1.failed = said.countP Exchange.isUnanswered + said.countP Exchange.isRefused ∧
      s.1.emitted + s.1.failed + said.countP Exchange.isContent = s.1.inspected ∧
      ∀ (B : Type) (other : Inspector V B) (around : B) (key : String),
        let others := (other.traced.scan r.documents (around, [])).2.2
        others.filterMap Exchange.question? = asked ∧
          ((∀ name question answer answer', name ≠ key → .asked name question answer ∈ said →
              .asked name question answer' ∈ others → answer = answer') →
            (said.filterMap Exchange.patch?).filter (·.documentId ≠ key) =
              (others.filterMap Exchange.patch?).filter (·.documentId ≠ key)) := by
  intro s said asked
  obtain ⟨conversation, _, same⟩ := i.scan_traced r.documents shared
  obtain ⟨inspected, emitted, failed⟩ := i.scan_counts r.documents shared
  have asks : asked = r.documents.map question := conversation.asks
  rw [asks]
  refine ⟨same, rfl, questions_increasing r, fun _ _ => mem_questions_iff,
    fun _ _ => not_tombstoned_of_asked, conversation.hands, conversation, inspected, emitted,
    failed, i.scan_balance r.documents shared, fun B other around key => ?_⟩
  obtain ⟨conversations, _⟩ := other.scan_traced r.documents around
  exact ⟨conversations.asks, conversation.patches_alike conversations key⟩

def Inspector.fourRoads : Replica Nat Unit :=
  { topic := "roads"
    entries := .ofList [("d", some 4), ("a", some 1), ("c", none), ("b", some 2)] }

/-- Asks for a correction of every document and counts its calls. The emitter refuses every other
patch set. -/
def Inspector.thorough : Inspector Nat (Nat × Nat) where
  agent := {
    added := fun _ _ calls => (.returned [], calls)
    updated := fun _ _ _ calls => (.returned [], calls)
    removed := fun _ _ calls => (.returned (), calls)
    inspected := fun key _ calls => (.returned [.remove ("/" ++ key)], calls.1 + 1, calls.2) }
  emitter _ calls :=
    (if calls.2 % 2 = 0 then .ok () else .error (.ofMessage "refused"), calls.1, calls.2 + 1)
  now calls := UInt64.ofNat calls.1

def Inspector.startled : Inspector Nat Unit where
  agent := {
    added := fun _ _ calls => (.returned [], calls)
    updated := fun _ _ _ calls => (.returned [], calls)
    removed := fun _ _ calls => (.returned (), calls)
    inspected := fun key _ calls =>
      (if key = "b" then .panicked else .returned [.remove ("/" ++ key)], calls) }
  emitter _ calls := (.ok (), calls)
  now _ := 0

theorem Inspector.panic_stays_with_its_document :
    let said := (thorough.traced.scan fourRoads.documents ((0, 0), [])).2.2
    let others := (startled.traced.scan fourRoads.documents ((), [])).2.2
    (∀ name question answer answer', name ≠ "b" → .asked name question answer ∈ said →
        .asked name question answer' ∈ others → answer = answer') ∧
      others.filterMap Exchange.question? = said.filterMap Exchange.question? ∧
      (said.filterMap Exchange.patch?).filter (·.documentId ≠ "b") =
        (others.filterMap Exchange.patch?).filter (·.documentId ≠ "b") ∧
      (said.filterMap Exchange.patch?).map PatchSet.documentId = ["a", "b", "d"] ∧
      (others.filterMap Exchange.patch?).map PatchSet.documentId = ["a", "d"] := by
  intro said others
  let correct (key : String) : List Patch.Operation := [.remove ("/" ++ key)]
  have said_eq : said = [
      .asked "a" (.inspected 1) (.returned (correct "a")), .handed ⟨"a", correct "a"⟩ (.ok ()),
      .asked "b" (.inspected 2) (.returned (correct "b")),
      .handed ⟨"b", correct "b"⟩ (.error (.ofMessage "refused")),
      .asked "d" (.inspected 4) (.returned (correct "d")), .handed ⟨"d", correct "d"⟩ (.ok ())] :=
    rfl
  have others_eq : others = [
      .asked "a" (.inspected 1) (.returned (correct "a")), .handed ⟨"a", correct "a"⟩ (.ok ()),
      .asked "b" (.inspected 2) .panicked,
      .asked "d" (.inspected 4) (.returned (correct "d")), .handed ⟨"d", correct "d"⟩ (.ok ())] :=
    rfl
  have alike (name : String) (question : Question Nat) (answer answer') (apart : name ≠ "b")
      (here : .asked name question answer ∈ said) (there : .asked name question answer' ∈ others) :
      answer = answer' := by
    rw [said_eq] at here
    rw [others_eq] at there
    simp only [List.mem_cons, Exchange.asked.injEq, reduceCtorEq, List.not_mem_nil, or_false,
      false_or] at here there
    rcases here with ⟨rfl, _, rfl⟩ | ⟨rfl, _⟩ | ⟨rfl, _, rfl⟩
    · have told : question = .inspected 1 ∧ answer' = .returned (correct "a") := by
        simpa using there
      exact told.2.symm
    · exact absurd rfl apart
    · have told : question = .inspected 4 ∧ answer' = .returned (correct "d") := by
        simpa using there
      exact told.2.symm
  obtain ⟨_, _, _, _, _, _, _, _, _, _, _, isolated⟩ :=
    isolates_documents thorough fourRoads (0, 0)
  obtain ⟨asked, handed⟩ := isolated Unit startled () "b"
  exact ⟨alike, asked, handed alike, by decide +kernel, by decide +kernel⟩

end RoadRegistry
