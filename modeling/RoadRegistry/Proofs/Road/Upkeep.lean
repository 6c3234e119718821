import RoadRegistry.Proofs.Road.Corrections

namespace RoadRegistry

structure Upkeep where
  roads : Dictionary String Road
  admin : TopicAdmin

namespace Upkeep

inductive Method where
  | added
  | updated (before : Road)
  | inspected

structure Visit where
  method : Method
  key : String

open TopicAgent

variable {defaults : TopicDefaults} {s : Upkeep} {v : Visit} {key : String}

def ask (agent : Agent Road TopicAdmin) (v : Visit) (road : Road) (admin : TopicAdmin) :
    Outcome (List Patch.Operation) × TopicAdmin :=
  match v.method with
  | .added => agent.added v.key road admin
  | .updated before => agent.updated v.key before road admin
  | .inspected => agent.inspected v.key road admin

/-- Puts a road to the agent and merges what it asks for. There is no answer when the call fails,
when the operations cannot be merged, and for a key without a road. -/
def visit (defaults : TopicDefaults) (s : Upkeep) (v : Visit) :
    Option (List Patch.Operation) × Upkeep :=
  match s.roads.get? v.key with
  | none => (none, s)
  | some road =>
    match ask (agent defaults) v road s.admin with
    | (.returned operations, admin) =>
      match road.merge operations with
      | some merged => (some operations, ⟨s.roads.insert v.key merged, admin⟩)
      | none => (none, { s with admin })
    | (.failed _, admin) | (.panicked, admin) => (none, { s with admin })

def run (defaults : TopicDefaults) (s : Upkeep) (visits : List Visit) : Upkeep :=
  visits.foldl (fun s v => (visit defaults s v).2) s

def answers (defaults : TopicDefaults) : Upkeep → List Visit →
    List (String × Option (List Patch.Operation))
  | _, [] => []
  | s, v :: rest => (v.key, (visit defaults s v).1) :: answers defaults (visit defaults s v).2 rest

def corrections (key : String) (answers : List (String × Option (List Patch.Operation))) : Nat :=
  answers.countP fun answer => answer.1 = key && answer.2.any fun operations => !operations.isEmpty

structure Sound (s : Upkeep) : Prop where
  working : s.admin.Working
  filed : ∀ key road, s.roads.get? key = some road → road.name = key

def remaining (defaults : TopicDefaults) (s : Upkeep) (key : String) : Nat :=
  match s.roads.get? key with
  | some road => outstanding defaults s.admin road
  | none => 0

theorem remaining_le_two (defaults : TopicDefaults) (s : Upkeep) (key : String) :
    remaining defaults s key ≤ 2 := by
  unfold remaining
  split
  · exact outstanding_le_two ..
  · exact Nat.zero_le 2

theorem ask_eq_call (defaults : TopicDefaults) (v : Visit) : ∃ purpose, ∀ road admin,
    ask (agent defaults) v road admin = call defaults purpose v.key road admin := by
  obtain ⟨method, key⟩ := v
  cases method with
  | added => exact ⟨.provision, fun _ _ => rfl⟩
  | updated before => exact ⟨.provision, fun _ _ => rfl⟩
  | inspected => exact ⟨.repair, fun _ _ => rfl⟩

theorem visit_advances (sound : Sound s) {road : Road} (filed : s.roads.get? v.key = some road)
    (defaults : TopicDefaults) : ∃ operations after merged,
      visit defaults s v = (some operations, ⟨s.roads.insert v.key merged, after⟩) ∧
        Advances defaults s.admin road operations after merged := by
  obtain ⟨purpose, asked⟩ := ask_eq_call defaults v
  obtain ⟨operations, after, merged, called, advances⟩ :=
    call_advances defaults sound.working purpose road
  rw [sound.filed _ _ filed] at called
  refine ⟨operations, after, merged, ?_, advances⟩
  unfold visit
  simp only [filed, asked, called, advances.merges]

/-- After a visit the registry is sound, knows the same keys, and every key has as many fewer
corrections to come as it was just given. -/
theorem visit_spec (sound : Sound s) (present : (s.roads.get? v.key).isSome)
    (defaults : TopicDefaults) : ∃ operations, (visit defaults s v).1 = some operations ∧
      Sound (visit defaults s v).2 ∧
      (∀ key, ((visit defaults s v).2.roads.get? key).isSome = (s.roads.get? key).isSome) ∧
      ∀ key, remaining defaults (visit defaults s v).2 key +
        (if v.key = key then weight operations else 0) ≤ remaining defaults s key := by
  obtain ⟨road, filed⟩ := Option.isSome_iff_exists.mp present
  obtain ⟨operations, after, merged, visited, advances⟩ := visit_advances sound filed defaults
  rw [visited]
  refine ⟨operations, rfl, ⟨advances.working, fun key other found => ?_⟩, fun key => ?_,
    fun key => ?_⟩
  · rw [Dictionary.get?_insert] at found
    split at found
    · next here =>
      cases found
      rw [here, advances.named, sound.filed _ _ filed]
    · exact sound.filed key other found
  · rw [Dictionary.get?_insert]
    split
    · next here => rw [here, filed]; rfl
    · rfl
  · by_cases here : v.key = key
    · subst here
      simp only [remaining, Dictionary.get?_insert_self, filed, ite_true]
      exact advances.counted
    · simp only [remaining, Dictionary.get?_insert_of_ne _ (Ne.symm here), here, ite_false,
        Nat.add_zero]
      split
      · exact outstanding_of_kept advances.kept
      · exact Nat.le_refl 0

theorem remaining_of_provided (sound : Sound s) {road : Road}
    (filed : s.roads.get? v.key = some road) (provided : Provided s.admin road)
    (defaults : TopicDefaults) : remaining defaults (visit defaults s v).2 v.key = 0 := by
  obtain ⟨operations, after, merged, visited, advances⟩ := visit_advances sound filed defaults
  simp only [visited, remaining, Dictionary.get?_insert_self]
  exact advances.provided provided

theorem corrections_cons (key name : String) (operations : List Patch.Operation)
    (rest : List (String × Option (List Patch.Operation))) :
    corrections key ((name, some operations) :: rest) =
      corrections key rest + if name = key then weight operations else 0 := by
  rw [corrections, List.countP_cons, ← corrections]
  congr 1
  by_cases here : name = key
  · cases operations <;> simp [here, weight]
  · simp [here]

theorem run_spec (sound : Sound s) {visits : List Visit}
    (present : ∀ v ∈ visits, (s.roads.get? v.key).isSome) (defaults : TopicDefaults) :
    Sound (run defaults s visits) ∧
      (∀ key, ((run defaults s visits).roads.get? key).isSome = (s.roads.get? key).isSome) ∧
      (∀ answer ∈ answers defaults s visits, answer.2.isSome) ∧
      ∀ key, remaining defaults (run defaults s visits) key +
        corrections key (answers defaults s visits) ≤ remaining defaults s key := by
  induction visits generalizing s with
  | nil => exact ⟨sound, fun _ => rfl, nofun, fun _ => Nat.le_refl _⟩
  | cons v rest ih =>
    obtain ⟨operations, answered, sound', same, counted⟩ :=
      visit_spec sound (present v List.mem_cons_self) defaults
    obtain ⟨sound'', same', all, counted'⟩ := ih sound' fun w member => by
      rw [same]
      exact present w (List.mem_cons_of_mem _ member)
    refine ⟨sound'', fun key => (same' key).trans (same key), ?_, fun key => ?_⟩
    · rw [answers, answered]
      intro answer member
      rcases List.mem_cons.mp member with rfl | later
      · rfl
      · exact all answer later
    · have first := counted key
      have later := counted' key
      rw [answers, answered, corrections_cons]
      simp only [run, List.foldl_cons] at later ⊢
      omega

theorem answers_of_settled (sound : Sound s) {visits : List Visit}
    (present : ∀ v ∈ visits, (s.roads.get? v.key).isSome) (settled : remaining defaults s key = 0) :
    ∀ answer ∈ answers defaults s visits, answer.1 = key → answer.2 = some [] := by
  obtain ⟨_, _, all, counted⟩ := run_spec sound present defaults
  have none_left : corrections key (answers defaults s visits) = 0 := by
    have := counted key
    omega
  intro answer member here
  have empty := List.countP_eq_zero.mp none_left answer member
  obtain ⟨operations, held⟩ := Option.isSome_iff_exists.mp (all answer member)
  rw [held] at empty ⊢
  cases operations with
  | nil => rfl
  | cons first rest => simp [here] at empty

/-- Whatever roads and topics there are, and in whatever order the roads are put to the agent, no
call fails, a road is given at most two corrections, and none once a call found its topic in place,
or found it deleted or retired. -/
theorem registry_settles (defaults : TopicDefaults) (s : Upkeep) (working : s.admin.Working)
    (filed : ∀ key road, s.roads.get? key = some road → road.name = key) (visits : List Visit)
    (present : ∀ v ∈ visits, (s.roads.get? v.key).isSome) :
    (∀ answer ∈ answers defaults s visits, answer.2.isSome) ∧
      (∀ key, corrections key (answers defaults s visits) ≤ 2) ∧
      ∀ before v after, visits = before ++ v :: after →
        ∀ road, (run defaults s before).roads.get? v.key = some road →
          Provided (run defaults s before).admin road →
            ∀ answer ∈ answers defaults (run defaults s (before ++ [v])) after,
              answer.1 = v.key → answer.2 = some [] := by
  have sound : Sound s := ⟨working, filed⟩
  obtain ⟨_, _, all, counted⟩ := run_spec sound present defaults
  refine ⟨all, fun key => ?_, ?_⟩
  · have bound := remaining_le_two defaults s key
    have := counted key
    omega
  · rintro before v after rfl road found provided
    obtain ⟨sound', same, _⟩ := run_spec sound
      (fun w member => present w (List.mem_append_left _ member)) defaults
    have known : ((run defaults s before).roads.get? v.key).isSome := by
      rw [found]
      rfl
    obtain ⟨_, _, sound'', same', _⟩ := visit_spec sound' known defaults
    have settled := remaining_of_provided sound' found provided defaults
    have next : run defaults s (before ++ [v]) = (visit defaults (run defaults s before) v).2 := by
      simp only [run, List.foldl_append, List.foldl_cons, List.foldl_nil]
    rw [next]
    refine answers_of_settled sound'' (fun w member => ?_) settled
    rw [same', same]
    exact present w (List.mem_append_right _ (List.mem_cons_of_mem _ member))

/-- Two roads on one topic that ask for different numbers of partitions. -/
def sharedTopic : Upkeep where
  roads := .ofList [
    ("a", { Road.ofName "a" with
      partitions := some 2, status := some ⟨.unknown, "shared", none, none⟩ }),
    ("b", { Road.ofName "b" with
      partitions := some 5, status := some ⟨.pending, "shared", some 5, none⟩ })]
  admin := {}

def sharedVisits : List Visit :=
  [⟨.added, "a"⟩, ⟨.inspected, "b"⟩, ⟨.inspected, "a"⟩, ⟨.updated (.ofName "a"), "a"⟩,
    ⟨.inspected, "b"⟩]

theorem shared_topic_settles :
    sharedTopic.admin.Working ∧
      (∀ key road, sharedTopic.roads.get? key = some road → road.name = key) ∧
      (∀ v ∈ sharedVisits, (sharedTopic.roads.get? v.key).isSome) ∧
      corrections "a" (answers {} sharedTopic sharedVisits) = 2 ∧
      corrections "b" (answers {} sharedTopic sharedVisits) ≤ 2 ∧
      ∀ answer ∈ answers {} (run {} sharedTopic (sharedVisits.take 3)) (sharedVisits.drop 3),
        answer.1 = "a" → answer.2 = some [] := by
  have working : sharedTopic.admin.Working := ⟨rfl, rfl⟩
  have filed : ∀ key road, sharedTopic.roads.get? key = some road → road.name = key := by
    intro key road found
    have listed : ∀ entry ∈ sharedTopic.roads.entries, entry.2.name = entry.1 := by decide +kernel
    exact listed _ (Dictionary.mem_entries_iff.mpr found)
  have present : ∀ v ∈ sharedVisits, (sharedTopic.roads.get? v.key).isSome := by decide +kernel
  obtain ⟨_, bound, later⟩ := registry_settles {} sharedTopic working filed sharedVisits present
  refine ⟨working, filed, present, by decide +kernel, bound "b", ?_⟩
  have found : ((run {} sharedTopic (sharedVisits.take 2)).roads.get? "a").any fun road =>
      ((run {} sharedTopic (sharedVisits.take 2)).admin.topics.get? road.topicName).isSome := by
    decide +kernel
  obtain ⟨road, known, topic⟩ := (Option.any_eq_true _ _).mp found
  exact later (sharedVisits.take 2) ⟨.inspected, "a"⟩ (sharedVisits.drop 3) rfl road known
    (.inl topic)

end Upkeep

end RoadRegistry
