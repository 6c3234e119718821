import RoadRegistry.Service.Supervision

namespace RoadRegistry

def Event.apply (service : Service) : Event → Service
  | .interrupt | .tick => service
  | .shutdown => service.shutdown
  | .record key value => service.record key value
  | .outage message => service.loseRoadLog message

namespace Service

variable {service : Service} {event : Event}

def through (service : Service) (events : List Event) : Service :=
  events.foldl Event.apply service

def bears (service : Service) : Event → Bool
  | .interrupt => false
  | .tick => !service.stopping && service.failure.isNone
  | .shutdown | .record _ _ | .outage _ => !service.stopping

def bearsAll : List Event → Service → Bool
  | [], _ => true
  | event :: rest, service => service.bears event && bearsAll rest (event.apply service)

theorem unasked_of_bears (borne : service.bears event = true) : service.stopping = false := by
  cases event <;> simp_all [bears]

theorem supervise_of_stopping (asked : service.stopping = true) (events : List Event) :
    service.supervise events = some (.ok (), service.stop) := by
  unfold supervise
  rw [if_pos asked]

theorem refreshHealth_of_unfailed (unfailed : service.failure = none) :
    service.refreshHealth = (.ok (), service) := by
  simp only [refreshHealth, unfailed]

theorem refreshHealth_of_failed {error : StoreError} (failed : service.failure = some error) :
    service.refreshHealth = (.error ((Report.ofStoreError error).context "road store failed"),
      { service with health := { service.health with store := .failed } }) := by
  simp only [refreshHealth, failed]

theorem supervise_of_bears (borne : service.bears event = true) (rest : List Event) :
    service.supervise (event :: rest) = (event.apply service).supervise rest := by
  have unasked : ¬ service.stopping = true := by simp [unasked_of_bears borne]
  conv => lhs; unfold supervise
  rw [if_neg unasked]
  cases event with
  | interrupt => cases borne
  | tick =>
    have unfailed : service.failure = none := by
      simp only [bears, Bool.and_eq_true, Option.isNone_iff_eq_none] at borne
      exact borne.2
    simp only [refreshHealth_of_unfailed unfailed]
    rfl
  | shutdown => rfl
  | record key value => rfl
  | outage message => rfl

theorem stop_reported (failed : service.failure.isSome = true) :
    { service with health := { service.health with store := .failed } }.stop = service.stop := by
  have counted : service.hasFailed = true := by
    rw [hasFailed, failed, Bool.or_true]
  have same : { service with health := { service.health with store := .failed } }.stoppedHealth =
      service.stoppedHealth := by
    simp only [stoppedHealth, counted, ite_true]
    rfl
  simp only [stop, same]
  rfl

theorem store_stop (service : Service) :
    service.stop.health.store = if service.hasFailed then .failed else .stopped := rfl

theorem exists_last (service : Service) (events : List Event) :
    ∃ seen rest, events = seen ++ rest ∧ service.bearsAll seen = true ∧
      ∀ event ∈ rest.head?, (service.through seen).bears event = false := by
  induction events generalizing service with
  | nil => exact ⟨[], [], rfl, rfl, by simp⟩
  | cons event events ih =>
    cases borne : service.bears event with
    | false => exact ⟨[], event :: events, rfl, rfl, by simpa [through] using borne⟩
    | true =>
      obtain ⟨seen, rest, rfl, all, last⟩ := ih (event.apply service)
      exact ⟨event :: seen, rest, rfl, by simp [bearsAll, borne, all], last⟩

theorem supervise_append {seen : List Event} (borne : service.bearsAll seen = true)
    (rest : List Event) :
    service.supervise (seen ++ rest) = (service.through seen).supervise rest := by
  induction seen generalizing service with
  | nil => rfl
  | cons event seen ih =>
    rw [bearsAll, Bool.and_eq_true] at borne
    rw [List.cons_append, supervise_of_bears borne.1, ih borne.2]
    rfl

/-- Where the supervision does not go on, it ends. It is only without an outcome when nothing more
happens. -/
theorem supervise_of_last {rest : List Event}
    (last : ∀ event ∈ rest.head?, service.bears event = false) :
    (service.stopping = true ∨ rest.head? = some .interrupt) ∧
        service.supervise rest = some (.ok (), service.stop) ∨
      service.stopping = false ∧ rest.head? = some .tick ∧ (∃ error, service.failure = some error ∧
        service.supervise rest = some
          (.error ((Report.ofStoreError error).context "road store failed"), service.stop)) ∨
      service.stopping = false ∧ rest = [] ∧ service.supervise rest = none := by
  cases asked : service.stopping with
  | true =>
    -- Nothing that happens then is looked at any more.
    exact .inl ⟨.inl rfl, supervise_of_stopping asked rest⟩
  | false =>
    have unasked : ¬ service.stopping = true := by simp [asked]
    cases rest with
    | nil =>
      refine .inr (.inr ⟨rfl, rfl, ?_⟩)
      unfold supervise
      rw [if_neg unasked]
    | cons event rest =>
      have refused := last event rfl
      cases event with
      | interrupt =>
        refine .inl ⟨.inr rfl, ?_⟩
        unfold supervise
        rw [if_neg unasked]
      | tick =>
        have failed : service.failure.isSome = true := by
          simpa [bears, asked] using refused
        obtain ⟨error, latched⟩ := Option.isSome_iff_exists.mp failed
        refine .inr (.inl ⟨rfl, rfl, error, latched, ?_⟩)
        unfold supervise
        simp only [if_neg unasked, refreshHealth_of_failed latched, stop_reported failed]
      | shutdown | record _ _ | outage _ =>
        rw [bears, asked] at refused
        cases refused

/-- How a supervision ends. It leaves off in the state that the events before have led to, asked to
stop or with a failure that the watchdog has found; that is when it has an outcome, and the service
is stopped. The outcome is the failure that was found, and nothing when the supervision was asked to
stop, whether the store had failed or not. So it agrees with the health that is left, unless the
store had failed when the supervision was asked to stop. -/
theorem supervision_accounted_for (service : Service) (events : List Event) :
    (∀ idle : Service, idle.start = (.ok (), service) →
      idle.run events = service.supervise events) ∧
    ∃ seen rest, events = seen ++ rest ∧ service.bearsAll seen = true ∧
      let last := service.through seen
      let asked := last.stopping = true ∨ rest.head? = some .interrupt
      (∀ event ∈ rest.head?, last.bears event = false) ∧
      (service.supervise events = none ↔ rest = [] ∧ ¬ asked) ∧
      ∀ outcome final, service.supervise events = some (outcome, final) →
        final = last.stop ∧
        (final.health.store = if last.hasFailed then .failed else .stopped) ∧
        (asked → outcome = .ok ()) ∧
        (¬ asked → ∃ error, last.failure = some error ∧
          outcome = .error ⟨"road store failed" :: (Report.ofStoreError error).chain⟩) ∧
        ((outcome = .ok () ↔ final.health.store = .stopped) ↔
          ¬ (asked ∧ last.hasFailed = true)) := by
  obtain ⟨seen, rest, split, borne, ended⟩ := exists_last service events
  refine ⟨fun idle started => by simp only [run, started], seen, rest, split, borne, ended, ?_⟩
  rw [split, supervise_append borne]
  rcases supervise_of_last ended with
    ⟨asked, supervised⟩ | ⟨unasked, looked, error, latched, supervised⟩ |
    ⟨unasked, nothing, supervised⟩
  · rw [supervised]
    refine ⟨by simp [asked], fun outcome final same => ?_⟩
    obtain ⟨rfl, rfl⟩ : Except.ok () = outcome ∧ (service.through seen).stop = final := by
      simpa using same
    have health := store_stop (service.through seen)
    refine ⟨rfl, health, fun _ => rfl, fun unasked => absurd asked unasked, ?_⟩
    rw [health]
    cases (service.through seen).hasFailed <;> simp [asked]
  · have unasked : ¬ ((service.through seen).stopping = true ∨ rest.head? = some .interrupt) := by
      simp [unasked, looked]
    have more : rest ≠ [] := by
      rintro rfl
      cases looked
    rw [supervised]
    refine ⟨by simp [more], fun outcome final same => ?_⟩
    obtain ⟨rfl, rfl⟩ : Except.error ((Report.ofStoreError error).context "road store failed") =
        outcome ∧ (service.through seen).stop = final := by simpa using same
    have failed : (service.through seen).hasFailed = true := by
      rw [hasFailed, latched, Option.isSome_some, Bool.or_true]
    have health := store_stop (service.through seen)
    refine ⟨rfl, health, fun asked => absurd asked unasked, fun _ => ⟨error, latched, rfl⟩, ?_⟩
    rw [health, failed]
    simp [unasked]
  · rw [supervised]
    exact ⟨by simp [nothing, unasked], fun outcome final same => by cases same⟩

def onEmptyLog : Except Report Service :=
  createOn (.ofMode .memory) (Site.create (Log.create "_roads" 1)
    ⟨⟨1⟩, Log.create "_roadmodification" 1, {}⟩)

def unreadable : Event :=
  .record (Key.encode "r1") (some [1, 123, 110, 111, 116, 32, 106, 115, 111, 110])

theorem request_hides_failure :
    ∃ idle started final error, onEmptyLog = .ok idle ∧ idle.start = (.ok (), started) ∧
      (started.through [unreadable]).failure = some error ∧
      started.supervise [unreadable, .shutdown, .tick] = some (.ok (), final) ∧
      idle.run [unreadable, .shutdown, .tick] = some (.ok (), final) ∧
      final.health.store = .failed :=
  ⟨_, _, _, _, rfl, rfl, rfl, rfl, rfl, rfl⟩

/-- Had the watchdog looked first, the failure would have been told. -/
example : ∃ idle final, onEmptyLog = .ok idle ∧
    idle.run [unreadable, .tick, .shutdown] = some (.error ⟨["road store failed",
      "serialization failed for key r1: invalid value: <json>", "invalid value: <json>"]⟩, final) ∧
    final.health.store = .failed :=
  ⟨_, _, rfl, rfl, rfl⟩

end Service

end RoadRegistry
