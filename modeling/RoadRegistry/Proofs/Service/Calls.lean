import RoadRegistry.Proofs.Service.Start
import RoadRegistry.Proofs.Service.Stopping
import RoadRegistry.Proofs.Service.Supervision

namespace RoadRegistry.Service

inductive Call where
  | put (key : String) (road : Road)
  | remove (key : String)
  | record (key : Bytes) (value : Option Bytes)
  | refreshHealth
  | shutdown
  | supervise (events : List Event)
  | stop
  | passTime (atOnce : Bool) (millis : Nat)
  | outside (change : Cluster Road (Gated Reaction) Infrastructure →
      Cluster Road (Gated Reaction) Infrastructure)

/-- The process after a call. A supervision that goes on has not come back. -/
def Call.run (service : Service) : Call → Option Service
  | .put key road => some (service.put key road).2
  | .remove key => some (service.remove key).2
  | .record key value => some (service.record key value)
  | .refreshHealth => some service.refreshHealth.2
  | .shutdown => some service.shutdown
  | .supervise events => (service.supervise events).map (·.2)
  | .stop => some service.stop
  | .passTime atOnce millis => some (service.passTime atOnce millis)
  | .outside change =>
    some (service.mapSites fun site => { site with stores := change site.stores })

/-- What has become of a process that was started once at most, and the answer of that start. -/
inductive Reached (first : Service) : Option (Except Report Unit) → Service → Prop where
  | new : Reached first none first
  | start {service : Service} : Reached first none service →
      Reached first (some service.start.1) service.start.2
  | call {answer : Option (Except Report Unit)} {service after : Service} (call : Call) :
      Reached first answer service → call.run service = some after → Reached first answer after

def IsNew (service : Service) : Prop :=
  ∃ config brokers, create config brokers = .ok service ∨ ∃ log around held,
    createOn config { Site.create log around with held } brokers = .ok service

/-- What the health of the inspections goes by. -/
structure Plan where
  reconciler : Health
  offered : Option Bool
  site : Option Bool

def plan (service : Service) : Plan where
  reconciler := service.health.reconciler
  offered := service.offered.map fun site => site.inspections.tasks.isEmpty
  site := service.site.map fun site => site.inspections.tasks.isEmpty

def Plan.Sound (plan : Plan) : Option (Except Report Unit) → Prop
  | some (.ok ()) => plan.reconciler = .disabled ∨ plan.reconciler = .stopped ∨
      plan.reconciler = .healthy ∧ plan.site = some false
  | _ => plan.reconciler = .starting ∧ plan.offered ≠ some false ∧ plan.site ≠ some false

section Plan

variable {service after : Service} {answer : Option (Except Report Unit)}

theorem plan_of_site (change : Site → Site)
    (health : after.health = service.health) (offered : after.offered = service.offered)
    (site : after.site = service.site.map change)
    (kept : ∀ site, (change site).inspections.tasks.isEmpty = site.inspections.tasks.isEmpty) :
    after.plan = service.plan := by
  simp only [plan, health, offered, site, Option.map_map, Function.comp_def, kept]

theorem plan_onSite (step : Site → α × Site)
    (kept : ∀ site, (step site).2.inspections = site.inspections) (service : Service) :
    (service.onSite step).2.plan = service.plan := by
  unfold onSite
  cases there : service.site with
  | none => rfl
  | some site => simp only [plan, there, kept, Option.map_some]

theorem inspections_append (defaults : TopicDefaults) (key : Bytes) (value : Option Bytes)
    (site : Site) : (site.append defaults key value).2.inspections = site.inspections := by
  unfold Site.append
  split <;> rfl

theorem plan_record (key : Bytes) (value : Option Bytes) (service : Service) :
    (service.record key value).plan = service.plan :=
  plan_of_site _ rfl rfl rfl fun site => by rw [inspections_append]

theorem plan_shutdown (service : Service) : service.shutdown.plan = service.plan :=
  plan_of_site _ rfl rfl rfl fun _ => rfl

theorem plan_refreshHealth (service : Service) : service.refreshHealth.2.plan = service.plan := by
  unfold refreshHealth
  split <;> rfl

theorem plan_through (service : Service) (events : List Event) :
    (service.through events).plan = service.plan := by
  induction events generalizing service with
  | nil => rfl
  | cons event rest ih =>
    refine (ih (event.apply service)).trans ?_
    cases event with
    | interrupt | tick => rfl
    | shutdown => exact plan_shutdown service
    | record key value => exact plan_record key value service
    | outage message => exact plan_of_site _ rfl rfl rfl fun _ => rfl

theorem inspections_scanTimes (defaults : TopicDefaults) (count : Nat) (site : Site) :
    (site.scanTimes defaults count).inspections = site.inspections := by
  induction count generalizing site with
  | zero => rfl
  | succ count ih => exact ih (site.scan defaults)

theorem isEmpty_endTasks (schedule : Schedule) :
    schedule.endTasks.tasks.isEmpty = schedule.tasks.isEmpty := by
  unfold Schedule.endTasks
  split
  · exact List.isEmpty_map
  · rfl

theorem isEmpty_forTasks (schedule : Schedule) (step : ScheduledTask → Nat × ScheduledTask) :
    (schedule.forTasks step).2.tasks.isEmpty = schedule.tasks.isEmpty := by
  simp only [Schedule.forTasks, List.isEmpty_map]

theorem isEmpty_pass (defaults : TopicDefaults) (millis : Nat) (site : Site) :
    (site.pass defaults millis).inspections.tasks.isEmpty = site.inspections.tasks.isEmpty := by
  simp only [Site.pass, Site.run, inspections_scanTimes, Schedule.elapse, isEmpty_forTasks,
    isEmpty_endTasks]

theorem isEmpty_leap (defaults : TopicDefaults) (millis : Nat) (site : Site) :
    (site.leap defaults millis).inspections.tasks.isEmpty = site.inspections.tasks.isEmpty := by
  simp only [Site.leap, isEmpty_pass, Site.run, inspections_scanTimes, Schedule.leap,
    isEmpty_forTasks, isEmpty_endTasks]

theorem plan_passTime (atOnce : Bool) (millis : Nat) (service : Service) :
    (service.passTime atOnce millis).plan = service.plan := by
  refine plan_of_site _ rfl rfl rfl fun site => ?_
  cases atOnce
  · exact isEmpty_pass ..
  · exact isEmpty_leap ..

theorem plan_mapStores (change : Cluster Road (Gated Reaction) Infrastructure →
      Cluster Road (Gated Reaction) Infrastructure) (service : Service) :
    (service.mapSites fun site => { site with stores := change site.stores }).plan =
      service.plan := by
  simp only [plan, mapSites, Option.map_map, Function.comp_def]

theorem plan_stop (service : Service) : service.stop.plan = {
    reconciler := if service.plan.site = some false then .stopped else service.plan.reconciler
    offered := service.plan.offered
    site := none } := by
  cases there : service.site with
  | none => simp [plan, stop_eq, stoppedHealth, there]
  | some site =>
    simp only [plan, stop_eq, stoppedHealth, there, Option.map_none, Option.map_some]
    cases site.inspections.tasks.isEmpty <;> rfl

theorem Plan.Sound.stop (sound : service.plan.Sound answer) :
    service.stop.plan.Sound answer := by
  rw [plan_stop]
  match answer with
  | some (.ok ()) =>
    rcases sound with disabled | stopped | ⟨_, scheduled⟩
    · simp only [Sound, disabled]
      split
      · exact .inr (.inl rfl)
      · exact .inl rfl
    · simp [Sound, stopped]
    · simp [Sound, scheduled]
  | none | some (.error report) =>
    obtain ⟨starting, unoffered, unscheduled⟩ := sound
    simp [Sound, starting, unoffered, unscheduled]

theorem exists_stop_of_supervise {final : Service} {events : List Event}
    {outcome : Except Report Unit} (ended : service.supervise events = some (outcome, final)) :
    ∃ seen, final = (service.through seen).stop := by
  obtain ⟨seen, rest, split, borne, last⟩ := exists_last service events
  refine ⟨seen, ?_⟩
  rw [split, supervise_append borne] at ended
  rcases supervise_of_last last with ⟨_, done⟩ | ⟨_, _, _, _, done⟩ | ⟨_, _, done⟩
  all_goals
    rw [done] at ended
    cases ended
  · rfl
  · rfl

theorem Plan.Sound.run (sound : service.plan.Sound answer) {call : Call}
    (run : call.run service = some after) : after.plan.Sound answer := by
  have same (kept : after.plan = service.plan) : after.plan.Sound answer := by rwa [kept]
  cases call with
  | put key road =>
    cases run
    exact same (plan_onSite _ (fun _ => rfl) service)
  | remove key =>
    cases run
    exact same (plan_onSite _ (fun _ => rfl) service)
  | record key value =>
    cases run
    exact same (plan_record key value service)
  | refreshHealth =>
    cases run
    exact same (plan_refreshHealth service)
  | shutdown =>
    cases run
    exact same (plan_shutdown service)
  | supervise events =>
    obtain ⟨⟨outcome, final⟩, ended, rfl⟩ := Option.map_eq_some_iff.mp run
    obtain ⟨seen, rfl⟩ := exists_stop_of_supervise ended
    exact Plan.Sound.stop (by rwa [plan_through])
  | stop =>
    cases run
    exact sound.stop
  | passTime atOnce millis =>
    cases run
    exact same (plan_passTime atOnce millis service)
  | outside change =>
    cases run
    exact same (plan_mapStores change service)

theorem tasks_openSite {config : Config} {clock : Clock} {brokers : Brokers} {site : Site}
    (opened : Transport.openSite config clock brokers = .ok site) :
    site.inspections.tasks = [] := by
  obtain ⟨roadLog, _, opened⟩ := exists_of_bind_eq_ok opened
  obtain ⟨patchLog, _, opened⟩ := exists_of_bind_eq_ok opened
  cases opened
  rfl

theorem tasks_nextSite {site : Site} (next : service.nextSite = .ok site)
    (unoffered : service.plan.offered ≠ some false) : site.inspections.tasks = [] := by
  unfold nextSite at next
  cases offered : service.offered with
  | some given =>
    rw [offered] at next
    cases next
    simpa [plan, offered, List.isEmpty_eq_false_iff] using unoffered
  | none =>
    rw [offered] at next
    exact tasks_openSite next

theorem start_cases (service : Service) :
    (∃ report, service.start = (.error report, service)) ∨
      ∃ site, service.nextSite = .ok site ∧
        ((∃ report, service.start = (.error report, { (service.connect site).2 with
            health := { (service.connect site).2.health with store := .failed } })) ∨
          service.start =
            (.ok (), (service.connect site).2.enterService (service.connect site).1)) := by
  cases next : service.nextSite with
  | error report => exact .inl ⟨report, by simp only [start, next]⟩
  | ok site =>
    refine .inr ⟨site, rfl, ?_⟩
    cases waited : (service.connect site).1.waitUntilCaughtUp
        (service.connect site).2.config.store.catchUpTimeout with
    | error error =>
      exact .inl ⟨(Report.ofStoreError error).context "road store failed to catch up",
        by simp only [start, next, waited]⟩
    | ok _ => exact .inr (by simp only [start, next, waited])

theorem Plan.Sound.start (sound : service.plan.Sound none) :
    service.start.2.plan.Sound (some service.start.1) := by
  obtain ⟨starting, unoffered, unscheduled⟩ := sound
  rcases start_cases service with ⟨report, refused⟩ | ⟨site, next, ⟨report, refused⟩ | entered⟩
  · rw [refused]
    exact ⟨starting, unoffered, unscheduled⟩
  · have none_yet := tasks_nextSite next unoffered
    rw [refused]
    exact ⟨starting, nofun, by simp [plan, connect, Site.startStore, none_yet]⟩
  · rw [entered]
    cases inspects : (service.connect site).2.inspects with
    | false =>
      exact .inl (by simp only [plan, enterService, inspects, Bool.false_eq_true, ite_false])
    | true =>
      refine .inr (.inr ⟨?_, ?_⟩)
      · simp only [plan, enterService, inspects, ite_true]
      · simp [plan, enterService, inspects, Site.scheduleInspections, Schedule.add]

theorem IsNew.plan_sound (new : service.IsNew) : service.plan.Sound none := by
  obtain ⟨config, brokers, made | ⟨log, around, held, made⟩⟩ := new
  · unfold create at made
    cases valid : config.validate with
    | error report =>
      rw [valid] at made
      cases made
    | ok _ =>
      rw [valid] at made
      cases made
      exact ⟨rfl, nofun, nofun⟩
  · rw [eq_of_createOn made]
    exact ⟨rfl, by simp [plan, Site.create], nofun⟩

theorem Reached.plan_sound {first : Service} (new : first.IsNew)
    (reached : Reached first answer service) : service.plan.Sound answer := by
  induction reached with
  | new => exact new.plan_sound
  | start _ sound => exact sound.start
  | call call _ run sound => exact sound.run run

theorem reconciler_stop (sound : service.plan.Sound answer) :
    answer = some (.ok ()) ∧ (service.stop.health.reconciler = .stopped ∨
        service.stop.health.reconciler = .disabled) ∨
      answer ≠ some (.ok ()) ∧ service.stop.health.reconciler = .starting := by
  have left : service.stop.plan.Sound answer := sound.stop
  match answer with
  | some (.ok ()) =>
    refine .inl ⟨rfl, ?_⟩
    rcases left with disabled | stopped | ⟨_, scheduled⟩
    · exact .inr disabled
    · exact .inl stopped
    · cases scheduled
  | none | some (.error report) => exact .inr ⟨nofun, left.1⟩

end Plan

/-- What a stop leaves of a process that was started once at most. The process does not run, is not
ready and holds on to nothing; its changelog and its reaction have come to an end, and so has its
store, which counts as failed exactly if it was reported so or had failed. To stop once more changes
nothing. The health of the inspections has come to an end exactly if the start had succeeded;
otherwise they are still said to be starting. -/
theorem stopped_for_good {first service : Service} {answer : Option (Except Report Unit)}
    (new : first.IsNew) (reached : Reached first answer service) :
    let final := service.stop
    (final.running = false ∧ final.isReady = false ∧ final.site = none) ∧
      final.health.changelog = .stopped ∧
      (final.health.reaction = .stopped ∨ final.health.reaction = .disabled) ∧
      (final.health.store = .failed ↔
        service.health.store = .failed ∨ service.failure ≠ none) ∧
      (final.health.store = .stopped ↔
        ¬ (service.health.store = .failed ∨ service.failure ≠ none)) ∧
      ((final.health.reconciler = .stopped ∨ final.health.reconciler = .disabled) ↔
        answer = some (.ok ())) ∧
      (answer ≠ some (.ok ()) → final.health.reconciler = .starting) ∧
      final.stop = final := by
  intro final
  have failed : service.hasFailed = true ↔
      service.health.store = .failed ∨ service.failure ≠ none := by
    simp only [hasFailed, Bool.or_eq_true, decide_eq_true_eq, Option.isSome_iff_ne_none]
  have store : final.health.store = if service.hasFailed then .failed else .stopped :=
    store_stop service
  have reaction : final.health.reaction =
      if service.health.reaction = .disabled then .disabled else .stopped := rfl
  have store_ended : (final.health.store = .failed ↔
        service.health.store = .failed ∨ service.failure ≠ none) ∧
      (final.health.store = .stopped ↔
        ¬ (service.health.store = .failed ∨ service.failure ≠ none)) := by
    rw [store, ← failed]
    cases service.hasFailed <;> simp
  have reaction_ended : final.health.reaction = .stopped ∨ final.health.reaction = .disabled := by
    rw [reaction]
    split
    · exact .inr rfl
    · exact .inl rfl
  refine ⟨⟨rfl, rfl, rfl⟩, rfl, reaction_ended, store_ended.1, store_ended.2, ?_, ?_,
    stop_stop service⟩
  · rcases reconciler_stop (reached.plan_sound new) with ⟨succeeded, ended⟩ | ⟨failed, starting⟩
    · exact ⟨fun _ => succeeded, fun _ => ended⟩
    · refine ⟨fun ended => ?_, fun succeeded => absurd succeeded failed⟩
      have same : final.health.reconciler = .starting := starting
      simp [same] at ended
  · rcases reconciler_stop (reached.plan_sound new) with ⟨succeeded, _⟩ | ⟨_, starting⟩
    · exact fun failed => absurd succeeded failed
    · exact fun _ => starting

theorem failed_store_is_stopped_for_good :
    ∃ first service : Service, onEmptyLog = .ok first ∧ first.IsNew ∧
      Reached first (some (.ok ())) service ∧ service.isReady = true ∧ service.failure ≠ none ∧
      service.stop.isReady = false ∧ service.stop.health.store = .failed ∧
      (service.stop.health.reconciler = .stopped ∨
        service.stop.health.reconciler = .disabled) ∧ service.stop.stop = service.stop := by
  obtain ⟨first, made, succeeded, ready, failed⟩ : ∃ first : Service, onEmptyLog = .ok first ∧
      first.start.1 = .ok () ∧ (unreadable.apply first.start.2).isReady = true ∧
        (unreadable.apply first.start.2).failure ≠ none :=
    ⟨_, rfl, rfl, rfl, nofun⟩
  have new : first.IsNew := ⟨_, _, .inr ⟨_, _, false, made⟩⟩
  have reached : Reached first (some (.ok ())) (unreadable.apply first.start.2) :=
    .call (.record _ _) (succeeded ▸ .start .new) rfl
  obtain ⟨⟨_, unready, _⟩, _, _, store, _, reconciler, _, again⟩ := stopped_for_good new reached
  exact ⟨first, _, made, new, reached, ready, failed, unready, store.mpr (.inr failed),
    reconciler.mpr rfl, again⟩

def onSpoiledLog : Except Report Service :=
  createOn (.ofMode .memory) (Site.create ((Log.create "_roads" 1).after spoiled)
    ⟨⟨1⟩, Log.create "_roadmodification" 1, {}⟩)

theorem failed_start_leaves_inspections_starting :
    ∃ first report, onSpoiledLog = .ok first ∧ first.start.1 = .error report ∧
      Reached first (some (.error report)) first.start.2 ∧
      first.start.2.stop.health = ⟨.stopped, .failed, .stopped, .starting⟩ ∧
      first.start.2.stop.stop = first.start.2.stop :=
  ⟨_, _, rfl, rfl, .start .new, rfl, rfl⟩

end RoadRegistry.Service
