import RoadRegistry.Proofs.Cluster.Stopping
import RoadRegistry.Service.Basic

namespace RoadRegistry

namespace ScheduledTask

theorem runTo_of_ended {task : ScheduledTask} (ended : task.ended = true) (start now : Nat) :
    runTo now (task.arm start) = (0, task) := by
  simp only [arm, ended, ite_true, runTo, Bool.true_or]
  split <;> rfl

end ScheduledTask

namespace Schedule

variable {s : Schedule}

theorem forTasks_of_idle {step : ScheduledTask → Nat × ScheduledTask}
    (idle : ∀ task ∈ s.tasks, step task = (0, task)) : s.forTasks step = (0, s) := by
  have steps : s.tasks.map step = s.tasks.map fun task => (0, task) := List.map_congr_left idle
  have total : (s.tasks.map fun task => (0, task)).foldl
      (fun (total : Nat) (result : Nat × ScheduledTask) => total + result.1) 0 = 0 := by
    simp [List.foldl_map]
  simp only [forTasks, steps, total, List.map_map, Function.comp_def, List.map_id']

theorem ended_endTasks (asked : s.stopping = true) :
    ∀ task ∈ s.endTasks.tasks, task.ended = true := by
  simp only [endTasks, asked, Bool.true_or, ite_true, List.mem_map]
  rintro _ ⟨task, _, rfl⟩
  rfl

theorem endTasks_of_ended (ended : ∀ task ∈ s.tasks, task.ended = true) : s.endTasks = s := by
  have same : s.tasks.map (fun task => { task with ended := true }) = s.tasks := by
    refine (List.map_congr_left fun task member => ?_).trans (List.map_id s.tasks)
    rw [← ended task member]
    rfl
  unfold endTasks
  rw [same, ite_self]

theorem stopping_endTasks (s : Schedule) : s.endTasks.stopping = s.stopping := by
  unfold endTasks
  split <;> rfl

theorem elapse_zero_of_stopping (asked : s.stopping = true) : s.elapse 0 = (0, s.endTasks) := by
  have idle : ∀ task ∈ s.endTasks.tasks,
      ScheduledTask.runTo (s.endTasks.now + 0) (task.arm s.endTasks.now) = (0, task) :=
    fun task member => ScheduledTask.runTo_of_ended (ended_endTasks asked task member) _ _
  exact forTasks_of_idle (s := s.endTasks) idle

end Schedule

namespace Site

variable {site : Site}

def ended (site : Site) : Site := { site with inspections := site.inspections.endTasks }

theorem expire_look_of_stopping (defaults : TopicDefaults)
    (asked : site.inspections.stopping = true) :
    (site.look defaults).expire defaults = site.ended.close defaults := by
  have looked : site.look defaults = site.ended := by
    simp only [look, run, Schedule.elapse_zero_of_stopping asked, scanTimes, ended]
  have uninspected : site.ended.isInspected = false := by
    rw [isInspected, List.any_eq_false]
    intro task member
    simpa using Schedule.ended_endTasks asked task member
  rw [looked, expire, uninspected]
  rfl

theorem expired_once (defaults : TopicDefaults) (asked : site.inspections.stopping = true) :
    let expired := (site.look defaults).expire defaults
    expired.inspections.stopping = true ∧ (expired.look defaults).expire defaults = expired := by
  intro expired
  have left : expired = site.ended.close defaults := expire_look_of_stopping defaults asked
  have still : expired.inspections.stopping = true := by
    rw [left]
    exact site.inspections.stopping_endTasks.trans asked
  have all_ended : expired.ended = expired := by
    have same : expired.inspections.endTasks = expired.inspections := by
      rw [left]
      exact Schedule.endTasks_of_ended (Schedule.ended_endTasks asked)
    rw [ended, same]
  refine ⟨still, ?_⟩
  rw [expire_look_of_stopping defaults still, all_ended, left]
  exact congrArg (fun stores => { site.ended with stores })
    (Cluster.close_close (Infrastructure.following defaults) storeName site.stores)

end Site

namespace Service

def leaving (service : Service) : List Site :=
  service.shutdown.released ++
    (service.shutdown.site.map fun site => site.mute.close service.defaults).toList

theorem stop_eq (service : Service) : service.stop = { service with
    stopping := true
    site := none
    released := service.leaving.map fun site =>
      (site.look service.defaults).expire service.defaults
    running := false
    reacting := false
    health := service.stoppedHealth } := rfl

theorem inspections_onReactions (site : Site) (change : Gated Reaction → Gated Reaction) :
    (site.onReactions change).inspections = site.inspections := by
  unfold Site.onReactions
  split <;> rfl

theorem stopping_of_leaving {service : Service} {site : Site} (left : site ∈ service.leaving) :
    site.inspections.stopping = true := by
  rcases List.mem_append.mp left with earlier | last
  · obtain ⟨other, _, rfl⟩ := List.mem_map.mp earlier
    rfl
  · cases there : service.site with
    | none => simp [shutdown, there] at last
    | some other =>
      simp only [shutdown, there, Option.map_some, Option.toList_some, List.mem_singleton] at last
      rw [last]
      exact congrArg Schedule.stopping (inspections_onReactions _ _)

theorem released_stop {service : Service} {site : Site} (left : site ∈ service.stop.released) :
    site.inspections.stopping = true ∧
      (site.look service.defaults).expire service.defaults = site := by
  rw [stop_eq] at left
  obtain ⟨before, leaving, rfl⟩ := List.mem_map.mp left
  exact Site.expired_once service.defaults (stopping_of_leaving leaving)

theorem stoppedHealth_stop (service : Service) :
    service.stop.stoppedHealth = service.stoppedHealth := by
  have failed : service.stop.hasFailed = service.hasFailed := by
    have reported : service.stop.hasFailed =
        (decide ((if service.hasFailed then Health.failed else .stopped) = .failed) || false) := rfl
    rw [reported]
    cases service.hasFailed <;> rfl
  have reaction : service.stoppedHealth.reaction =
      if service.stoppedHealth.reaction = .disabled then .disabled else .stopped := by
    simp only [stoppedHealth]
    split <;> rfl
  change (⟨.stopped, if service.stop.hasFailed then .failed else .stopped,
    if service.stoppedHealth.reaction = .disabled then .disabled else .stopped,
    service.stoppedHealth.reconciler⟩ : HealthReport) = _
  rw [failed, ← reaction]
  rfl

theorem stop_stop (service : Service) : service.stop.stop = service.stop := by
  -- A second stop asks the sites that are left once more, and looks at them once more.
  have sent : service.stop.released.map (fun (site : Site) =>
      { site with inspections := site.inspections.send true }) = service.stop.released := by
    refine (List.map_congr_left fun site left => ?_).trans (List.map_id service.stop.released)
    have asked := (released_stop left).1
    rw [Schedule.send, ← asked]
    rfl
  have leaving : service.stop.leaving = service.stop.released := by
    refine Eq.trans ?_ sent
    exact List.append_nil _
  have released : service.stop.leaving.map (fun site =>
      (site.look service.defaults).expire service.defaults) = service.stop.released := by
    rw [leaving]
    exact (List.map_congr_left fun site left => (released_stop left).2).trans (List.map_id _)
  have again := stop_eq service.stop
  rw [stoppedHealth_stop] at again
  refine again.trans ?_
  exact congrArg (fun released => { service.stop with released }) released

end Service

end RoadRegistry
