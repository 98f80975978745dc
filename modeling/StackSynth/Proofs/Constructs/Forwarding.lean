import StackSynth.Proofs.Constructs.Composed
import StackSynth.Proofs.Constructs.Targets
import StackSynth.Proofs.Stack.Allocation
import StackSynth.Proofs.Stack.Placement

/-!
What a listener does with what comes in. It forwards to one group of targets at most. The services
among these are entered with the first port of their container, let the load balancer in, and wait
for the listener and the group.
-/
namespace StackSynth

variable {s s' : Stack} {known : List Handle} {l : Listener} {group : TargetGroup} {id : String}
  {port : UInt16} {protocol : ApplicationProtocol} {targets : List Target}

namespace Listener

variable (takes : l.Takes group port targets s s')

include takes

/-- Of a listener that had nothing to do, the action is all that it does. -/
theorem Takes.action : ∃ r, s'.resource? l.logicalId = some r ∧
    r.property? actionsKey = some (.arr [forward group]) := by
  have listed : s'.listAt l.logicalId actionsKey = [forward group] := by
    rw [takes.enters.lists _ _ (by decide), takes.idle, gains, if_pos ⟨rfl, rfl⟩,
      Target.entries_other_key (by decide)]
    rfl
  have some_listed : s'.listAt l.logicalId actionsKey ≠ [] := by
    rw [listed]
    exact List.cons_ne_nil _ _
  rw [← listed]
  exact Stack.resource_of_list_at some_listed

theorem Takes.entered (id : String) : s'.listAt id "LoadBalancers" =
    s.listAt id "LoadBalancers" ++
      targets.flatMap fun target => target.entries group s id "LoadBalancers" := by
  rw [takes.enters.lists _ _ (by decide), gains_other_key (by decide)]

end Listener

/-- A service with a container on port 3000, and a listener that has nothing to do yet. -/
def webService : Declaring (Listener × Service) := do
  let vpc ← Vpc.declare "Vpc"
    { zones := 1, natGateways := some 0, groups := [⟨"Outer", .isPublic⟩] }
  let cluster ← Cluster.declare "Cluster"
  let task ← TaskDefinition.declare "Task" {}
  let (task, _) ← task.addContainer "web" { image := .registry "nginx", ports := [⟨3000, .tcp⟩] }
  let service ← Service.declare "Web" cluster task vpc {}
  let balancer ← LoadBalancer.declare "Balancer" vpc true
  let listener ← Listener.declare balancer "Listener" { port := 80 }
  return (listener, service)

/-- The service can be made a target of the listener. -/
theorem web_service_ran {inner : Service} (made : blank.run webService = (.ok (l, inner), s)) :
    ∃ known, Ran s known ∧
      ∀ port, (Operation.addTargets l "Web" port .http [.service inner]).Possible s known := by
  obtain ⟨vpc, s₁, vpc_made, made⟩ := run_bind_ok made
  obtain ⟨cluster, s₂, cluster_made, made⟩ := run_bind_ok made
  obtain ⟨task, s₃, task_made, made⟩ := run_bind_ok made
  obtain ⟨⟨grown, container⟩, s₄, container_made, made⟩ := run_bind_ok made
  obtain ⟨service, s₅, service_made, made⟩ := run_bind_ok made
  obtain ⟨balancer, s₆, balancer_made, made⟩ := run_bind_ok made
  obtain ⟨listener, s₇, listener_made, made⟩ := run_bind_ok made
  cases made
  have ran := blank_ran.next (.vpc _ _) rfl vpc_made (by simp [Operation.uses]) rfl (by simp)
  have ran := ran.next (.cluster _) rfl cluster_made (by simp [Operation.uses]) rfl (by simp)
  have ran := ran.next (.task _ _) rfl task_made (by simp [Operation.uses]) rfl (by simp)
  have ran := ran.next (.addContainer _ _ _) rfl container_made
    (by simp [Operation.uses, Operation.imageOf]) rfl (by simp)
  have ran := ran.next (.service _ _ _ _ _) rfl service_made
    (by simp [Operation.uses]) rfl (by simp)
  have ran := ran.next (.loadBalancer _ _ _) rfl balancer_made
    (by simp [Operation.uses]) rfl (by simp)
  have ran := ran.next (.listener _ _ _) rfl listener_made
    (by simp [Operation.uses]) rfl (by simp)
  exact ⟨_, ran, fun port => ⟨by simp [Operation.uses, Operation.handlesOf],
    by simp [Operation.others, Operation.otherId?], by simp⟩⟩

/-- Adds the service to the listener as its target. -/
def webTarget (l : Listener) (inner : Service) (port : UInt16) : Declaring TargetGroup :=
  l.addTargets "Web" port .http [.service inner]

/-- The container has its port, no group lets another one in, and the service can be added on that
port as well as on others. -/
theorem web_service_made : ∃ (s : Stack) (l : Listener) (inner : Service),
    blank.run webService = (.ok (l, inner), s) ∧
    inner.defaultContainer.port? s = some 3000 ∧
    s.declared.entries.all (·.2.resource.type != "AWS::EC2::SecurityGroupIngress") = true ∧
    (s.listAt inner.securityGroup.logicalId "SecurityGroupIngress").isEmpty = true ∧
    ∀ port ∈ [80, 3000], ∃ (s' : Stack) (group : TargetGroup) (t : Template),
      s.run (webTarget l inner port) = (.ok group, s') ∧ s'.synthesize = .ok t := by
  have checked : (match blank.run webService with
    | (.ok (l, inner), s) => inner.defaultContainer.port? s == some 3000 &&
        s.declared.entries.all (·.2.resource.type != "AWS::EC2::SecurityGroupIngress") &&
        (s.listAt inner.securityGroup.logicalId "SecurityGroupIngress").isEmpty &&
        [80, 3000].all fun port => match s.run (webTarget l inner port) with
          | (.ok _, s') => s'.synthesize.toOption.isSome
          | (.error _, _) => false
    | (.error _, _) => false) = true := by
    -- All that declares something is opened up to the ids, which are counted then.
    delta webService webTarget Vpc.declare Vpc.declareGateway Vpc.declareGroups
      Vpc.declareGroups._f Vpc.declareZones Vpc.declareZones._f Vpc.declareNat Vpc.routeEgress
      Vpc.addEndpoint Subnet.declare SecurityGroup.declare SecurityGroup.allowFrom
      LoadBalancer.declare Listener.declare Listener.addTargets Listener.attach
      Cluster.declare TaskDefinition.declare TaskDefinition.addContainer
      TaskDefinition.declareLogging TaskDefinition.roleOr Service.declare
      ImageAsset.grantPull LogGroup.declare LogGroup.grantWrite Role.declare Role.grant
      Role.addToPolicy Role.ensurePolicy Role.defaultPolicy? Stack.declare LogicalId.ofPath
    rw [LogicalId.numbered_eq_counted]
    decide +kernel
  split at checked
  · next l inner s made =>
    simp only [Bool.and_eq_true] at checked
    obtain ⟨⟨⟨port, others⟩, empty⟩, targeted⟩ := checked
    refine ⟨s, l, inner, made, beq_iff_eq.mp port, others, empty, fun port member => ?_⟩
    have added := List.all_eq_true.mp targeted port member
    split at added
    · next group s' outcome =>
      cases synthesized : s'.synthesize with
      | ok t => exact ⟨s', group, t, outcome, synthesized⟩
      | error e =>
        rw [synthesized] at added
        cases added
    · cases added
  · cases checked

end StackSynth
