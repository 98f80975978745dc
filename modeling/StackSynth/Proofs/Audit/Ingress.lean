import StackSynth.Proofs.Audit.Rules

/-!
What is reported of rules that let everyone in. Each rule for incoming traffic causes one finding at
most, in the order of the rules: one that lets everyone in on a web port alone causes none, and one
that reaches other ports causes one on its resource, unless its first port is a web port.
-/
namespace StackSynth.Audit

/-- A rule for incoming traffic stands in the list of a group or is a resource of its own. -/
inductive HasIngress (t : Template) : String → Json → Prop
  | listed {id : String} {group : Resource} {rules : List Json} {rule : Json}
      (there : t.resource? id = some group)
      (type : group.type = "AWS::EC2::SecurityGroup")
      (list : group.property? "SecurityGroupIngress" = some (.arr rules))
      (member : rule ∈ rules) : HasIngress t id rule
  | alone {id : String} {r : Resource}
      (there : t.resource? id = some r)
      (type : r.type = "AWS::EC2::SecurityGroupIngress") : HasIngress t id (.obj r.properties)

def OpenToWorld (rule : Json) : Prop := rule.field? "CidrIp" = some (.str "0.0.0.0/0")

/-- The ports of a rule, from the first to the last. -/
structure PortRange (rule : Json) (first last : Int) : Prop where
  starts : (rule.field? "FromPort").bind Json.asInt? = some first
  ends : (rule.field? "ToPort").bind Json.asInt? = some last

def IsWebPort (port : Int) : Prop := port = 80 ∨ port = 443

instance : DecidablePred IsWebPort := fun _ => inferInstanceAs (Decidable (_ ∨ _))

/-- What a rule that stands at a resource causes to be reported. -/
def complaint? (entry : String × Json) : Option Finding :=
  if isOpenToAll entry.2 && firstPort entry.2 != some 80 && firstPort entry.2 != some 443 then
    some ⟨"V006", .warning, entry.1, s!"open to the internet on port {portText (firstPort entry.2)}"⟩
  else none

variable {t : Template} {id : String} {rule : Json} {first last port : Int} {f : Finding}

theorem has_ingress_iff : HasIngress t id rule ↔ (id, rule) ∈ ingressRules t := by
  rw [ingressRules, List.mem_append]
  constructor
  · intro stands
    cases stands with
    | listed there type list member =>
      refine .inl (List.mem_flatMap.mpr ⟨_, Template.mem_resources_iff.mpr ⟨there, type⟩, ?_⟩)
      simpa [list, Json.asArr?] using member
    | alone there type =>
      exact .inr (List.mem_map.mpr ⟨_, Template.mem_resources_iff.mpr ⟨there, type⟩, rfl⟩)
  · rintro (listed | alone)
    · obtain ⟨⟨_, group⟩, there, inside⟩ := List.mem_flatMap.mp listed
      obtain ⟨_, member, same⟩ := List.mem_map.mp inside
      cases same
      obtain ⟨there, type⟩ := Template.mem_resources_iff.mp there
      cases list : group.property? "SecurityGroupIngress" with
      | none => simp [list] at member
      | some value =>
        cases value with
        | arr rules => exact .listed there type list (by simpa [list, Json.asArr?] using member)
        | _ => simp [list, Json.asArr?] at member
    · obtain ⟨⟨_, r⟩, there, same⟩ := List.mem_map.mp alone
      cases same
      obtain ⟨there, type⟩ := Template.mem_resources_iff.mp there
      exact .alone there type

theorem open_ingress_eq (t : Template) : openIngress t = (ingressRules t).filterMap complaint? := by
  rw [openIngress]
  induction ingressRules t with
  | nil => rfl
  | cons entry rest ih =>
    obtain ⟨id, rule⟩ := entry
    simp only [List.filter_cons, List.filterMap_cons, complaint?, ← ih]
    cases (isOpenToAll rule && firstPort rule != some 80 && firstPort rule != some 443) with
    | true => rfl
    | false => rfl

/-- The findings on open ports are what the rules cause, one after the other. -/
theorem open_port_findings (t : Template) :
    (findings t).filter (fun f => f.rule = "V006") = (ingressRules t).filterMap complaint? := by
  rw [filter_findings t fun rule => decide (rule = "V006"), ← open_ingress_eq]
  simp [sections]

theorem open_to_world_iff : isOpenToAll rule = true ↔ OpenToWorld rule := by
  rw [isOpenToAll, OpenToWorld, beq_iff_eq]
  cases rule.field? "CidrIp" with
  | none => simp
  | some value => cases value <;> simp [Json.asStr?]

/-- The first port counts where it has no sign. -/
theorem first_port_of_range (range : PortRange rule first last) :
    firstPort rule = if 0 ≤ first then some first.toNat else none := by
  simp [firstPort, range.starts]

theorem first_port_web_iff (range : PortRange rule first last) :
    IsWebPort first ↔ firstPort rule = some 80 ∨ firstPort rule = some 443 := by
  rw [first_port_of_range range, IsWebPort]
  split
  · simp only [Option.some.injEq]
    omega
  · simp only [reduceCtorEq, or_false, iff_false, not_or]
    omega

/-- Of the rules that let everyone in, those cause nothing whose first port is a web port. -/
theorem complaint_of_range (id : String) (everyone : OpenToWorld rule)
    (range : PortRange rule first last) : complaint? (id, rule) = if IsWebPort first then none else
      some ⟨"V006", .warning, id, s!"open to the internet on port {portText (firstPort rule)}"⟩ := by
  rw [complaint?, open_to_world_iff.mpr everyone]
  by_cases web : IsWebPort first
  · rw [if_pos web]
    rcases (first_port_web_iff range).mp web with low | high
    · simp [low]
    · simp [high]
  · rw [if_neg web]
    have other := mt (first_port_web_iff range).mpr web
    rw [not_or] at other
    simp [other.1, other.2]

/-- The findings on open ports are what the rules cause, each of them one at most and in their order.
A rule that lets everyone in and whose first port is no web port causes one on its resource, and one
that lets everyone in on a web port only causes none. -/
theorem open_ports_told (t : Template) :
    (∀ id rule, HasIngress t id rule ↔ (id, rule) ∈ ingressRules t) ∧
    (findings t).filter (fun f => f.rule = "V006") = (ingressRules t).filterMap complaint? ∧
    ∀ id rule first last, HasIngress t id rule → OpenToWorld rule → PortRange rule first last →
      (¬ IsWebPort first → ∃ f ∈ findings t, f.rule = "V006" ∧ f.logicalId = id ∧
        complaint? (id, rule) = some f) ∧
      (first = last → IsWebPort first → complaint? (id, rule) = none) := by
  refine ⟨fun _ _ => has_ingress_iff, open_port_findings t, ?_⟩
  intro id rule first last stands everyone range
  have caused := complaint_of_range id everyone range
  refine ⟨fun other => ?_, fun _ web => by rw [caused, if_pos web]⟩
  rw [if_neg other] at caused
  refine ⟨_, ?_, rfl, rfl, caused⟩
  have told : _ ∈ (ingressRules t).filterMap complaint? :=
    List.mem_filterMap.mpr ⟨(id, rule), has_ingress_iff.mp stands, caused⟩
  rw [← open_port_findings] at told
  exact (List.mem_filter.mp told).1

/-- A rule that lets everyone in on some ports. -/
def worldRule (first last : UInt64) : Json :=
  .obj [("CidrIp", .str "0.0.0.0/0"), ("FromPort", .nat first), ("IpProtocol", .str "tcp"),
    ("ToPort", .nat last)]

def groupTemplate (rules : List Json) : Template where
  resources := .ofList
    [("Group", .ofType "AWS::EC2::SecurityGroup" [("SecurityGroupIngress", .arr rules)])]

theorem world_rule_open (first last : UInt64) :
    OpenToWorld (worldRule first last) ∧ PortRange (worldRule first last) first.toNat last.toNat :=
  ⟨rfl, rfl, rfl⟩

/-- A port for shells is told and the web port beside it is not. -/
theorem shell_port_told :
    HasIngress (groupTemplate [worldRule 443 443, worldRule 22 22]) "Group" (worldRule 22 22) ∧
    ¬ IsWebPort 22 ∧ IsWebPort 443 ∧
    complaint? ("Group", worldRule 443 443) = none ∧
    ∃ f ∈ findings (groupTemplate [worldRule 443 443, worldRule 22 22]),
      f.rule = "V006" ∧ f.logicalId = "Group" := by
  have stands : ∀ rule ∈ [worldRule 443 443, worldRule 22 22],
      HasIngress (groupTemplate [worldRule 443 443, worldRule 22 22]) "Group" rule :=
    fun rule member => .listed rfl rfl rfl member
  obtain ⟨-, -, told⟩ := open_ports_told (groupTemplate [worldRule 443 443, worldRule 22 22])
  have shell := told "Group" _ _ _ (stands (worldRule 22 22) (by simp)) (world_rule_open 22 22).1
    (world_rule_open 22 22).2
  have web := told "Group" _ _ _ (stands (worldRule 443 443) (by simp)) (world_rule_open 443 443).1
    (world_rule_open 443 443).2
  obtain ⟨f, found, rule, id, -⟩ := shell.1 (by decide)
  exact ⟨stands _ (by simp), by decide, by decide, web.2 rfl (by decide), f, found, rule, id⟩

/-- A range that begins at a web port is not told, though everyone is let in on all ports behind it. -/
theorem wide_range_untold :
    HasIngress (groupTemplate [worldRule 80 65535]) "Group" (worldRule 80 65535) ∧
    OpenToWorld (worldRule 80 65535) ∧ PortRange (worldRule 80 65535) 80 65535 ∧
    (∃ port : Int, 80 ≤ port ∧ port ≤ 65535 ∧ ¬ IsWebPort port) ∧
    findings (groupTemplate [worldRule 80 65535]) = [] := by
  obtain ⟨everyone, range⟩ := world_rule_open 80 65535
  refine ⟨.listed rfl rfl rfl List.mem_cons_self, everyone, range, ⟨3389, by decide⟩, ?_⟩
  decide

end StackSynth.Audit
