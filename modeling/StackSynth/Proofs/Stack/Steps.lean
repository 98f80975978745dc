import Mathlib.Logic.Relation
import StackSynth.Audit
import StackSynth.Data.AutoDelete
import StackSynth.Network.LoadBalancer
import StackSynth.Proofs.Stack.Agreement
import StackSynth.Proofs.Template.References

/-!
What declaring constructs does to a stack, one change after the other: a resource is declared, a
property of one that is there grows, a wait is put on record, or nothing that is deployed changes.
The terms say how much a caller may ask for.
-/
namespace StackSynth

/-- The properties that may change once a resource is declared. -/
def grownKeys : List String := [
  Container.listKey, Listener.actionsKey, "LoadBalancers", Role.managedPolicyKey, "PolicyDocument",
  "SecurityGroupIngress"]

/-- Resources of a higher layer are grown after they are declared or wait for others, so they may
need what was declared later, as long as it is of a lower layer. -/
def layer (type : String) : Nat :=
  if type ∈ ["AWS::Lambda::Function", "AWS::Cognito::UserPoolClient"] then 1
  else if type ∈ ["AWS::IAM::Policy", "AWS::S3::BucketPolicy", "AWS::ECS::TaskDefinition",
    "AWS::ElasticLoadBalancingV2::Listener"] then 2
  else if type ∈ ["AWS::ECS::Service", "Custom::S3AutoDeleteObjects"] then 3
  else 0

namespace Stack

variable {s s' : Stack} {id key : String} {path : List String} {type : String} {value : Json}

/-- A resource of some type is declared under a path. -/
def At (s : Stack) (id : String) (path : List String) (type : String) : Prop :=
  ∃ d, s.declared.get? id = some d ∧ d.path = path ∧ d.resource.type = type

def HasProperty (s : Stack) (id key : String) (value : Json) : Prop :=
  ∃ d, s.declared.get? id = some d ∧ d.resource.property? key = some value

/-- Whether the id of the function that empties buckets is that of another resource. -/
def HandlerTaken (s : Stack) : Prop :=
  ∃ id path type, LogicalId.ofPath AutoDelete.handlerPath = .ok id ∧ s.At id path type ∧
    path ≠ AutoDelete.handlerPath

/-- A listener that has something to do by default. -/
def Acts (s : Stack) (id : String) : Prop :=
  ∃ d first rest, s.declared.get? id = some d ∧
    d.resource.property? Listener.actionsKey = some (.arr (first :: rest))

/-- What is declared stays, and so do all properties but those that grow. -/
structure Grows (s s' : Stack) : Prop where
  declared : ∀ id d, s.declared.get? id = some d → ∃ d', s'.declared.get? id = some d' ∧
    d'.path = d.path ∧ d'.resource.type = d.resource.type ∧
    ∀ key ∉ grownKeys, d'.resource.property? key = d.resource.property? key
  waits : s.waits ⊆ s'.waits
  acts : ∀ id, s.Acts id → s'.Acts id

theorem grows_refl (s : Stack) : Grows s s :=
  ⟨fun _ d found => ⟨d, found, rfl, rfl, fun _ _ => rfl⟩, List.Subset.refl _, fun _ acts => acts⟩

theorem grows_trans {s₁ s₂ s₃ : Stack} (first : Grows s₁ s₂) (second : Grows s₂ s₃) :
    Grows s₁ s₃ := by
  refine ⟨fun id d found => ?_, List.Subset.trans first.waits second.waits, fun id acts =>
    second.acts id (first.acts id acts)⟩
  obtain ⟨d₂, found₂, path₂, type₂, same₂⟩ := first.declared id d found
  obtain ⟨d₃, found₃, path₃, type₃, same₃⟩ := second.declared id d₂ found₂
  exact ⟨d₃, found₃, path₃.trans path₂, type₃.trans type₂,
    fun key fixed => (same₃ key fixed).trans (same₂ key fixed)⟩

theorem Grows.at_ (grows : Grows s s') (there : s.At id path type) : s'.At id path type := by
  obtain ⟨d, found, rfl, rfl⟩ := there
  obtain ⟨d', found', same_path, same_type, _⟩ := grows.declared id d found
  exact ⟨d', found', same_path, same_type⟩

theorem Grows.hasProperty (grows : Grows s s') (fixed : key ∉ grownKeys)
    (has : s.HasProperty id key value) : s'.HasProperty id key value := by
  obtain ⟨d, found, holds⟩ := has
  obtain ⟨d', found', _, _, same⟩ := grows.declared id d found
  exact ⟨d', found', (same key fixed).trans holds⟩

theorem contains_iff_at (s : Stack) (id : String) :
    s.contains id = true ↔ ∃ path type, s.At id path type := by
  rw [contains, OrderedMap.contains, Option.isSome_iff_exists]
  constructor
  · rintro ⟨d, found⟩
    exact ⟨d.path, d.resource.type, d, found, rfl, rfl⟩
  · rintro ⟨path, type, d, found, _, _⟩
    exact ⟨d, found⟩

theorem At.contains (there : s.At id path type) : s.contains id = true :=
  (contains_iff_at s id).mpr ⟨path, type, there⟩

theorem Grows.contains (grows : Grows s s') (known : s.contains id = true) :
    s'.contains id = true := by
  obtain ⟨path, type, there⟩ := (contains_iff_at s id).mp known
  exact (grows.at_ there).contains

theorem Grows.handlerTaken (grows : Grows s s') (taken : s.HandlerTaken) : s'.HandlerTaken := by
  obtain ⟨id, path, type, named, there, other⟩ := taken
  exact ⟨id, path, type, named, grows.at_ there, other⟩

/-- A resource has one path and one type. -/
theorem At.unique {path' : List String} {type' : String} (there : s.At id path type)
    (again : s.At id path' type') : path = path' ∧ type = type' := by
  obtain ⟨d, found, rfl, rfl⟩ := there
  obtain ⟨d', found', rfl, rfl⟩ := again
  rw [found] at found'
  cases found'
  exact ⟨rfl, rfl⟩

theorem Grows.resolves {w : Wait} (grows : Grows s s') (resolves : s.Resolves w) :
    s'.Resolves w := by
  refine ⟨?_, grows.contains resolves.2⟩
  obtain ⟨answer, member⟩ := List.exists_mem_of_ne_nil _ resolves.1
  obtain ⟨other, d, found, below⟩ := (mem_waited_for w answer).mp member
  obtain ⟨d', found', same_path, _⟩ := grows.declared answer d found
  exact List.ne_nil_of_mem ((mem_waited_for w answer).mpr ⟨other, d', found', same_path ▸ below⟩)

end Stack

/-- How much a caller may ask for. -/
structure Terms where
  /-- What the values that a caller supplies may refer to. -/
  refers : Stack → String → Prop
  /-- Under which paths resources of which types may be declared. -/
  declares : List String → String → Prop
  /-- The ports that may be opened to everyone. -/
  opens : UInt16 → Prop
  /-- Resources of which types may wait for which paths. -/
  awaits : String → List String → Prop
  refers_grows : ∀ {s s' : Stack} {id : String}, s.Grows s' → refers s id → refers s' id

/-- Whether a resource of a type may need a target, as far as the stack has got. -/
inductive Admits (t : Terms) (s : Stack) (type target : String) : Prop
  | below {path : List String} {lower : String} (there : s.At target path lower)
    (lower_layer : layer lower < layer type ∨ layer lower = 0 ∧ layer type = 0)
  | supplied (late : 2 ≤ layer type) (refers : t.refers s target)
  | taken (taken : s.HandlerTaken)
    (known : s.contains target = true ∨ LogicalId.ofPath AutoDelete.rolePath = .ok target)

/-- A rule that lets everyone in does so on a port that may be opened. -/
def Guarded (t : Terms) (rule : Json) : Prop :=
  Audit.isOpenToAll rule = true → ∃ port, t.opens port ∧ Audit.firstPort rule = some port.toNat

def clientSecret? (r : Resource) : Option String :=
  ((r.property? "ProviderDetails").bind (·.field? "client_secret")).bind Json.asStr?

/-- A container has a name, and each of its variables once. -/
structure NamedContainer (container : Json) : Prop where
  named : ∃ fields, container = .obj fields ∧ (Fields.get? "Name" fields).isSome = true
  distinct : (Audit.environmentNames container).Nodup

/-- What one resource keeps to on its own, for the sake of later changes and of the audit. -/
structure Tidy (t : Terms) (r : Resource) : Prop where
  document : r.property? "PolicyDocument" ≠ none → 2 ≤ layer r.type
  containers : r.type = "AWS::ECS::TaskDefinition" →
    ∀ container ∈ Container.listed r, NamedContainer container
  secret : r.type = "AWS::Cognito::UserPoolIdentityProvider" → clientSecret? r = none
  rules : r.type = "AWS::EC2::SecurityGroup" → ∀ items,
    r.property? "SecurityGroupIngress" = some (.arr items) → ∀ rule ∈ items, Guarded t rule
  rule : r.type = "AWS::EC2::SecurityGroupIngress" → Guarded t (.obj r.properties)
  actions : r.type = "AWS::ElasticLoadBalancingV2::Listener" → ∃ items,
    r.property? Listener.actionsKey = some (.arr items) ∧ items.length ≤ 1

/-- The types of resources that have to be looked into. -/
def inspectedTypes : List String := [
  "AWS::ECS::TaskDefinition", "AWS::Cognito::UserPoolIdentityProvider", "AWS::EC2::SecurityGroup",
  "AWS::EC2::SecurityGroupIngress", "AWS::ElasticLoadBalancingV2::Listener"]

theorem tidy_of_type {t : Terms} {r : Resource}
    (document : r.property? "PolicyDocument" ≠ none → 2 ≤ layer r.type)
    (other : r.type ∉ inspectedTypes) : Tidy t r := by
  simp only [inspectedTypes, List.mem_cons, List.not_mem_nil, or_false, not_or] at other
  obtain ⟨definition, provider, group, rule, listener⟩ := other
  exact ⟨document, fun same => absurd same definition, fun same => absurd same provider,
    fun same => absurd same group, fun same => absurd same rule, fun same => absurd same listener⟩

/-- Of a task definition, only the containers have to be looked at. -/
theorem tidy_definition {t : Terms} {r : Resource} (type : r.type = "AWS::ECS::TaskDefinition")
    (containers : ∀ container ∈ Container.listed r, NamedContainer container) : Tidy t r := by
  refine ⟨fun _ => ?_, fun _ => containers, fun same => ?_, fun same => ?_, fun same => ?_,
    fun same => ?_⟩
  · rw [type]
    decide
  all_goals rw [type] at same; exact absurd same (by decide)

/-- Of a security group, only the rules in its list. -/
theorem tidy_group {t : Terms} {r : Resource} (type : r.type = "AWS::EC2::SecurityGroup")
    (document : r.property? "PolicyDocument" = none)
    (rules : ∀ items, r.property? "SecurityGroupIngress" = some (.arr items) →
      ∀ rule ∈ items, Guarded t rule) : Tidy t r := by
  refine ⟨absurd document, fun same => ?_, fun same => ?_, fun _ => rules, fun same => ?_,
    fun same => ?_⟩
  all_goals rw [type] at same; exact absurd same (by decide)

/-- Of a listener, only what it does by default. -/
theorem tidy_listener {t : Terms} {r : Resource}
    (type : r.type = "AWS::ElasticLoadBalancingV2::Listener")
    (actions : ∃ items, r.property? Listener.actionsKey = some (.arr items) ∧ items.length ≤ 1) :
    Tidy t r := by
  refine ⟨fun _ => ?_, fun same => ?_, fun same => ?_, fun same => ?_, fun same => ?_,
    fun _ => actions⟩
  · rw [type]
    decide
  all_goals rw [type] at same; exact absurd same (by decide)

/-- A resource that the stack may have under a path. -/
structure Fits (t : Terms) (s : Stack) (path : List String) (r : Resource) : Prop where
  declares : t.declares path r.type
  admits : r.Within (Admits t s r.type)
  tidy : Tidy t r
  /-- The function that empties buckets comes after its role. -/
  handler : path = AutoDelete.handlerPath → r.type = "AWS::Lambda::Function" ∧
    ∃ role, LogicalId.ofPath AutoDelete.rolePath = .ok role ∧
      s.At role AutoDelete.rolePath "AWS::IAM::Role"
  /-- A policy belongs to one role, below which it is declared. -/
  policy : r.type = "AWS::IAM::Policy" → ∃ role base,
    path = base ++ ["DefaultPolicy", "Resource"] ∧
    s.At role (base ++ ["Resource"]) "AWS::IAM::Role" ∧
    r.property? "Roles" = some (.arr [(Value.ref role).toJson])

/-- What is not a policy fits where it is tidy and needs only what it may. -/
theorem fits_tidy {t : Terms} {s : Stack} {path : List String} {r : Resource} (type : String)
    (same : r.type = type) (declares : t.declares path type) (admits : r.Within (Admits t s type))
    (tidy : Tidy t r) (leaf : path.getLast? ≠ some "Handler")
    (other : type ≠ "AWS::IAM::Policy") : Fits t s path r := by
  subst same
  refine ⟨declares, admits, tidy, fun handler => ?_, fun policy => absurd policy other⟩
  subst handler
  exact absurd rfl leaf

/-- A resource of most types is tidy for its type alone. -/
theorem fits_plain {t : Terms} {s : Stack} {path : List String} {r : Resource} (type : String)
    (same : r.type = type) (declares : t.declares path type) (admits : r.Within (Admits t s type))
    (document : r.property? "PolicyDocument" ≠ none → 2 ≤ layer type)
    (leaf : path.getLast? ≠ some "Handler")
    (other : type ∉ "AWS::IAM::Policy" :: inspectedTypes) : Fits t s path r := by
  rw [List.mem_cons, not_or] at other
  obtain ⟨policy, other⟩ := other
  subst same
  exact fits_tidy r.type rfl declares admits (tidy_of_type document other) leaf policy

/-- What every late resource may need. -/
def AdmitsLate (t : Terms) (s : Stack) (target : String) : Prop :=
  ∀ type, 2 ≤ layer type → Admits t s type target

theorem admits_late_at {t : Terms} {s : Stack} {id type : String} {path : List String}
    (there : s.At id path type) (low : layer type < 2) : AdmitsLate t s id :=
  fun _ late => .below there (.inl (Nat.lt_of_lt_of_le low late))

theorem admits_late_supplied {t : Terms} {s : Stack} {id : String} (refers : t.refers s id) :
    AdmitsLate t s id := fun _ late => .supplied late refers

/-- A value that a property of a resource may grow to. -/
structure GrowsTo (t : Terms) (s : Stack) (r : Resource) (key : String) (value : Json) : Prop where
  grown : key ∈ grownKeys
  refers : ∀ ref ∈ value.references,
    ref ∈ r.references ∨ 0 < layer r.type ∧ Admits t s r.type ref.target
  tidy : Tidy t r → Tidy t (r.withProperty key value)
  acts : key = Listener.actionsKey → ∃ first rest, value = .arr (first :: rest)

/-- One change. -/
inductive Step (t : Terms) (s : Stack) : Stack → Prop
  | declare {id : String} {path : List String} {r : Resource}
    (named : LogicalId.ofPath path = .ok id) (free : s.contains id = false)
    (fits : Fits t s path r) : Step t s (s.insert id path r)
  | edit {id key : String} {value : Json} {d : DeclaredResource} {f : Resource → Resource}
    (found : s.declared.get? id = some d) (grows : GrowsTo t s d.resource key value)
    (same : f d.resource = d.resource.withProperty key value) : Step t s (s.modify id f)
  | wait {w : Wait} {path : List String} {type : String} (waits : s.At w.dependent path type)
    (awaits : t.awaits type w.path) (resolves : s.Resolves w) :
    Step t s { s with waits := s.waits ++ [w] }
  | keep {s' : Stack} (declared : s'.declared = s.declared) (waits : s'.waits = s.waits)
    (leads : s.OutputsLead → s'.OutputsLead) : Step t s s'

def Steps (t : Terms) : Stack → Stack → Prop := Relation.ReflTransGen (Step t)

/-- A stack that was built on nothing. -/
def Built (t : Terms) (s : Stack) : Prop :=
  ∃ start : Stack, start.declared = ∅ ∧ start.waits = [] ∧ Steps t start s

end StackSynth
