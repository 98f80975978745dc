import StackSynth.Proofs.Constructs.Data
import StackSynth.Proofs.Stack.Gains
import StackSynth.Proofs.Stack.Names
import StackSynth.Proofs.Stack.Reached

/-!
Any number of buckets on one stack. They share the function that empties them: it is declared with
the first bucket that needs it, is found again by its id, and each of these buckets brings a policy
and a trigger of its own.
-/
namespace StackSynth

variable {s s₁ s' : Stack} {id : String} {settings : BucketSettings} {b : Bucket}
  {calls : List (String × BucketSettings)} {buckets : List Bucket}
  {gained own parts : List Declaration} {α : Type}

theorem Resource.Within.prerequisite {r : Resource} {P : String → Prop} (within : r.Within P)
    {x : String} (needed : x ∈ r.prerequisites) : P x := by
  refine within x (List.mem_append.mpr ?_)
  rcases (r.mem_prerequisites_iff x).mp needed with depends | ⟨ref, refers, _, same⟩
  · exact .inl depends
  · exact .inr (List.mem_map.mpr ⟨ref, refers, same⟩)

namespace AutoDelete

/-- What all buckets to be emptied share. -/
def shared : List Declaration := [
  (roleId, ⟨rolePath, roleResource⟩), (handlerId, ⟨handlerPath, handlerResource roleId⟩)]

/-- The function is declared unless its id is taken, be it by itself. -/
theorem provider_gains {ids : String × String} (made : s.run provider = (.ok ids, s')) :
    ids = (roleId, handlerId) ∧ s'.contains handlerId = true ∧
      s.Gains s' (if s.contains handlerId = true then [] else shared) := by
  rw [provider, role_id, handler_id] at made
  obtain ⟨_, _, first, made⟩ := run_bind_ok made
  cases first
  obtain ⟨_, _, second, made⟩ := run_bind_ok made
  cases second
  obtain ⟨_, _, third, made⟩ := run_bind_ok made
  cases third
  cases known : s.contains handlerId with
  | true =>
    simp only [known, Bool.not_true, Bool.false_eq_true, if_false] at made
    cases made
    exact ⟨rfl, known, Stack.gains_nothing s⟩
  | false =>
    simp only [known, Bool.not_false, if_true] at made
    obtain ⟨role, s₁, declared, made⟩ := run_bind_ok made
    obtain ⟨handler, s₂, declared', made⟩ := run_bind_ok made
    cases made
    have first := (Stack.gains_of_declared declared).2
    have second := (Stack.gains_of_declared declared').2
    cases first.named _ (List.mem_singleton_self _)
    cases second.named _ (List.mem_singleton_self _)
    have there := (second.contains_iff handlerId).mpr (.inr ⟨_, List.mem_singleton_self _⟩)
    exact ⟨rfl, there, first.trans second⟩

theorem shared_layered : Stack.Gains.Layered shared := by
  have role_function : layer "AWS::IAM::Role" < layer "AWS::Lambda::Function" := by decide
  intro d member x needed
  simp only [shared, List.mem_cons, List.not_mem_nil, or_false] at member
  rcases member with rfl | rfl
  · exact absurd needed fun needed => (role_resource_within fun _ => False).prerequisite needed
  · have own : x = roleId := (handler_resource_within (P := (· = roleId)) rfl).prerequisite needed
    subst own
    exact ⟨_, List.mem_cons_self, role_function⟩

/-- The role and the function are declared for calls if one of them asks for it, unless the id of
the function is taken, by what is there already or by one of the buckets. -/
def added (s : Stack) (calls : List (String × BucketSettings)) (buckets : List Bucket) :
    List Declaration :=
  if s.contains handlerId = false ∧ (∃ call ∈ calls, call.2.autoDelete = true) ∧
    ∀ b ∈ buckets, b.logicalId ≠ handlerId then shared else []

end AutoDelete

namespace Bucket

open AutoDelete

def policyPath (b : Bucket) : List String := b.path ++ ["Policy", "Resource"]
def triggerPath (b : Bucket) : List String := b.path ++ ["AutoDeleteObjectsCustomResource", "Default"]

def declaration (b : Bucket) (settings : BucketSettings) : Declaration :=
  (b.logicalId, ⟨b.path ++ ["Resource"], resourceFor settings⟩)

/-- A policy that lets a role work on a bucket and on its objects, and refers to nothing else. -/
structure Permits (b : Bucket) (roleId : String) (policy : Resource) : Prop where
  type : policy.type = "AWS::S3::BucketPolicy"
  bucket : policy.property? "Bucket" = some b.name.toJson
  grants : ∃ statement,
    (policy.property? "PolicyDocument").bind (·.field? "Statement") = some (.arr [statement]) ∧
    statement.field? "Effect" = some (.str "Allow") ∧
    statement.field? "Principal" = some (.obj [("AWS", (Value.getAtt roleId "Arn").toJson)]) ∧
    statement.field? "Resource" = some (.arr [b.arn.toJson, (b.objectsArn "*").toJson])
  within : policy.Within fun x => x = b.logicalId ∨ x = roleId
  mentions : roleId ∈ policy.targets

/-- A resource that calls a function for a bucket, and for that depends on one other resource. -/
structure Triggers (b : Bucket) (handlerId policyId : String) (trigger : Resource) : Prop where
  type : trigger.type = "Custom::S3AutoDeleteObjects"
  bucket : trigger.property? "BucketName" = some b.name.toJson
  function : trigger.property? "ServiceToken" = some (Value.getAtt handlerId "Arn").toJson
  waits : trigger.dependsOn = [policyId]
  within : trigger.Within fun x => x = b.logicalId ∨ x = handlerId ∨ x = policyId

theorem emptying_policy_permits (b : Bucket) (roleId : String) :
    b.Permits roleId (b.emptyingPolicy roleId) where
  type := rfl
  bucket := rfl
  grants := ⟨_, rfl, rfl, rfl, rfl⟩
  within := emptying_policy_within (.inl rfl) (.inr rfl)
  mentions := by
    have within : (b.emptyingPolicy roleId).Within (· ∈ (b.emptyingPolicy roleId).targets) :=
      fun _ listed => listed
    rw [Resource.within_iff] at within
    simp [emptyingPolicy] at within
    exact within.2.1

theorem emptying_trigger_triggers (b : Bucket) (handlerId policyId : String) :
    b.Triggers handlerId policyId (b.emptyingTrigger handlerId policyId) where
  type := rfl
  bucket := rfl
  function := rfl
  waits := rfl
  within := emptying_trigger_within (.inl rfl) (.inr (.inl rfl)) (.inr (.inr rfl))

/-- What a call brings for its own bucket: where that is to be emptied, the role may work on it, and
there is a trigger that depends on this permission. -/
inductive Brings (id : String) (settings : BucketSettings) (b : Bucket) : List Declaration → Prop
  | kept (below : b.path = [id]) (keeps : settings.autoDelete = false) :
      Brings id settings b [b.declaration settings]
  | emptied (below : b.path = [id]) (empties : settings.autoDelete = true)
      (policyId triggerId : String) {policy trigger : Resource}
      (permits : b.Permits roleId policy) (triggers : b.Triggers handlerId policyId trigger) :
      Brings id settings b [
        b.declaration settings,
        (policyId, ⟨b.policyPath, policy⟩),
        (triggerId, ⟨b.triggerPath, trigger⟩)]

/-- What calls bring one after the other, with the buckets that they return. -/
inductive BringAll : List (String × BucketSettings) → List Bucket → List Declaration → Prop
  | nil : BringAll [] [] []
  | cons {call : String × BucketSettings} {calls : List (String × BucketSettings)} {b : Bucket}
      {buckets : List Bucket} {own parts : List Declaration}
      (first : Brings call.1 call.2 b own) (rest : BringAll calls buckets parts) :
      BringAll (call :: calls) (b :: buckets) (own ++ parts)

theorem declare_emptying_gains (made : s.run b.declareEmptying = (.ok (), s')) :
    s'.contains handlerId = true ∧ ∃ policyId triggerId,
      s.Gains s' ((if s.contains handlerId = true then [] else shared) ++ [
        (policyId, ⟨b.policyPath, b.emptyingPolicy roleId⟩),
        (triggerId, ⟨b.triggerPath, b.emptyingTrigger handlerId policyId⟩)]) := by
  obtain ⟨ids, s₁, provided, made⟩ := run_bind_ok made
  obtain ⟨rfl, there, shares⟩ := provider_gains provided
  obtain ⟨policyId, s₂, policy, made⟩ := run_bind_ok made
  obtain ⟨triggerId, s₃, trigger, made⟩ := run_bind_ok made
  cases made
  have first := (Stack.gains_of_declared policy).2
  have second := (Stack.gains_of_declared trigger).2
  have own := first.trans second
  exact ⟨(own.contains_iff handlerId).mpr (.inl there), policyId, triggerId, shares.trans own⟩

theorem declare_gains (made : s.run (declare id settings) = (.ok b, s')) :
    ∃ gained own, s.Gains s' gained ∧ Brings id settings b own ∧
      gained.Perm (added s [(id, settings)] [b] ++ own) ∧
      (s'.contains handlerId = true ↔
        s.contains handlerId = true ∨ settings.autoDelete = true ∨ b.logicalId = handlerId) := by
  unfold declare at made
  obtain ⟨-, made⟩ := run_unless_ok made
  obtain ⟨logicalId, s₁, declared, made⟩ := run_bind_ok made
  have first := (Stack.gains_of_declared declared).2
  have known : s₁.contains handlerId = true ↔
      s.contains handlerId = true ∨ logicalId = handlerId := by
    rw [first.contains_iff]
    simp only [List.mem_singleton, Prod.mk.injEq, exists_and_left, exists_eq, and_true]
    exact or_congr_right eq_comm
  cases empties : settings.autoDelete with
  | false =>
    simp only [empties, Bool.false_eq_true, if_false] at made
    cases made
    refine ⟨_, _, first, .kept rfl empties, ?_, by simp [known]⟩
    simp [added, empties, declaration]
  | true =>
    simp only [empties, if_true] at made
    obtain ⟨_, s₂, emptied, made⟩ := run_bind_ok made
    cases made
    obtain ⟨there, policyId, triggerId, second⟩ := declare_emptying_gains emptied
    refine ⟨_, _, first.trans second, .emptied rfl empties policyId triggerId
      (emptying_policy_permits _ _) (emptying_trigger_triggers _ _ _), ?_, by simp [there]⟩
    have asks : added s [(id, settings)] [{ path := [id], logicalId }] =
        if s₁.contains handlerId = true then [] else shared := by
      rw [added, ← ite_not]
      exact if_congr (by simp [known, empties, imp_iff_not_or]) rfl rfl
    rw [asks]
    exact List.perm_append_comm_assoc _ _ _

/-- Calls one after the other. -/
def declareAll (calls : List (String × BucketSettings)) : Declaring (List Bucket) :=
  calls.mapM fun call => declare call.1 call.2

theorem Brings.own_mem (brings : Brings id settings b own) : b.declaration settings ∈ own := by
  cases brings <;> exact List.mem_cons_self

theorem BringAll.bucket_mem (brings : BringAll calls buckets parts) (listed : b ∈ buckets) :
    ∃ settings, b.declaration settings ∈ parts := by
  induction brings with
  | nil => cases listed
  | cons brings _ ih =>
    rcases List.mem_cons.mp listed with rfl | later
    · exact ⟨_, List.mem_append_left _ brings.own_mem⟩
    · obtain ⟨settings, member⟩ := ih later
      exact ⟨settings, List.mem_append_right _ member⟩

theorem nothing_added (taken : s.contains handlerId = true) (calls : List (String × BucketSettings))
    (buckets : List Bucket) : added s calls buckets = [] :=
  if_neg fun asks => by
    rw [taken] at asks
    cases asks.1

/-- Who declares the role and the function is whoever asks for them first. -/
theorem added_cons {call : String × BucketSettings}
    (fresh : ∀ b ∈ buckets, s₁.contains b.logicalId = false)
    (known : s₁.contains handlerId = true ↔
      s.contains handlerId = true ∨ call.2.autoDelete = true ∨ b.logicalId = handlerId) :
    added s (call :: calls) (b :: buckets) = added s [call] [b] ++ added s₁ calls buckets := by
  cases taken : s₁.contains handlerId with
  | true =>
    have apart : ∀ b ∈ buckets, b.logicalId ≠ handlerId := by
      intro b listed same
      have free := fresh b listed
      rw [same, taken] at free
      cases free
    rw [nothing_added taken, List.append_nil]
    refine if_congr (and_congr_right fun free => ?_) rfl rfl
    rcases known.mp taken with before | asks | own
    · rw [free] at before
      cases before
    · simp only [List.mem_cons, List.not_mem_nil, or_false, forall_eq_or_imp, forall_eq,
        exists_eq_or_imp, exists_eq_left, asks, true_or, true_and]
      exact and_iff_left apart
    · simp [own]
  | false =>
    have others := not_congr known
    simp only [taken, Bool.false_eq_true, not_false_eq_true, true_iff, not_or] at others
    obtain ⟨free, plain, own⟩ := others
    have nobody : added s [call] [b] = [] := if_neg (by simp [plain])
    rw [nobody, List.nil_append]
    refine if_congr ?_ rfl rfl
    simp [taken, free, plain, own]

/-- By induction on the calls. -/
theorem declare_all_gains (made : s.run (declareAll calls) = (.ok buckets, s')) :
    ∃ gained parts, s.Gains s' gained ∧ BringAll calls buckets parts ∧
      gained.Perm (added s calls buckets ++ parts) := by
  induction calls generalizing s buckets with
  | nil =>
    cases made
    exact ⟨[], [], Stack.gains_nothing _, .nil, by simp [added]⟩
  | cons call calls ih =>
    rw [declareAll, List.mapM_cons] at made
    obtain ⟨b, s₁, first, made⟩ := run_bind_ok made
    obtain ⟨rest, s₂, later, made⟩ := run_bind_ok made
    cases made
    obtain ⟨gained, own, gains, brings, some_of, known⟩ := declare_gains first
    obtain ⟨more, parts, gains', brings', rest_of⟩ := ih later
    refine ⟨gained ++ more, own ++ parts, gains.trans gains', .cons brings brings', ?_⟩
    have fresh : ∀ b ∈ rest, s₁.contains b.logicalId = false := by
      intro b listed
      obtain ⟨settings, member⟩ := brings'.bucket_mem listed
      exact gains'.fresh (rest_of.mem_iff.mpr (List.mem_append_right _ member))
    rw [added_cons fresh known]
    refine (some_of.append rest_of).trans ?_
    rw [List.append_assoc, List.append_assoc]
    exact (List.perm_append_comm_assoc _ _ _).append_left _

/-! What the new resources need: but for the role and the function, it comes with the bucket. -/

theorem Brings.needs (brings : Brings id settings b own) {d : Declaration} (member : d ∈ own)
    {x : String} (needed : x ∈ d.2.resource.prerequisites) :
    (∃ e, (x, e) ∈ own ∧ layer e.resource.type < layer d.2.resource.type) ∨
      settings.autoDelete = true ∧ (x = roleId ∧ layer d.2.resource.type = 2 ∨
        x = handlerId ∧ layer d.2.resource.type = 3) := by
  have nothing : ∀ x, x ∉ (resourceFor settings).prerequisites := fun x needed =>
    (resource_for_within (fun _ => False) settings).prerequisite needed
  cases brings with
  | kept =>
    cases List.mem_singleton.mp member
    exact absurd needed (nothing x)
  | emptied _ empties policyId triggerId permits triggers =>
    simp only [List.mem_cons, List.not_mem_nil, or_false] at member
    have bucket_policy : layer "AWS::S3::Bucket" < layer "AWS::S3::BucketPolicy" := by decide
    have bucket_trigger : layer "AWS::S3::Bucket" < layer "Custom::S3AutoDeleteObjects" := by decide
    have policy_trigger : layer "AWS::S3::BucketPolicy" < layer "Custom::S3AutoDeleteObjects" := by
      decide
    rcases member with rfl | rfl | rfl
    · exact absurd needed (nothing x)
    · rw [permits.type]
      rcases permits.within.prerequisite needed with rfl | rfl
      · exact .inl ⟨_, List.mem_cons_self, bucket_policy⟩
      · exact .inr ⟨empties, .inl ⟨rfl, rfl⟩⟩
    · rw [triggers.type]
      rcases triggers.within.prerequisite needed with rfl | rfl | rfl
      · exact .inl ⟨_, List.mem_cons_self, bucket_trigger⟩
      · exact .inr ⟨empties, .inr ⟨rfl, rfl⟩⟩
      · refine .inl ⟨_, List.mem_cons_of_mem _ List.mem_cons_self, ?_⟩
        rw [permits.type]
        exact policy_trigger

theorem BringAll.needs (brings : BringAll calls buckets parts) {d : Declaration}
    (member : d ∈ parts) {x : String} (needed : x ∈ d.2.resource.prerequisites) :
    (∃ e, (x, e) ∈ parts ∧ layer e.resource.type < layer d.2.resource.type) ∨
      (∃ call ∈ calls, call.2.autoDelete = true) ∧ (x = roleId ∧ layer d.2.resource.type = 2 ∨
        x = handlerId ∧ layer d.2.resource.type = 3) := by
  induction brings with
  | nil => cases member
  | @cons call _ _ _ _ _ first _ ih =>
    rcases List.mem_append.mp member with own | later
    · rcases first.needs own needed with ⟨e, there, lower⟩ | ⟨empties, provider⟩
      · exact .inl ⟨e, List.mem_append_left _ there, lower⟩
      · exact .inr ⟨⟨call, List.mem_cons_self, empties⟩, provider⟩
    · rcases ih later with ⟨e, there, lower⟩ | ⟨⟨call, listed, empties⟩, provider⟩
      · exact .inl ⟨e, List.mem_append_right _ there, lower⟩
      · exact .inr ⟨⟨call, List.mem_cons_of_mem _ listed, empties⟩, provider⟩

/-- However the digest comes out, the id of the role is as long. -/
theorem role_id_length : roleId.toList.length = 59 := by
  rw [roleId, LogicalId.numbered, String.toList_ofList, List.length_append,
    LogicalId.digest_length]
  decide

/-- The permission needs the role, which is not called like the parameter of every template. -/
theorem Permits.needs {policy : Resource} (permits : b.Permits roleId policy) :
    roleId ∈ policy.prerequisites := by
  have named : roleId ≠ Bootstrap.versionParameter := fun same =>
    absurd (same ▸ role_id_length) (by decide)
  rcases List.mem_append.mp permits.mentions with depends | refers
  · exact (policy.mem_prerequisites_iff _).mpr (.inl depends)
  · obtain ⟨ref, refers, same⟩ := List.mem_map.mp refers
    exact (policy.mem_prerequisites_iff _).mpr (.inr ⟨ref, refers, same ▸ named, same⟩)

/-- By the letters of its path, what belongs to a bucket is not called like the role. -/
theorem not_role_of_letters {outer inner : String} {rest : List String}
    (shown : ¬ inner.toList <:+ LogicalId.hiddenFromReader.toList)
    (last : rest = [] ∨ rest = [LogicalId.hiddenFromReader])
    (apart : ¬ LogicalId.alphanumerics inner <:+ LogicalId.readable rolePath) :
    LogicalId.numbered (outer :: inner :: rest) ≠ roleId := by
  intro same
  have agree := LogicalId.legible_of_numbered same (by decide)
  exact apart (agree ▸ LogicalId.legible_ends outer shown last)

theorem policy_not_role {x : String}
    (named : LogicalId.ofPath [id, "Policy", "Resource"] = .ok x) : x ≠ roleId := by
  by_cases hidden : id = "Default"
  · subst hidden
    cases named
    intro same
    have agree := LogicalId.legible_of_numbered same (by decide)
    exact absurd agree (by decide)
  · have all : LogicalId.visible [id, "Policy", "Resource"] = [id, "Policy", "Resource"] := by
      simp [LogicalId.visible, LogicalId.hidden, hidden]
    rw [LogicalId.ofPath, all] at named
    cases named
    exact not_role_of_letters (by decide) (.inr rfl) (by decide)

theorem trigger_not_role {x : String}
    (named : LogicalId.ofPath [id, "AutoDeleteObjectsCustomResource", "Default"] = .ok x) :
    x ≠ roleId := by
  by_cases hidden : id = "Default"
  · subst hidden
    cases named
    intro same
    exact absurd (same ▸ role_id_length) (by decide)
  · have all : LogicalId.visible [id, "AutoDeleteObjectsCustomResource", "Default"] =
        [id, "AutoDeleteObjectsCustomResource"] := by
      simp [LogicalId.visible, LogicalId.hidden, hidden]
    rw [LogicalId.ofPath, all] at named
    cases named
    exact not_role_of_letters (by decide) (.inl rfl) (by decide)

theorem BringAll.asked (brings : BringAll calls buckets parts)
    (asks : ∃ call ∈ calls, call.2.autoDelete = true) :
    ∃ d ∈ parts, roleId ∈ d.2.resource.prerequisites := by
  induction brings with
  | nil =>
    obtain ⟨call, listed, _⟩ := asks
    cases listed
  | @cons call calls b _ _ _ first _ ih =>
    by_cases empties : call.2.autoDelete = true
    · cases first with
      | kept _ keeps =>
        rw [empties] at keeps
        cases keeps
      | @emptied _ _ policyId _ policy _ permits _ =>
        exact ⟨(policyId, ⟨b.policyPath, policy⟩), by simp, permits.needs⟩
    · obtain ⟨other, listed, asks⟩ := asks
      rcases List.mem_cons.mp listed with rfl | later
      · exact absurd asks empties
      · obtain ⟨d, member, needs⟩ := ih ⟨other, later, asks⟩
        exact ⟨d, List.mem_append_right _ member, needs⟩

theorem BringAll.not_role (brings : BringAll calls buckets parts)
    (others : ∀ b ∈ buckets, b.logicalId ≠ roleId) {d : Declaration} (member : d ∈ parts)
    (named : LogicalId.ofPath d.2.path = .ok d.1) : d.1 ≠ roleId := by
  induction brings with
  | nil => cases member
  | @cons call calls b buckets _ _ first _ ih =>
    obtain ⟨own, others⟩ := List.forall_mem_cons.mp others
    rcases List.mem_append.mp member with listed | later
    · cases first with
      | kept =>
        cases List.mem_singleton.mp listed
        exact own
      | emptied below =>
        simp only [List.mem_cons, List.not_mem_nil, or_false] at listed
        rcases listed with rfl | rfl | rfl
        · exact own
        · simp only [policyPath, below] at named
          exact policy_not_role named
        · simp only [triggerPath, below] at named
          exact trigger_not_role named
    · exact ih others later

/-- A bucket is taken for the function, so that its role is missed: some call asks for it, and none
of the buckets is called like the role either. -/
def Misled (calls : List (String × BucketSettings)) (buckets : List Bucket) : Prop :=
  (∃ call ∈ calls, call.2.autoDelete = true) ∧ (∃ b ∈ buckets, b.logicalId = handlerId) ∧
    ∀ b ∈ buckets, b.logicalId ≠ roleId

section Shared

variable (free : s.contains handlerId = false) (brings : BringAll calls buckets parts)
  (all : gained.Perm (added s calls buckets ++ parts))

include free brings all

/-- All that is needed is new and of a lower layer, but for the role where a bucket misleads. -/
theorem needs_cases {d : Declaration} (member : d ∈ gained) {x : String}
    (needed : x ∈ d.2.resource.prerequisites) :
    (∃ e, (x, e) ∈ gained ∧ layer e.resource.type < layer d.2.resource.type) ∨
      Misled calls buckets ∧ x = roleId := by
  have of_parts : ∀ e ∈ parts, e ∈ gained := fun e listed =>
    all.mem_iff.mpr (List.mem_append_right _ listed)
  have of_bucket : ∀ b ∈ buckets, ∃ e, (b.logicalId, e) ∈ gained ∧ layer e.resource.type = 0 := by
    intro b listed
    obtain ⟨settings, member⟩ := brings.bucket_mem listed
    exact ⟨_, of_parts _ member, rfl⟩
  rcases List.mem_append.mp (all.mem_iff.mp member) with common | own
  · rw [added] at common
    split at common
    · next asks =>
      obtain ⟨e, there, lower⟩ := shared_layered d common x needed
      refine .inl ⟨e, all.mem_iff.mpr (List.mem_append_left _ ?_), lower⟩
      rwa [added, if_pos asks]
    · cases common
  · rcases brings.needs own needed with ⟨e, there, lower⟩ | ⟨asks, provider⟩
    · exact .inl ⟨e, of_parts _ there, lower⟩
    · by_cases taken : ∃ b ∈ buckets, b.logicalId = handlerId
      · rcases provider with ⟨rfl, second⟩ | ⟨rfl, third⟩
        · by_cases named : ∃ b ∈ buckets, b.logicalId = roleId
          · obtain ⟨b, listed, same⟩ := named
            obtain ⟨e, there, lowest⟩ := of_bucket b listed
            exact .inl ⟨e, same ▸ there, by omega⟩
          · exact .inr ⟨⟨asks, taken, fun b listed same => named ⟨b, listed, same⟩⟩, rfl⟩
        · obtain ⟨b, listed, same⟩ := taken
          obtain ⟨e, there, lowest⟩ := of_bucket b listed
          exact .inl ⟨e, same ▸ there, by omega⟩
      · have common : ∀ e ∈ shared, e ∈ gained := by
          intro e listed
          refine all.mem_iff.mpr (List.mem_append_left _ ?_)
          rwa [added, if_pos ⟨free, asks, fun b listed same => taken ⟨b, listed, same⟩⟩]
        have role : layer "AWS::IAM::Role" < 2 := by decide
        have function : layer "AWS::Lambda::Function" < 3 := by decide
        rcases provider with ⟨rfl, second⟩ | ⟨rfl, third⟩
        · exact .inl ⟨_, common _ List.mem_cons_self, second ▸ role⟩
        · exact .inl ⟨_, common _ (List.mem_cons_of_mem _ List.mem_cons_self), third ▸ function⟩

theorem synthesis_of_straight {t : Template} (gains : s.Gains s' gained)
    (straight : ¬ Misled calls buckets) (made : s.synthesize = .ok t) :
    ∃ t', s'.synthesize = .ok t' := by
  refine gains.synthesis (fun d member x needed => ?_) made
  rcases needs_cases free brings all member needed with lower | ⟨misled, _⟩
  · exact lower
  · exact absurd misled straight

theorem dangling_of_misled {t : Template} (gains : s.Gains s' gained)
    (absent : s.contains roleId = false) (misled : Misled calls buckets)
    (made : s.synthesize = .ok t) : s'.contains roleId = false ∧
      ∃ source, s'.synthesize = .error (.danglingReference source roleId) := by
  obtain ⟨asks, ⟨b, listed, taken⟩, others⟩ := misled
  have nothing : added s calls buckets = [] := if_neg fun asks => asks.2.2 b listed taken
  rw [nothing, List.nil_append] at all
  have missing : s'.contains roleId = false := by
    rw [← Bool.not_eq_true, gains.contains_iff]
    rintro (before | ⟨d, new⟩)
    · rw [absent] at before
      cases before
    · exact brings.not_role others (all.mem_iff.mp new) (gains.named _ new) rfl
  obtain ⟨d, member, needs⟩ := brings.asked asks
  refine ⟨missing, gains.dangling made missing ⟨d, all.mem_iff.mpr member, needs⟩ ?_⟩
  intro d member x needed other
  rcases needs_cases free brings (by rwa [nothing]) member needed with ⟨e, there, _⟩ | ⟨_, same⟩
  · exact (gains.contains_iff x).mpr (.inr ⟨e, there⟩)
  · exact absurd same other

end Shared

/-- Buckets on a stack without the role and the function. -/
theorem declare_all_shared (no_role : s.contains roleId = false)
    (no_handler : s.contains handlerId = false)
    (made : s.run (declareAll calls) = (.ok buckets, s')) :
    (∃ gained parts, s.Gains s' gained ∧ BringAll calls buckets parts ∧
      gained.Perm (added s calls buckets ++ parts)) ∧
    ∀ t, s.synthesize = .ok t →
      (¬ Misled calls buckets → ∃ t', s'.synthesize = .ok t') ∧
      (Misled calls buckets →
        ∃ source, s'.synthesize = .error (.danglingReference source roleId)) := by
  obtain ⟨gained, parts, gains, brings, all⟩ := declare_all_gains made
  refine ⟨⟨gained, parts, gains, brings, all⟩, fun t before => ⟨fun straight => ?_, fun misled => ?_⟩⟩
  · exact synthesis_of_straight no_handler brings all gains straight before
  · exact (dangling_of_misled no_handler brings all gains no_role misled before).2

/-- Two buckets that are emptied and, in between, one that is not. -/
def threeBuckets : List (String × BucketSettings) := [
  ("Data", { autoDelete := true, removal := .destroy }),
  ("Archive", {}),
  ("Logs", { autoDelete := true, removal := .destroy, versioned := true })]

theorem three_buckets_shared :
    ∃ buckets s', blank.run (declareAll threeBuckets) = (.ok buckets, s') ∧
      (∃ gained parts, blank.Gains s' gained ∧ BringAll threeBuckets buckets parts ∧
        gained.Perm (shared ++ parts)) ∧ ∃ t, s'.synthesize = .ok t := by
  have made : (blank.run (declareAll threeBuckets)).1.toOption = some [
      ⟨⟨["Data"], "Data666C94C7"⟩⟩, ⟨⟨["Archive"], "ArchiveDA4CB258"⟩⟩,
      ⟨⟨["Logs"], "Logs6819BB44"⟩⟩] := by decide +kernel
  obtain ⟨⟨gained, parts, gains, brings, all⟩, after⟩ :=
    declare_all_shared rfl rfl (run_of_result made)
  obtain ⟨t, before⟩ : ∃ t, blank.synthesize = .ok t := ⟨_, rfl⟩
  refine ⟨_, _, run_of_result made, ⟨gained, parts, gains, brings, ?_⟩,
    (after t before).1 fun misled => ?_⟩
  · rwa [added, if_pos (by decide +kernel)] at all
  · exact absurd misled.2.1 (by decide +kernel)

/-- A bucket that gets the id of the function that empties buckets. -/
def misleadingBuckets : List (String × BucketSettings) := [
  ("CustomS3AutoDeleteObjectsCustomResourceProviderHandler----------^]@\x7b\x7b!(", {}),
  ("Data", { autoDelete := true, removal := .destroy })]

theorem misleading_buckets_without_role :
    ∃ buckets s', blank.run (declareAll misleadingBuckets) = (.ok buckets, s') ∧
      blank.contains roleId = false ∧ blank.contains handlerId = false ∧
      (∃ t, blank.synthesize = .ok t) ∧ s'.contains roleId = false ∧
      ∃ source, s'.synthesize = .error (.danglingReference source roleId) := by
  have made : (blank.run (declareAll misleadingBuckets)).1.toOption = some [
      ⟨⟨["CustomS3AutoDeleteObjectsCustomResourceProviderHandler----------^]@\x7b\x7b!("],
        "CustomS3AutoDeleteObjectsCustomResourceProviderHandler9D90184F"⟩⟩,
      ⟨⟨["Data"], "Data666C94C7"⟩⟩] := by decide +kernel
  have no_role : blank.contains roleId = false := rfl
  have no_handler : blank.contains handlerId = false := rfl
  obtain ⟨t, before⟩ : ∃ t, blank.synthesize = .ok t := ⟨_, rfl⟩
  obtain ⟨gained, parts, gains, brings, all⟩ := declare_all_gains (run_of_result made)
  refine ⟨_, _, run_of_result made, no_role, no_handler, ⟨t, before⟩, ?_⟩
  exact dangling_of_misled no_handler brings all gains no_role
    ⟨by decide +kernel, by decide +kernel, by decide +kernel⟩ before

end Bucket

end StackSynth
