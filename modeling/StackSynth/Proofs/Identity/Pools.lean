import StackSynth.Proofs.Audit.Ordering
import StackSynth.Proofs.Constructs.Routing
import StackSynth.Proofs.Identity.SignIn
import StackSynth.Proofs.Stack.Resolution
import StackSynth.Proofs.Stack.Runs

/-!
Clients, providers and the pools that they are of. Whatever is done to a stack, each of them keeps
the pool that it was declared with. The audit asks of a client that it waits for all providers that
go by a name which it supports; which pool they are of makes no difference.
-/
namespace StackSynth

/-- The pool that a resource is of. -/
def Resource.InPool (r : Resource) (pool : String) : Prop := r.referred? "UserPoolId" = some pool

def signInTypes : List String :=
  ["AWS::Cognito::UserPoolClient", "AWS::Cognito::UserPoolIdentityProvider"]

/-- What clients and providers say: both their pool, and a provider its name. -/
structure Resource.SignsIn (r : Resource) : Prop where
  pool : ∃ pool, r.InPool pool
  named : r.type = "AWS::Cognito::UserPoolIdentityProvider" →
    r.property? "ProviderName" = some (.str GoogleProvider.providerName)

/-- All clients and providers of a stack say what they should. -/
def Stack.SignedIn (s : Stack) : Prop :=
  ∀ id d, s.declared.get? id = some d → d.resource.type ∈ signInTypes → d.resource.SignsIn

section Kept

variable {s s' : Stack} {known : List Handle} {id : String} {pool : UserPool} {r r' : Resource}

theorem in_pool_of_property (given : r.property? "UserPoolId" = some pool.poolId.toJson) :
    r.InPool pool.logicalId := by
  rw [Resource.InPool, Resource.referred?, given]
  rfl

theorem SignInClient.signs_in (settings : SignInClientSettings) :
    (resourceFor pool settings).SignsIn :=
  ⟨⟨_, in_pool_of_property property_pool⟩, by simp [resourceFor]⟩

theorem GoogleProvider.signs_in (settings : GoogleProviderSettings) :
    (resourceFor pool settings).SignsIn :=
  have ⟨_, named, given⟩ := property_of_provider pool settings
  ⟨⟨_, in_pool_of_property given⟩, fun _ => named⟩

/-- A resource that says the same of pool and name still says what it should. -/
theorem Resource.SignsIn.same (signs : r.SignsIn) (type : r'.type = r.type)
    (kept : ∀ key ∈ ["UserPoolId", "ProviderName"], r'.property? key = r.property? key) :
    r'.SignsIn := by
  simp only [List.forall_mem_cons] at kept
  obtain ⟨pool, name, -⟩ := kept
  obtain ⟨⟨own, inside⟩, named⟩ := signs
  refine ⟨⟨own, ?_⟩, fun provider => name.trans (named (type ▸ provider))⟩
  rw [InPool, referred?, pool]
  exact inside

/-- Clients and providers that were there before are as they were. -/
theorem Stack.SignedIn.kept (signed : s.SignedIn) (grows : s.Grows s') {d : DeclaredResource}
    (found : s'.declared.get? id = some d) (old : s.At id d.path d.resource.type)
    (type : d.resource.type ∈ signInTypes) : d.resource.SignsIn := by
  obtain ⟨e, before, -, same⟩ := old
  obtain ⟨d', after, -, kind, kept⟩ := grows.declared id e before
  cases found.symm.trans after
  refine (signed id e before (same ▸ type)).same kind fun key member => kept key ?_
  revert key
  decide

/-- What declares nothing but a client or a provider that says what it should. -/
theorem Stack.SignedIn.declared {α : Type} {m : Declaring α} {path : List String}
    (signed : s.SignedIn) (signs : r.SignsIn) (only : DeclaresOnly path r m) :
    (s.run m).2.SignedIn := by
  rcases only s with same | ⟨name, same⟩
  · rwa [same]
  · rw [same]
    intro id d found type
    rw [Stack.get?_insert] at found
    split at found
    · cases found
      exact signs
    · exact signed id d found type

namespace Operation

/-- Clients and providers are declared by the operations for them. -/
theorem signs_in_cases (op : Operation) : (∃ id pool settings, op = provider id pool settings) ∨
    (∃ id pool settings, op = client id pool settings) ∨
    ∀ type ∈ "AWS::ECS::Service" :: op.types, type ∉ signInTypes := by
  cases op with
  | provider id pool settings => exact .inl ⟨id, pool, settings, rfl⟩
  | client id pool settings => exact .inr (.inl ⟨id, pool, settings, rfl⟩)
  | _ => exact .inr (.inr (by simp [types, Vpc.types, signInTypes]))

theorem Possible.signed_in {op : Operation} (possible : op.Possible s known)
    (settled : Settled s known) (signed : s.SignedIn) : (s.run op.action).2.SignedIn := by
  rcases op.signs_in_cases with ⟨id, pool, settings, rfl⟩ | ⟨id, pool, settings, rfl⟩ | others
  · rw [action, gives, Stack.run_map]
    exact signed.declared (GoogleProvider.signs_in settings)
      (GoogleProvider.declare_only id pool settings)
  · rw [action, gives, Stack.run_map]
    exact signed.declared (SignInClient.signs_in settings)
      (SignInClient.declare_only id pool settings)
  · intro id d found type
    rcases possible.types_new settled ⟨d, found, rfl, rfl⟩ with old | new
    · exact signed.kept (possible.grows settled) found old type
    · exact absurd type (others _ new)

end Operation

theorem Ran.signed_in (ran : Ran s known) : s.SignedIn := by
  induction ran with
  | start made =>
    intro id d found
    rw [empty_of_make made] at found
    cases found
  | operate op before possible ih => exact possible.signed_in before.settled ih
  | part _ _ _ ih => exact ih

end Kept

namespace Template

/-- All clients and providers of a template say what they should. -/
def SignedIn (t : Template) : Prop :=
  ∀ id r, t.resource? id = some r → r.type ∈ signInTypes → r.SignsIn

/-- A client of a pool lets in users of Google. -/
structure SupportsGoogle (t : Template) (id : String) (client : Resource) (pool : String) :
    Prop where
  listed : t.resource? id = some client
  type : client.type = "AWS::Cognito::UserPoolClient"
  inside : client.InPool pool
  supports : GoogleProvider.providerName ∈ Audit.textsOf client "SupportedIdentityProviders"

/-- Google is a provider of a pool. -/
structure RegistersGoogle (t : Template) (id pool : String) : Prop where
  provider : ∃ r, t.resource? id = some r ∧ r.type = "AWS::Cognito::UserPoolIdentityProvider" ∧
    r.property? "ProviderName" = some (.str GoogleProvider.providerName) ∧ r.InPool pool

end Template

/-- A resource has been told to wait for another one. -/
def Stack.Awaits (s : Stack) (id target : String) : Prop :=
  ∃ w ∈ s.waits, w.dependent = id ∧ s.Answers w target

section Awaited

variable {s s' : Stack} {t : Template} {id target : String} {r : Resource}

/-- To wait for a construct is to wait for its main resource, be it known to wait or not. -/
theorem awaits_of_wait_for {dependency : Construct} {leaf type : String} (dependent : Construct)
    (stands : dependency.Stands s leaf type) (apart : dependency.logicalId ≠ dependent.logicalId) :
    (s.run (Stack.waitFor dependent dependency)).2.Awaits dependent.logicalId
      dependency.logicalId := by
  obtain ⟨waits, outcome, -, listed⟩ :=
    run_wait_for_path s dependent.logicalId dependency.path
  obtain ⟨d, found, place, -⟩ := stands
  rw [Stack.waitFor, outcome]
  refine ⟨_, listed, rfl, apart, d.path, ?_, place ▸ List.prefix_append _ _⟩
  exact Option.map_eq_some_iff.mpr ⟨d, found, rfl⟩

theorem Stack.Awaits.grows (awaits : s.Awaits id target) (grows : s.Grows s') :
    s'.Awaits id target := by
  obtain ⟨w, listed, same, other, path, place, below⟩ := awaits
  obtain ⟨d, found, rfl⟩ := Option.map_eq_some_iff.mp place
  obtain ⟨d', found', kept, -⟩ := grows.declared target d found
  exact ⟨w, grows.waits listed, same, other, d'.path,
    Option.map_eq_some_iff.mpr ⟨d', found', rfl⟩, kept ▸ below⟩

/-- What has been told to wait depends on what it waits for. -/
theorem Stack.Awaits.depends (awaits : s.Awaits id target) (made : s.synthesize = .ok t)
    (listed : t.resource? id = some r) : target ∈ r.dependsOn := by
  obtain ⟨declared, -, resolved⟩ := (Stack.template_resolved made).2 id r listed
  exact (resolved.depends_iff target).mpr (.inr awaits)

theorem Stack.SignedIn.template (signed : s.SignedIn) (made : s.synthesize = .ok t) :
    t.SignedIn := by
  rw [template_of_synthesis made]
  intro id r found type
  rw [Stack.template_resource, Option.map_eq_some_iff] at found
  obtain ⟨d, there, rfl⟩ := found
  rw [Stack.type_with_waits] at type
  exact (signed id d there type).same (Stack.type_with_waits s id d.resource)
    fun key _ => Stack.property_with_waits s id d.resource key

end Awaited

namespace Audit

variable {t : Template} {f : Finding}

/-- What is told of a client that lets in users of Google and does not depend on a provider. -/
def unawaited (id target : String) : Finding :=
  ⟨"V001", .error, id,
    s!"supports '{GoogleProvider.providerName}' but does not depend on {target}"⟩

/-- Each client that supports Google is held to all providers that are called so. -/
theorem provider_finding_iff (signed : t.SignedIn) :
    f ∈ findings t ∧ f.rule = "V001" ↔ ∃ id client pool target other,
      t.SupportsGoogle id client pool ∧ t.RegistersGoogle target other ∧
      target ∉ client.dependsOn ∧ f = unawaited id target := by
  constructor
  · rintro ⟨found, rule⟩
    obtain ⟨target, blames⟩ := blames_iff.mpr ⟨found, rule ▸ List.mem_cons_self⟩
    cases blames with
    | policy => simp at rule
    | provider listed type there kind named supports missing =>
      have registered := signed _ _ there (kind ▸ List.mem_cons_of_mem _ List.mem_cons_self)
      obtain ⟨pool, inside⟩ := (signed _ _ listed (type ▸ List.mem_cons_self)).pool
      obtain ⟨other, own⟩ := registered.pool
      cases named.symm.trans (registered.named kind)
      exact ⟨_, _, pool, target, other, ⟨listed, type, inside, supports⟩,
        ⟨_, there, kind, named, own⟩, missing, rfl⟩
  · rintro ⟨id, client, pool, target, other, client_of, ⟨_, there, kind, named, -⟩, missing, rfl⟩
    have blames : Blames t (unawaited id target) target :=
      .provider client_of.listed client_of.type there kind named client_of.supports missing
    exact ⟨(blames_iff.mp ⟨target, blames⟩).1, rfl⟩

end Audit

/-- After any operations, whatever they are: a client that supports Google is told for each provider
of that name that it does not depend on, be it of the client's pool or not. Where all clients wait
for the providers of their own pools, each finding is on a provider of another pool, so that there
is none if all are of one pool. -/
theorem Ran.provider_findings {s : Stack} {known : List Handle} {t : Template} (ran : Ran s known)
    (made : s.synthesize = .ok t) :
    (∀ f, f ∈ Audit.findings t ∧ f.rule = "V001" ↔ ∃ id client pool target other,
      t.SupportsGoogle id client pool ∧ t.RegistersGoogle target other ∧
      target ∉ client.dependsOn ∧ f = Audit.unawaited id target) ∧
    ((∀ id client pool target, t.SupportsGoogle id client pool → t.RegistersGoogle target pool →
        s.Awaits id target) →
      (∀ f ∈ Audit.findings t, f.rule = "V001" → ∃ id client pool target other, pool ≠ other ∧
        t.SupportsGoogle id client pool ∧ t.RegistersGoogle target other ∧
        f = Audit.unawaited id target) ∧
      ((∀ id client pool target other, t.SupportsGoogle id client pool →
          t.RegistersGoogle target other → pool = other) →
        ∀ f ∈ Audit.findings t, f.rule ≠ "V001")) := by
  have told := fun f => Audit.provider_finding_iff (f := f) (ran.signed_in.template made)
  refine ⟨told, fun awaited => ?_⟩
  have apart : ∀ f ∈ Audit.findings t, f.rule = "V001" → ∃ id client pool target other,
      pool ≠ other ∧ t.SupportsGoogle id client pool ∧ t.RegistersGoogle target other ∧
      f = Audit.unawaited id target := by
    intro f found rule
    obtain ⟨id, client, pool, target, other, client_of, registers, missing, rfl⟩ :=
      (told f).mp ⟨found, rule⟩
    refine ⟨id, client, pool, target, other, ?_, client_of, registers, rfl⟩
    rintro rfl
    have waits := awaited id client pool target client_of registers
    exact missing (waits.depends made client_of.listed)
  refine ⟨apart, fun together f found rule => ?_⟩
  obtain ⟨id, client, pool, target, other, differ, client_of, registers, -⟩ := apart f found rule
  exact differ (together id client pool target other client_of registers)

/-! Pools with providers that are both called Google. -/

def googleAccount (clientId : String) : GoogleProviderSettings :=
  { clientId, clientSecret := ⟨"GoogleClientSecret"⟩ }

/-- A client that waits for the provider of its pool; the ids of both. -/
def waitingClient : Declaring (String × String) := do
  let pool ← UserPool.declare "One" {}
  let provider ← GoogleProvider.declare "GoogleOne" pool (googleAccount "one")
  let client ← SignInClient.declare "Client" pool
    { providers := [.google], callbackUrls := ["https://app.example/cb"] }
  Stack.waitFor client.toConstruct provider.toConstruct
  return (client.logicalId, provider.logicalId)

/-- Another pool, with a provider of its own. -/
def otherPool : Declaring GoogleProvider := do
  let pool ← UserPool.declare "Two" {}
  GoogleProvider.declare "GoogleTwo" pool (googleAccount "two")

/-- The stack with one pool, and the stack with both. -/
def onePool : Stack := (blank.run waitingClient).2
def twoPools : Stack := (onePool.run otherPool).2

/-- Both runs succeed. -/
theorem pools_made :
    (blank.run waitingClient).1.toOption = some ("Client4A7F64DF", "GoogleOne06DCEADF") ∧
      (onePool.run otherPool).1.toOption.isSome = true := by
  decide +kernel

theorem one_pool_ran : ∃ known, Ran onePool known ∧
    onePool.Awaits "Client4A7F64DF" "GoogleOne06DCEADF" := by
  have made : blank.run waitingClient = (_, onePool) := run_of_result pools_made.1
  obtain ⟨pool, s₁, pool_made, made⟩ := run_bind_ok made
  obtain ⟨provider, s₂, provider_made, made⟩ := run_bind_ok made
  obtain ⟨client, s₃, client_made, made⟩ := run_bind_ok made
  obtain ⟨_, s₄, wait_made, made⟩ := run_bind_ok made
  obtain ⟨ids, rfl⟩ := Prod.mk.inj made
  obtain ⟨client_id, provider_id⟩ := Prod.mk.inj (Except.ok.inj ids)
  have apart : client.logicalId ≠ provider.logicalId := by
    rw [client_id, provider_id]
    decide
  have ran := blank_ran.next (.userPool _ _) rfl pool_made (by simp [Operation.uses]) rfl (by simp)
  have ran := ran.next (.provider _ _ _) rfl provider_made (by simp [Operation.uses]) rfl (by simp)
  have ran := ran.next (.client _ _ _) rfl client_made (by simp [Operation.uses]) rfl (by simp)
  have stands : provider.Valid s₃ := ran.settled.valid (.provider provider) (by simp)
  have provider_part : Handle.construct provider.toConstruct ∈
      (Handle.provider provider).parts := List.mem_singleton_self _
  have client_part : Handle.construct client.toConstruct ∈ (Handle.client client).parts :=
    List.mem_singleton_self _
  have ran := Ran.part ran (by simp) provider_part
  have ran := Ran.part ran (by simp) client_part
  have ran := ran.operated (.waitFor _ _) rfl wait_made ⟨by simp [Operation.uses], by
    simp [Operation.others], by rintro _ _ ⟨⟩; exact apart⟩
  have awaits := awaits_of_wait_for client.toConstruct stands apart.symm
  rw [wait_made, client_id, provider_id] at awaits
  exact ⟨_, ran, awaits⟩

/-- The client still waits for the provider of its pool when there is another pool. -/
theorem two_pools_ran : ∃ known, Ran twoPools known ∧
    twoPools.Awaits "Client4A7F64DF" "GoogleOne06DCEADF" := by
  obtain ⟨known, ran, awaits⟩ := one_pool_ran
  obtain ⟨provider, result⟩ := Option.isSome_iff_exists.mp pools_made.2
  obtain ⟨pool, s₁, pool_made, made⟩ := run_bind_ok (run_of_result result)
  have first : (Operation.userPool "Two" {}).Possible onePool known :=
    ⟨by simp [Operation.uses], by simp [Operation.others], by simp⟩
  have grows := first.grows ran.settled
  have ran := ran.operated _ rfl pool_made first
  have second : (Operation.provider "GoogleTwo" pool (googleAccount "two")).Possible s₁
      (known ++ [.userPool pool]) :=
    ⟨by simp [Operation.uses], by simp [Operation.others], by simp⟩
  have grows' := second.grows ran.settled
  rw [Operation.run_of_does rfl pool_made] at grows
  rw [Operation.run_of_does rfl made] at grows'
  exact ⟨_, ran.operated _ rfl made second, (awaits.grows grows).grows grows'⟩

/-- The resources of a type, each with the pool that it is of. -/
def Template.pooled (t : Template) (type : String) : List (String × Option String) :=
  (t.resourcesOfType type).map fun entry => (entry.1, entry.2.referred? "UserPoolId")

namespace Template

variable {t : Template} {id pool type : String} {client : Resource}

theorem mem_pooled_iff : (id, some pool) ∈ t.pooled type ↔
    ∃ r, t.resource? id = some r ∧ r.type = type ∧ r.InPool pool := by
  constructor
  · intro listed
    obtain ⟨⟨_, r⟩, member, same⟩ := List.mem_map.mp listed
    obtain ⟨rfl, inside⟩ := Prod.mk.inj same
    obtain ⟨there, kind⟩ := mem_resources_iff.mp member
    exact ⟨r, there, kind, inside⟩
  · rintro ⟨r, there, kind, inside⟩
    exact List.mem_map.mpr ⟨(id, r), mem_resources_iff.mpr ⟨there, kind⟩,
      Prod.mk.injEq .. ▸ ⟨rfl, inside⟩⟩

theorem SupportsGoogle.pooled (supports : t.SupportsGoogle id client pool) :
    (id, some pool) ∈ t.pooled "AWS::Cognito::UserPoolClient" :=
  mem_pooled_iff.mpr ⟨client, supports.listed, supports.type, supports.inside⟩

/-- Every provider is one of users of Google. -/
theorem registers_iff_pooled (signed : t.SignedIn) : t.RegistersGoogle id pool ↔
    (id, some pool) ∈ t.pooled "AWS::Cognito::UserPoolIdentityProvider" := by
  rw [mem_pooled_iff]
  constructor
  · rintro ⟨r, there, kind, -, inside⟩
    exact ⟨r, there, kind, inside⟩
  · rintro ⟨r, there, kind, inside⟩
    have registered := signed _ _ there (kind ▸ List.mem_cons_of_mem _ List.mem_cons_self)
    exact ⟨r, there, kind, registered.named kind, inside⟩

end Template

/-- One client and the provider of its pool, with further providers of other pools. -/
theorem own_provider_awaited {s : Stack} {t : Template} {others : List (String × Option String)}
    (signed : t.SignedIn) (awaits : s.Awaits "Client4A7F64DF" "GoogleOne06DCEADF")
    (clients : t.pooled "AWS::Cognito::UserPoolClient" =
      [("Client4A7F64DF", some "One8A44B909")])
    (providers : t.pooled "AWS::Cognito::UserPoolIdentityProvider" =
      ("GoogleOne06DCEADF", some "One8A44B909") :: others)
    (apart : ∀ entry ∈ others, entry.2 ≠ some "One8A44B909") :
    ∀ id client pool target, t.SupportsGoogle id client pool → t.RegistersGoogle target pool →
      s.Awaits id target := by
  intro id client pool target supports registers
  have client_listed := supports.pooled
  have provider_listed := (Template.registers_iff_pooled signed).mp registers
  rw [clients, List.mem_singleton] at client_listed
  rw [providers] at provider_listed
  cases client_listed
  rcases List.mem_cons.mp provider_listed with own | other
  · cases own
    exact awaits
  · exact absurd rfl (apart _ other)

/-- The clients and providers of both templates, and what else is said of the client. -/
theorem pools_told :
    (onePool.synthesize.toOption.map fun t =>
      (t.pooled "AWS::Cognito::UserPoolClient", t.pooled "AWS::Cognito::UserPoolIdentityProvider",
        (t.resource? "Client4A7F64DF").map (Audit.textsOf · "SupportedIdentityProviders"))) =
      some ([("Client4A7F64DF", some "One8A44B909")], [("GoogleOne06DCEADF", some "One8A44B909")],
        some ["Google"]) ∧
    (twoPools.synthesize.toOption.map fun t =>
      (t.pooled "AWS::Cognito::UserPoolClient", t.pooled "AWS::Cognito::UserPoolIdentityProvider",
        decide (Audit.unawaited "Client4A7F64DF" "GoogleTwoAE304B63" ∈ Audit.findings t))) =
      some ([("Client4A7F64DF", some "One8A44B909")],
        [("GoogleOne06DCEADF", some "One8A44B909"), ("GoogleTwoAE304B63", some "Two20CDA8F5")],
        true) := by
  constructor
  · decide +kernel
  · decide +kernel

/-- A client waits for the only provider, and nothing is told of it. -/
theorem awaited_provider_untold : ∃ s known t, Ran s known ∧ s.synthesize = .ok t ∧
    (∀ id client pool target, t.SupportsGoogle id client pool → t.RegistersGoogle target pool →
      s.Awaits id target) ∧
    (∃ client, t.SupportsGoogle "Client4A7F64DF" client "One8A44B909") ∧
    t.RegistersGoogle "GoogleOne06DCEADF" "One8A44B909" ∧
    ∀ f ∈ Audit.findings t, f.rule ≠ "V001" := by
  obtain ⟨known, ran, awaits⟩ := one_pool_ran
  obtain ⟨t, result, same⟩ := Option.map_eq_some_iff.mp pools_told.1
  obtain ⟨clients, same⟩ := Prod.mk.inj same
  obtain ⟨providers, texts⟩ := Prod.mk.inj same
  have made := Outcome.ok_of_result result
  have signed := ran.signed_in.template made
  have awaited := own_provider_awaited signed awaits clients providers (List.forall_mem_nil _)
  refine ⟨onePool, known, t, ran, made, awaited, ?_, ?_, ?_⟩
  · obtain ⟨r, there, kind, inside⟩ := Template.mem_pooled_iff.mp (clients ▸ List.mem_cons_self)
    rw [there, Option.map_some, Option.some.injEq] at texts
    exact ⟨r, there, kind, inside, texts ▸ List.mem_cons_self⟩
  · rw [Template.registers_iff_pooled signed, providers]
    exact List.mem_cons_self
  · refine ((ran.provider_findings made).2 awaited).2 ?_
    intro id client pool target other of_pool own
    have first := of_pool.pooled
    have second := (Template.registers_iff_pooled signed).mp own
    rw [clients, List.mem_singleton] at first
    rw [providers, List.mem_singleton] at second
    cases first
    cases second
    rfl

/-- The provider of another pool is told of a client that waits for the provider of its own. -/
theorem other_pool_told : ∃ s known t, Ran s known ∧ s.synthesize = .ok t ∧
    (∀ id client pool target, t.SupportsGoogle id client pool → t.RegistersGoogle target pool →
      s.Awaits id target) ∧
    Audit.unawaited "Client4A7F64DF" "GoogleTwoAE304B63" ∈ Audit.findings t := by
  obtain ⟨known, ran, awaits⟩ := two_pools_ran
  obtain ⟨t, result, same⟩ := Option.map_eq_some_iff.mp pools_told.2
  obtain ⟨clients, same⟩ := Prod.mk.inj same
  obtain ⟨providers, told⟩ := Prod.mk.inj same
  have made := Outcome.ok_of_result result
  have signed := ran.signed_in.template made
  exact ⟨twoPools, known, t, ran, made,
    own_provider_awaited signed awaits clients providers (by decide), of_decide_eq_true told⟩

end StackSynth
