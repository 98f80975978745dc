import StackSynth.Proofs.Asset.Source
import StackSynth.Proofs.HostedService.Shape
import StackSynth.Proofs.Identity.Checks
import StackSynth.Proofs.Stack.Allocation

/-!
Which settings a build accepts. Each condition is a check of one part; that there is nothing else to
fail shows in a single build: what one build has declared, every other one declares too.
-/
namespace StackSynth

namespace Stack

theorem is_name_iff {name : String} : isName name = true ↔ Text.byteLength name ≤ 128 ∧
    (∃ first ∈ name.toList.head?, Text.isAsciiLetter first = true) ∧
    ∀ c ∈ name.toList, Text.isAsciiAlphanumeric c = true ∨ c = '-' := by
  have starts : (name.toList.head?.map Text.isAsciiLetter).getD false = true ↔
      ∃ first ∈ name.toList.head?, Text.isAsciiLetter first = true := by
    cases name.toList.head? <;> simp
  simp only [isName, Bool.and_eq_true, decide_eq_true_eq, starts, List.all_eq_true,
    Bool.or_eq_true, beq_iff_eq, and_assoc]

end Stack

namespace HostedService

variable {files : FileTree} {c : Config} {s s' : Stack}

/-- What the settings have to meet for the service to be built from them. -/
structure Acceptable (c : Config) : Prop where
  valid : c.validate = .ok ()
  nameLength : Text.byteLength c.stack.name ≤ 128
  nameStart : ∃ first ∈ c.stack.name.toList.head?, Text.isAsciiLetter first = true
  nameLetters : ∀ ch ∈ c.stack.name.toList, Text.isAsciiAlphanumeric ch = true ∨ ch = '-'
  domainDotted : '.' ∈ (Text.trim c.certificate.domainName).toList
  domainLength : Text.byteLength (Text.trim c.certificate.domainName) ≤ 253
  secretLength : 1 ≤ Text.byteLength c.identity.googleClientSecretName ∧
    Text.byteLength c.identity.googleClientSecretName ≤ 512
  secretLetters : ∀ ch ∈ c.identity.googleClientSecretName.toList,
    Text.isAsciiAlphanumeric ch = true ∨ ch ∈ "/_+=.@-".toList
  labelLength : 1 ≤ c.identity.userPoolDomain.toList.length ∧
    c.identity.userPoolDomain.toList.length ≤ 63
  labelLetters : ∀ ch ∈ c.identity.userPoolDomain.toList,
    Text.isAsciiLower ch = true ∨ Text.isAsciiDigit ch = true ∨ ch = '-'
  labelStart : c.identity.userPoolDomain.toList.head? ≠ some '-'
  labelEnd : c.identity.userPoolDomain.toList.getLast? ≠ some '-'
  labelUnreserved : ∀ word ∈ ["aws", "amazon", "cognito"],
    ¬ word.toList <:+: c.identity.userPoolDomain.toList
  addressed : c.callbackUrls ≠ []
  addressesSafe : ∀ url ∈ c.callbackUrls,
    "https://".toList <+: url.toList ∨ "http://localhost".toList <+: url.toList

/-! What the checks of the settings leave for the declarations. -/

structure Sensible (c : Config) : Prop where
  environment : ∃ e, c.environment = .ok e
  client : Text.isBlank c.identity.googleClientId = false
  least : 5 ≤ c.identity.accessTokenValidityMinutes.toNat
  most : c.identity.accessTokenValidityMinutes.toNat ≤ 1440

theorem sensible_of_valid (valid : c.validate = .ok ()) : Sensible c := by
  unfold Config.validate at valid
  obtain ⟨e, environment, valid⟩ := Outcome.bind_ok valid
  obtain ⟨_, valid⟩ := Outcome.unless_ok valid
  obtain ⟨client, valid⟩ := Outcome.unless_ok valid
  obtain ⟨_, valid⟩ := Outcome.unless_ok valid
  dsimp only at valid
  split at valid
  · cases valid
  · next span =>
    obtain ⟨least, most⟩ := not_or.mp span
    simp only [Config.leastTokenMinutes, Config.mostTokenMinutes, UInt64.lt_iff_toNat_lt,
      UInt64.reduceToNat, Nat.not_lt] at least most
    exact ⟨⟨e, environment⟩, Bool.not_eq_true _ ▸ client, least, most⟩

theorem empty_stack_ok_iff (environment : ∃ e, c.environment = .ok e) :
    (∃ start, emptyStack c = .ok start) ↔ Stack.isName c.stack.name = true := by
  obtain ⟨e, environment⟩ := environment
  unfold emptyStack Stack.make
  by_cases named : Stack.isName c.stack.name = true <;>
    simp [environment, named, bind, Except.bind, pure, Except.pure]

theorem addresses_iff (sensible : Sensible c) (id : String) :
    SignInClient.check id (clientSettings c) = .ok () ↔ c.callbackUrls ≠ [] ∧
      ∀ url ∈ c.callbackUrls,
        "https://".toList <+: url.toList ∨ "http://localhost".toList <+: url.toList := by
  have flow : SignInClient.flows (clientSettings c) ≠ [] := by
    simp [SignInClient.flows, clientSettings]
  have valid :
      ((clientSettings c).tokenValidity.map SignInClient.isTokenValidity).getD true = true :=
    SignInClient.is_token_validity_of_minutes sensible.least sensible.most
  rw [SignInClient.check_ok_iff valid]
  simp only [SignInClient.is_safe_url_iff, ne_eq, flow, not_false_eq_true, forall_const]
  rfl

theorem build_ok_iff_declared : (∃ made, build files c = .ok made) ↔
    c.validate = .ok () ∧ ∃ start, emptyStack c = .ok start ∧
      ∃ h, (start.run (declare files c)).1 = .ok h := by
  constructor
  · rintro ⟨made, built⟩
    unfold build at built
    obtain ⟨⟨⟩, valid, built⟩ := Outcome.bind_ok built
    obtain ⟨start, empty, built⟩ := Outcome.bind_ok built
    rcases ran : start.run (declare files c) with ⟨result, left⟩
    rw [ran] at built
    obtain ⟨h, declared, _⟩ := Outcome.bind_ok built
    exact ⟨valid, start, empty, h, by rw [ran, declared]⟩
  · rintro ⟨valid, start, empty, h, declared⟩
    refine ⟨(h, (start.run (declare files c)).2), ?_⟩
    simp only [build, valid, empty, declared, bind, Except.bind]
    rfl

/-- A run that succeeds has passed the checks of what users sign in with. -/
theorem checks_of_sign_in {signIn : SignIn} (ran : s.run (declareSignIn c) = (.ok signIn, s')) :
    Certificate.isDomainName (Text.trim c.certificate.domainName) = true ∧
    Secret.isName c.identity.googleClientSecretName = true ∧
    SignInDomain.isLabel c.identity.userPoolDomain = true ∧
    ∀ word ∈ SignInDomain.reservedWords, Text.contains word c.identity.userPoolDomain = false := by
  unfold declareSignIn at ran
  obtain ⟨certificate, s₁, certificate_ran, ran⟩ := run_bind_ok ran
  obtain ⟨pool, s₂, _, ran⟩ := run_bind_ok ran
  obtain ⟨secret, s₃, secret_ran, ran⟩ := run_bind_ok ran
  obtain ⟨provider, s₄, _, ran⟩ := run_bind_ok ran
  obtain ⟨domain, s₅, domain_ran, _⟩ := run_bind_ok ran
  unfold Certificate.declare at certificate_ran
  unfold SignInDomain.declare at domain_ran
  obtain ⟨named, _⟩ := run_unless_ok certificate_ran
  obtain ⟨labelled, domain_ran⟩ := run_unless_ok domain_ran
  obtain ⟨unreserved, _⟩ := run_unless_ok domain_ran
  have kept : Secret.ofName c.identity.googleClientSecretName = .ok secret :=
    congrArg Prod.fst secret_ran
  refine ⟨by simpa using named, ?_, by simpa using labelled, by simpa using unreserved⟩
  by_contra unnamed
  rw [Secret.ofName, if_neg unnamed] at kept
  cases kept

theorem checks_of_client {signIn : SignIn} {client : SignInClient}
    (ran : s.run (declareClient c signIn) = (.ok client, s')) :
    SignInClient.check "ZkcirUserPoolClient" (clientSettings c) = .ok () := by
  unfold declareClient SignInClient.declare at ran
  obtain ⟨_, _, ran, _⟩ := run_bind_ok ran
  obtain ⟨⟨⟩, _, checked, _⟩ := run_bind_ok ran
  exact congrArg Prod.fst checked

theorem parts_of_declared {h : HostedService} (ran : s.run (declare files c) = (.ok h, s')) :
    ∃ (signIn : SignIn) (client : SignInClient) (s₁ s₂ s₃ : Stack),
      s.run (declareSignIn c) = (.ok signIn, s₁) ∧
      s₂.run (declareClient c signIn) = (.ok client, s₃) := by
  unfold declare at ran
  obtain ⟨signIn, s₁, sign_in_ran, ran⟩ := run_bind_ok ran
  obtain ⟨vpc, _, _, ran⟩ := run_bind_ok ran
  obtain ⟨workload, _, _, ran⟩ := run_bind_ok ran
  obtain ⟨entrance, s₂, _, ran⟩ := run_bind_ok ran
  obtain ⟨client, s₃, client_ran, _⟩ := run_bind_ok ran
  exact ⟨signIn, client, s₁, s₂, s₃, sign_in_ran, client_ran⟩

theorem acceptable_of_build {made : HostedService × Stack} (built : build files c = .ok made) :
    Acceptable c := by
  obtain ⟨valid, start, empty, h, declared⟩ := build_ok_iff_declared.mp ⟨made, built⟩
  have sensible := sensible_of_valid valid
  rcases ran : start.run (declare files c) with ⟨result, left⟩
  rw [ran] at declared
  obtain rfl : result = .ok h := declared
  obtain ⟨_, _, _, _, _, sign_in_ran, client_ran⟩ := parts_of_declared ran
  obtain ⟨domain, secret, label, unreserved⟩ := checks_of_sign_in sign_in_ran
  have name := (empty_stack_ok_iff sensible.environment).mp ⟨start, empty⟩
  obtain ⟨nameLength, nameStart, nameLetters⟩ := Stack.is_name_iff.mp name
  obtain ⟨domainDotted, domainLength⟩ := Certificate.is_domain_name_iff.mp domain
  obtain ⟨secretLength, secretLetters⟩ := Secret.is_name_iff.mp secret
  obtain ⟨labelLength, labelLetters, labelStart, labelEnd⟩ := SignInDomain.is_label_iff.mp label
  obtain ⟨addressed, addressesSafe⟩ := (addresses_iff sensible _).mp (checks_of_client client_ran)
  have labelUnreserved : ∀ word ∈ ["aws", "amazon", "cognito"],
      ¬ word.toList <:+: c.identity.userPoolDomain.toList := by
    intro word listed inside
    have absent := unreserved word listed
    rw [Text.contains_iff.mpr inside] at absent
    cases absent
  exact {
    valid, nameLength, nameStart, nameLetters, domainDotted, domainLength, secretLength,
    secretLetters, labelLength, labelLetters, labelStart, labelEnd, labelUnreserved, addressed,
    addressesSafe }

theorem Acceptable.fits (acceptable : Acceptable c)
    (service : ImageAsset.Buildable files (imageSettings c c.build.serviceTarget))
    (function : ImageAsset.Buildable files (imageSettings c c.build.lambdaTarget)) :
    Fits files c where
  domain := Certificate.is_domain_name_iff.mpr ⟨acceptable.domainDotted, acceptable.domainLength⟩
  secret := Secret.is_name_iff.mpr ⟨acceptable.secretLength, acceptable.secretLetters⟩
  client := (sensible_of_valid acceptable.valid).client
  label := SignInDomain.is_label_iff.mpr ⟨acceptable.labelLength, acceptable.labelLetters,
    acceptable.labelStart, acceptable.labelEnd⟩
  unreserved := fun word listed => Bool.eq_false_iff.mpr fun inside =>
    acceptable.labelUnreserved word listed (Text.contains_iff.mp inside)
  serviceImage := fun _ => ImageAsset.source_of_ok_iff.mpr service
  functionImage := fun _ => ImageAsset.source_of_ok_iff.mpr function
  addresses := fun id => (addresses_iff (sensible_of_valid acceptable.valid) id).mpr
    ⟨acceptable.addressed, acceptable.addressesSafe⟩

/-! One declaration that succeeds, by evaluation: every id is free there, and all that is edited is
found. The others follow it. -/

def sampleSettings : Config := { build := { context := "/", exclude := [] } }

def sampleStart : Stack := { name := "Sample", environment := ⟨"123456789012", "us-east-1"⟩ }

theorem sample_source (path : List String) (target : String) :
    ImageAsset.sourceOf FileTree.oneFile path (imageSettings sampleSettings target) =
      .ok (ImageAsset.oneFileSource path { target := some target }) :=
  ImageAsset.one_file_source path rfl rfl

theorem sample_declared :
    ∃ h, (sampleStart.run (declare FileTree.oneFile sampleSettings)).1 = .ok h := by
  have succeeds : (sampleStart.run (declare FileTree.oneFile sampleSettings)).1.isOk = true := by
    -- The files are not part of the evaluation: what is built from them is known.
    simp only [declare, declareWorkload, LambdaFunction.declare, ImageAsset.declare,
      functionSettings, sample_source]
    -- All that declares something is opened up to the ids, which are counted then.
    delta declareData declareSignIn declareClient declareEntrance declareExecutionRole
      Bucket.declare Bucket.declareEmptying Bucket.grantReadWrite AutoDelete.provider
      Table.declare Table.grantReadWrite UserPool.declare SignInDomain.declare
      SignInClient.declare GoogleProvider.declare Vpc.declare Vpc.declareGateway
      Vpc.declareGroups Vpc.declareGroups._f Vpc.declareZones Vpc.declareZones._f
      Vpc.declareNat Vpc.routeEgress Vpc.addEndpoint Subnet.declare SecurityGroup.declare
      SecurityGroup.allowFrom Certificate.declare LoadBalancer.declare Listener.declare
      Listener.addTargets Listener.attach Cluster.declare TaskDefinition.declare
      TaskDefinition.addContainer TaskDefinition.declareLogging TaskDefinition.roleOr
      Service.declare LambdaFunction.grantInvoke ImageAsset.grantPull LogGroup.declare
      LogGroup.grantWrite Role.declare Role.grant Role.addToPolicy Role.ensurePolicy
      Role.defaultPolicy? Stack.declare LogicalId.ofPath
    rw [LogicalId.numbered_eq_counted]
    decide +kernel
  cases outcome : (sampleStart.run (declare FileTree.oneFile sampleSettings)).1 with
  | ok h => exact ⟨h, rfl⟩
  | error e => rw [outcome] at succeeds; cases succeeds

theorem build_of_acceptable (acceptable : Acceptable c)
    (service : ImageAsset.Buildable files (imageSettings c c.build.serviceTarget))
    (function : ImageAsset.Buildable files (imageSettings c c.build.lambdaTarget)) :
    ∃ made, build files c = .ok made := by
  have sensible := sensible_of_valid acceptable.valid
  have named := Stack.is_name_iff.mpr
    ⟨acceptable.nameLength, acceptable.nameStart, acceptable.nameLetters⟩
  obtain ⟨start, empty⟩ := (empty_stack_ok_iff sensible.environment).mpr named
  have alike : sampleStart.Alike start :=
    Blank.alike ⟨rfl, rfl, rfl, rfl⟩ (empty_stack_blank empty)
  obtain ⟨h, sample⟩ := sample_declared
  have declared := (agree_declare sampleStart start alike h sample).1
    (acceptable.fits service function)
  exact build_ok_iff_declared.mpr ⟨acceptable.valid, start, empty, declared⟩

/-- Where both images can be built, the service is built from exactly the acceptable settings; no
step of the build but the checks of the settings fails. -/
theorem build_ok_iff
    (service : ImageAsset.Buildable files (imageSettings c c.build.serviceTarget))
    (function : ImageAsset.Buildable files (imageSettings c c.build.lambdaTarget)) :
    (∃ made, build files c = .ok made) ↔ Acceptable c :=
  ⟨fun ⟨_, built⟩ => acceptable_of_build built, fun acceptable =>
    build_of_acceptable acceptable service function⟩

theorem sample_settings_built : ∃ made, build FileTree.oneFile sampleSettings = .ok made := by
  have name : Stack.isName sampleSettings.stack.name = true := by decide
  have secret : Secret.isName sampleSettings.identity.googleClientSecretName = true := by decide
  have label : SignInDomain.isLabel sampleSettings.identity.userPoolDomain = true := by decide
  obtain ⟨nameLength, nameStart, nameLetters⟩ := Stack.is_name_iff.mp name
  obtain ⟨secretLength, secretLetters⟩ := Secret.is_name_iff.mp secret
  obtain ⟨labelLength, labelLetters, labelStart, labelEnd⟩ := SignInDomain.is_label_iff.mp label
  have acceptable : Acceptable sampleSettings := {
    nameLength, nameStart, nameLetters, secretLength, secretLetters, labelLength, labelLetters,
    labelStart, labelEnd
    valid := by decide
    domainDotted := by decide
    domainLength := by decide
    labelUnreserved := by decide
    addressed := by decide
    addressesSafe := by decide }
  exact (build_ok_iff (ImageAsset.source_of_ok_iff.mp ⟨_, sample_source [] _⟩)
    (ImageAsset.source_of_ok_iff.mp ⟨_, sample_source [] _⟩)).mpr acceptable

end HostedService

end StackSynth
