import StackSynth.Audit
import StackSynth.Identity.SignInClient
import StackSynth.Proofs.Identity.Checks
import StackSynth.Proofs.Stack.Calls
import StackSynth.Proofs.Stack.Obeys
import StackSynth.Proofs.Stack.Reached

/-!
What the resources of clients and of identity providers say, read back by the names of their
properties, and what is left of a stack where one of them is declared, or is not. Then the addresses
that the users of a client are sent back to with their tokens. Each is encrypted, or leads to a host
whose name begins like that of the machine itself; it is the machine's own name where nothing but
the end of a name follows.
-/
namespace StackSynth

variable {s s' : Stack} {id : String} {pool : UserPool}

section DeclaresOnly

variable {α : Type} {path : List String} {r : Resource} {m : Declaring α}

/-- The action declares the resource or leaves the stack as it is. -/
def DeclaresOnly (path : List String) (r : Resource) (m : Declaring α) : Prop :=
  ∀ s : Stack, (s.run m).2 = s ∨ ∃ name, (s.run m).2 = s.insert name path r

theorem declares_only_declare (path : List String) (r : Resource) (result : String → α) :
    DeclaresOnly path r (Stack.declare path r >>= fun name => pure (result name)) := by
  intro s
  rw [Stack.run_bind, Stack.run_declare]
  cases LogicalId.ofPath path with
  | error e => exact .inl rfl
  | ok name =>
    by_cases taken : s.isTaken name = true
    · exact .inl (by simp only [taken, if_true])
    · exact .inr ⟨name, by simp only [if_neg taken]; rfl⟩

theorem declares_only_unless {stop : Prop} [Decidable stop] {e : Failure}
    {rest : PUnit → Declaring α} (onward : DeclaresOnly path r (rest ⟨⟩)) :
    DeclaresOnly path r (if stop then throw e >>= rest else rest ⟨⟩) := by
  by_cases stopped : stop
  · rw [if_pos stopped]
    exact fun s => .inl rfl
  · rwa [if_neg stopped]

theorem declares_only_lift {β : Type} (o : Outcome β) {rest : β → Declaring α}
    (onward : ∀ b, DeclaresOnly path r (rest b)) :
    DeclaresOnly path r (Stack.lift o >>= rest) := by
  intro s
  rw [Stack.run_bind, Stack.run_lift]
  cases o with
  | error e => exact .inl rfl
  | ok b => exact onward b s

end DeclaresOnly

namespace SignInClient

variable {client : SignInClient} {settings : SignInClientSettings}

/-- The resource that a client is declared with. -/
def resourceFor (pool : UserPool) (settings : SignInClientSettings) : Resource where
  type := "AWS::Cognito::UserPoolClient"
  properties := properties pool settings

theorem get?_optional_texts (key name : String) (items : List String) :
    Fields.get? key (optionalTexts name items) =
      if name = key ∧ items ≠ [] then some (.strs items) else none := by
  cases items with
  | nil => simp [optionalTexts, Fields.get?]
  | cons item rest => simp [optionalTexts, Fields.get?]

/-- The properties that are lists of texts, and the pool. -/
def listedFields (pool : UserPool) (settings : SignInClientSettings) : Fields :=
  optionalTexts "AllowedOAuthFlows" (flows settings)
    ++ optionalTexts "AllowedOAuthScopes" (settings.scopes.map OAuthScope.text)
    ++ optionalTexts "CallbackURLs" settings.callbackUrls
    ++ optionalTexts "SupportedIdentityProviders" (settings.providers.map SignInProvider.text)
    ++ [("UserPoolId", pool.poolId.toJson)]

theorem get?_properties {key : String} (listed : key ∉
      ["AccessTokenValidity", "AllowedOAuthFlowsUserPoolClient", "TokenValidityUnits"]) :
    Fields.get? key (properties pool settings) = Fields.get? key (listedFields pool settings) := by
  simp only [List.mem_cons, List.not_mem_nil, or_false, not_or] at listed
  obtain ⟨validity, flag, units⟩ := listed
  have flagged : Fields.get? key (if flows settings = [] then []
      else [("AllowedOAuthFlowsUserPoolClient", .bool true)]) = none := by
    split <;> simp [Fields.get?, Ne.symm flag]
  unfold properties
  cases settings.tokenValidity <;>
    simp [listedFields, Fields.get?_append, flagged, Fields.get?, Ne.symm validity, Ne.symm units]

theorem property_pool : (resourceFor pool settings).property? "UserPoolId" =
    some pool.poolId.toJson := by
  rw [Resource.property?, resourceFor, get?_properties (by decide)]
  simp [listedFields, Fields.get?_append, get?_optional_texts, Fields.get?]

/-- The addresses that a client is declared with are those given, also where there are none. -/
theorem texts_of_callbacks :
    Audit.textsOf (resourceFor pool settings) "CallbackURLs" = settings.callbackUrls := by
  have found : (resourceFor pool settings).property? "CallbackURLs" =
      if settings.callbackUrls ≠ [] then some (.strs settings.callbackUrls) else none := by
    rw [Resource.property?, resourceFor, get?_properties (by decide)]
    simp [listedFields, Fields.get?_append, get?_optional_texts, Fields.get?]
  rw [Audit.textsOf, found]
  cases settings.callbackUrls with
  | nil => rfl
  | cons url rest =>
    simp [Json.strs, Json.asArr?, List.filterMap_map, Function.comp_def, Json.asStr?]

theorem declare_only (id : String) (pool : UserPool) (settings : SignInClientSettings) :
    DeclaresOnly [id, "Resource"] (resourceFor pool settings) (declare id pool settings) :=
  declares_only_lift _ fun _ => declares_only_declare _ _ _

theorem run_declare (s : Stack) (id : String) (pool : UserPool) (settings : SignInClientSettings) :
    s.run (declare id pool settings) = match check id settings with
      | .error e => (.error e, s)
      | .ok () => s.run do
        let logicalId ← Stack.declare [id, "Resource"] (resourceFor pool settings)
        return { path := [id], logicalId } := by
  rw [declare, Stack.run_bind, Stack.run_lift]
  rcases check id settings with e | ⟨⟩ <;> rfl

theorem run_checked {name : String} (checked : check id settings = .ok ())
    (declared : s.run (Stack.declare [id, "Resource"] (resourceFor pool settings)) =
      (.ok name, s')) :
    s.run (declare id pool settings) = (.ok { path := [id], logicalId := name }, s') := by
  rw [run_declare, checked]
  exact Stack.run_after declared _

theorem declare_ok (made : s.run (declare id pool settings) = (.ok client, s')) :
    check id settings = .ok () ∧ s.contains client.logicalId = false ∧
      s' = s.insert client.logicalId [id, "Resource"] (resourceFor pool settings) := by
  rw [run_declare] at made
  rcases checked : check id settings with e | ⟨⟩
  · rw [checked] at made
    cases made
  · rw [checked] at made
    obtain ⟨logicalId, s₁, declared, made⟩ := run_bind_ok made
    cases made
    obtain ⟨-, free, rfl⟩ := Stack.run_declare_ok declared
    exact ⟨rfl, (Bool.or_eq_false_iff.mp free).1, rfl⟩

end SignInClient

namespace GoogleProvider

/-- The name and the pool are found with a mapping of attributes as without one. -/
theorem property_of_provider (pool : UserPool) (settings : GoogleProviderSettings) :
    (resourceFor pool settings).type = "AWS::Cognito::UserPoolIdentityProvider" ∧
    (resourceFor pool settings).property? "ProviderName" = some (.str providerName) ∧
    (resourceFor pool settings).property? "UserPoolId" = some pool.poolId.toJson := by
  unfold resourceFor
  split
  · exact ⟨rfl, rfl, rfl⟩
  · refine ⟨rfl, ?_, ?_⟩
    all_goals
      rw [Resource.property_with_property, if_neg (by decide)]
      rfl

theorem declare_only (id : String) (pool : UserPool) (settings : GoogleProviderSettings) :
    DeclaresOnly [id, "Resource"] (resourceFor pool settings) (declare id pool settings) := by
  unfold declare
  exact declares_only_unless (declares_only_declare _ _ _)

end GoogleProvider

namespace CallbackUrl

def scheme : List Char := "http://".toList
def ownHost : List Char := "localhost".toList

def IsEncrypted (url : String) : Prop := "https://".toList <+: url.toList

/-- A port, a path, a query or a fragment follows the name of a host. -/
def endsHost (c : Char) : Bool := c ∈ [':', '/', '?', '#']

/-- The name of the host that an address in clear leads to. -/
def HasHost (url : String) (host : List Char) : Prop :=
  ∃ rest, url.toList = scheme ++ rest ∧ rest.takeWhile (!endsHost ·) = host

/-- What follows the prefix that addresses in clear are admitted by is no part of a name. -/
def EndsThere (url : String) : Prop :=
  ∀ c rest, url.toList = scheme ++ ownHost ++ c :: rest → endsHost c = true

/-- The rule: encrypted, unless the host is the machine itself. -/
def StaysSafe (url : String) : Prop := IsEncrypted url ∨ HasHost url ownHost

variable {url : String} {host : List Char}

theorem host_unique {other : List Char} (first : HasHost url host) (second : HasHost url other) :
    host = other := by
  obtain ⟨rest, same, rfl⟩ := first
  obtain ⟨rest', same', rfl⟩ := second
  rw [same, List.append_cancel_left_eq] at same'
  rw [same']

theorem own_host_letters : ∀ c ∈ ownHost, (!endsHost c) = true :=
  List.all_eq_true.mp (by decide)

/-- An address that begins with the name of the machine leads to a host whose name does. -/
theorem prefix_iff : scheme ++ ownHost <+: url.toList ↔ ∃ tail, HasHost url (ownHost ++ tail) := by
  constructor
  · rintro ⟨rest, same⟩
    refine ⟨rest.takeWhile (!endsHost ·), ownHost ++ rest, ?_, ?_⟩
    · rw [← same, List.append_assoc]
    · exact List.takeWhile_append_of_pos own_host_letters
  · rintro ⟨tail, rest, same, taken⟩
    obtain ⟨more, whole⟩ : ownHost <+: rest :=
      (List.prefix_append _ tail).trans (taken ▸ List.takeWhile_prefix _)
    exact ⟨more, by rw [same, ← whole, List.append_assoc]⟩

/-- The host is the machine itself where the prefix is all of its name. -/
theorem own_host_iff : HasHost url ownHost ↔ scheme ++ ownHost <+: url.toList ∧ EndsThere url := by
  constructor
  · intro own
    refine ⟨prefix_iff.mpr ⟨[], by simpa using own⟩, fun c rest same => ?_⟩
    by_contra inside
    have longer : HasHost url (ownHost ++ c :: rest.takeWhile (!endsHost ·)) := by
      refine ⟨ownHost ++ c :: rest, by rw [same, List.append_assoc], ?_⟩
      rw [List.takeWhile_append_of_pos own_host_letters, List.takeWhile_cons_of_pos]
      simpa using inside
    exact absurd (host_unique own longer) (by simp)
  · rintro ⟨⟨rest, same⟩, ends⟩
    refine ⟨ownHost ++ rest, by rw [← same, List.append_assoc], ?_⟩
    rw [List.takeWhile_append_of_pos own_host_letters]
    cases rest with
    | nil => rfl
    | cons c rest => simp [ends c rest same.symm]

/-- What the check admits: encrypted, or to a host whose name begins like the machine's own. -/
def Admitted (url : String) : Prop := IsEncrypted url ∨ ∃ tail, HasHost url (ownHost ++ tail)

theorem admitted_iff : Admitted url ↔ SignInClient.isSafeUrl url = true := by
  rw [SignInClient.is_safe_url_iff, Admitted, ← prefix_iff]
  rfl

theorem Admitted.safe (admitted : Admitted url) (ends : EndsThere url) : StaysSafe url :=
  admitted.imp_right fun longer => own_host_iff.mpr ⟨prefix_iff.mpr longer, ends⟩

end CallbackUrl

namespace SignInClient

open CallbackUrl

variable {id : String} {settings : SignInClientSettings}

theorem admitted_of_check (checked : check id settings = .ok ()) :
    ∀ url ∈ settings.callbackUrls, Admitted url := by
  unfold check at checked
  obtain ⟨-, checked⟩ := Outcome.unless_ok checked
  cases first : settings.callbackUrls.find? (!isSafeUrl ·) with
  | none =>
    intro url member
    rw [admitted_iff]
    simpa using List.find?_eq_none.mp first url member
  | some url =>
    rw [first] at checked
    cases checked

theorem check_of_first {before after : List String} {url : String}
    (listed : settings.callbackUrls = before ++ url :: after)
    (earlier : ∀ other ∈ before, Admitted other) (refused : ¬ Admitted url) :
    check id settings = .error
      (.invalidProps id s!"callback URL '{url}' must use https unless it is localhost") := by
  have none_before : before.find? (!isSafeUrl ·) = none :=
    List.find?_eq_none.mpr fun other member => by simp [admitted_iff.mp (earlier other member)]
  have first : settings.callbackUrls.find? (!isSafeUrl ·) = some url := by
    rw [listed, List.find?_append, none_before, Option.none_or, List.find?_cons_of_pos]
    simpa [admitted_iff] using refused
  unfold check
  rw [if_neg (by simp [listed]), first]
  rfl

/-- Where a client is declared, it lists the addresses that were given, and each of them is
encrypted or leads to a host whose name begins like that of the machine itself; it keeps the rule
unless more of a name follows. Otherwise the first address that does neither is told, and nothing is
declared. -/
theorem callbacks_checked (s : Stack) (id : String) (pool : UserPool)
    (settings : SignInClientSettings) :
    (∀ client s', s.run (declare id pool settings) = (.ok client, s') →
      ∃ r, s'.resource? client.logicalId = some r ∧
        Audit.textsOf r "CallbackURLs" = settings.callbackUrls ∧
        ∀ url ∈ settings.callbackUrls, Admitted url ∧ (EndsThere url → StaysSafe url)) ∧
    ∀ before url after, settings.callbackUrls = before ++ url :: after →
      (∀ other ∈ before, Admitted other) → ¬ Admitted url →
      s.run (declare id pool settings) = (.error (.invalidProps id
        s!"callback URL '{url}' must use https unless it is localhost"), s) := by
  constructor
  · intro client s' made
    obtain ⟨checked, -, rfl⟩ := declare_ok made
    refine ⟨resourceFor pool settings, ?_, texts_of_callbacks, fun url member => ?_⟩
    · rw [Stack.resource_insert, if_pos rfl]
    · have admitted := admitted_of_check checked url member
      exact ⟨admitted, admitted.safe⟩
  · intro before url after listed earlier refused
    rw [run_declare, check_of_first listed earlier refused]

/-- A client of a pool, for users that are sent back to some addresses. -/
theorem returning_made {urls : List String} (given : urls ≠ [])
    (safe : ∀ url ∈ urls, isSafeUrl url = true) : ∃ pool s client s',
      blank.run (UserPool.declare "Pool" {}) = (.ok pool, s) ∧
      s.run (declare "Client" pool { callbackUrls := urls }) = (.ok client, s') := by
  have checked : check "Client" { callbackUrls := urls } = .ok () :=
    (check_ok_iff rfl).mpr ⟨fun _ => given, safe⟩
  have vacant : blank.Vacant [["Pool", "Resource"], ["Client", "Resource"]] :=
    Stack.vacant_of_readable rfl (by decide) fun _ => rfl
  obtain ⟨poolId, pool_made, vacant⟩ := vacant.declare (UserPool.resourceFor {})
  let pool : UserPool := { path := ["Pool"], logicalId := poolId }
  obtain ⟨clientId, client_made, -⟩ := vacant.declare (resourceFor pool { callbackUrls := urls })
  exact ⟨pool, _, _, _, Stack.run_after pool_made _, run_checked checked client_made⟩

theorem returned_to_own_host : ∃ pool s client s' r,
    blank.run (UserPool.declare "Pool" {}) = (.ok pool, s) ∧
    s.run (declare "Client" pool
      { callbackUrls := ["https://app.example/cb", "http://localhost:3000/cb"] }) =
        (.ok client, s') ∧
    s'.resource? client.logicalId = some r ∧
    (∀ url ∈ Audit.textsOf r "CallbackURLs", StaysSafe url) ∧
    s.run (declare "Other" pool { callbackUrls := ["http://app.example/cb"] }) =
      (.error (.invalidProps "Other"
        "callback URL 'http://app.example/cb' must use https unless it is localhost"), s) := by
  obtain ⟨pool, s, client, s', pool_made, client_made⟩ := returning_made
    (List.cons_ne_nil "https://app.example/cb" ["http://localhost:3000/cb"]) (by decide)
  obtain ⟨r, there, listed, kept⟩ := (callbacks_checked s "Client" pool _).1 client s' client_made
  refine ⟨pool, s, client, s', r, pool_made, client_made, there, fun url member => ?_, ?_⟩
  · rw [listed] at member
    refine (kept url member).2 fun c rest same => ?_
    simp only [List.mem_cons, List.not_mem_nil, or_false] at member
    rcases member with rfl | rfl
    · exact absurd (same ▸ List.prefix_append _ _ : scheme ++ ownHost <+: _) (by decide)
    · have port : "http://localhost:3000/cb".toList =
          scheme ++ ownHost ++ ':' :: "3000/cb".toList := by decide
      rw [port, List.append_cancel_left_eq] at same
      cases same
      decide
  · exact (callbacks_checked s "Other" pool { callbackUrls := ["http://app.example/cb"] }).2
      [] _ [] rfl (List.forall_mem_nil _) (mt admitted_iff.mp (by decide))

/-- A host whose name begins with that of the machine, and tokens are sent to it in clear. -/
theorem lookalike_host_accepted : ∃ pool s client s' r,
    blank.run (UserPool.declare "Pool" {}) = (.ok pool, s) ∧
    s.run (declare "Client" pool { callbackUrls := ["http://localhost.evil.example/cb"] }) =
        (.ok client, s') ∧
    s'.resource? client.logicalId = some r ∧
    ∃ url ∈ Audit.textsOf r "CallbackURLs", HasHost url "localhost.evil.example".toList ∧
      ¬ StaysSafe url := by
  obtain ⟨pool, s, client, s', pool_made, client_made⟩ := returning_made
    (List.cons_ne_nil "http://localhost.evil.example/cb" []) (by decide)
  obtain ⟨-, -, rfl⟩ := declare_ok client_made
  have other : HasHost "http://localhost.evil.example/cb" "localhost.evil.example".toList :=
    ⟨"localhost.evil.example/cb".toList, by decide, by decide⟩
  refine ⟨pool, s, client, _,
    resourceFor pool { callbackUrls := ["http://localhost.evil.example/cb"] },
    pool_made, client_made, ?_, _, ?_, other, ?_⟩
  · rw [Stack.resource_insert, if_pos rfl]
  · rw [texts_of_callbacks]
    exact List.mem_cons_self
  · rintro (encrypted | own)
    · have in_clear : ¬ "https://".toList <+: "http://localhost.evil.example/cb".toList := by decide
      exact in_clear encrypted
    · exact absurd (host_unique own other) (by decide)

end SignInClient

end StackSynth
