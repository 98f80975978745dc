import StackSynth.Proofs.Constructs.Amended
import StackSynth.Proofs.Constructs.Composed
import StackSynth.Proofs.Stack.Names
import StackSynth.Proofs.Stack.Reached

/-!
What a grant on record is worth. A grant is put on record before its statements go to the policy of
the role, so that it stays there when the policy takes no statements: when an output or a resource
without a list of them has the id of the policy. Otherwise the policy has all the statements of each
grant on record, from then on.
-/
namespace StackSynth

/-- The statements of a policy, if it has a list of them. -/
def Resource.statements? (policy : Resource) : Option (List Json) :=
  ((policy.property? "PolicyDocument").bind (·.field? "Statement")).bind Json.asArr?

namespace Role

variable {role : Role} {s s' : Stack} {statement : PolicyStatement}

/-- The statements that a role has in its policy, or could have in one that is still to come; none
at all where its policy takes no statements. -/
def statements? (role : Role) (s : Stack) : Option (List Json) :=
  match LogicalId.ofPath role.policyPath with
  | .error _ => none
  | .ok id =>
    match s.resource? id with
    | some policy => policy.statements?
    | none => if s.outputs.contains id then none else some []

/-- The policy takes a statement at the end of its list, or has no list. -/
theorem with_statement_cases (policy : Resource) (statement : PolicyStatement) :
    (policy.statements? = none ∧ withStatement? policy statement = none) ∨
    ∃ listed grown, policy.statements? = some listed ∧
      withStatement? policy statement = some grown ∧
      grown.statements? = some (listed ++ [statement.toJson]) := by
  unfold Resource.statements? withStatement?
  cases property : policy.property? "PolicyDocument" with
  | none => exact .inl ⟨rfl, rfl⟩
  | some document =>
    cases document with
    | obj fields =>
      cases found : Fields.get? "Statement" fields with
      | none => exact .inl (by simp [Json.field?, found])
      | some list =>
        cases list with
        | arr listed =>
          let grown := policy.withProperty "PolicyDocument"
            (.obj (Fields.insert "Statement" (.arr (listed ++ [statement.toJson])) fields))
          refine .inr ⟨listed, grown, by simp [Json.field?, found, Json.asArr?], ?_, ?_⟩
          · simp only [found]
            rfl
          · simp [grown, Json.field?, Json.asArr?]
        | _ => exact .inl (by simp [Json.field?, found, Json.asArr?])
    | _ => exact .inl ⟨rfl, rfl⟩

/-- A statement is taken up at the end, or nothing changes. -/
theorem run_permit (role : Role) (s : Stack) (statement : PolicyStatement) :
    (role.statements? s = none ∧
      ∃ failure, s.run (role.addToPolicy statement) = (.error failure, s)) ∨
    ∃ listed s', role.statements? s = some listed ∧
      s.run (role.addToPolicy statement) = (.ok (), s') ∧ s'.grants = s.grants ∧
      role.statements? s' = some (listed ++ [statement.toJson]) := by
  unfold statements?
  rw [run_add_to_policy, run_ensure_policy]
  cases named : LogicalId.ofPath role.policyPath with
  | error failure => exact .inl ⟨rfl, failure, rfl⟩
  | ok id =>
    dsimp only
    cases there : s.resource? id with
    | some policy =>
      simp only [Stack.contains_of_resource there, if_true, there]
      rcases with_statement_cases policy statement with
        ⟨none, refused⟩ | ⟨listed, grown, some, taken, more⟩
      · exact .inl ⟨none, _, by rw [refused]⟩
      · refine .inr ⟨listed, s.modify id fun _ => grown, some, by rw [taken], rfl, ?_⟩
        rw [Stack.resource_modify, there]
        simpa using more
    | none =>
      have fresh : s.contains id = false := Stack.resource_none_iff.mp there
      simp only [fresh, Bool.false_eq_true, if_false, Stack.isTaken, Bool.false_or]
      by_cases output : s.outputs.contains id = true
      · exact .inl ⟨if_pos output, _, by rw [if_pos output]⟩
      · have inserted : (s.insert id role.policyPath (role.policyWith id [])).resource? id =
            some (role.policyWith id []) := by rw [Stack.resource_insert, if_pos rfl]
        refine .inr ⟨[], s.insert id role.policyPath (role.policyWith id [statement]),
          if_neg output, ?_, rfl, ?_⟩
        · simp only [if_neg output, inserted, with_statement_policy, List.nil_append,
            Stack.modify_insert fresh]
        · rw [Stack.resource_insert, if_pos rfl]
          rfl

/-- By induction on the statements: only the first one can be refused. -/
theorem run_permits (role : Role) {listed : List Json} (opened : role.statements? s = some listed)
    (statements : List PolicyStatement) :
    ∃ s', s.run (statements.forM role.addToPolicy) = (.ok (), s') ∧ s'.grants = s.grants ∧
      role.statements? s' = some (listed ++ statements.map PolicyStatement.toJson) := by
  induction statements generalizing s listed with
  | nil => exact ⟨s, rfl, rfl, by rw [opened, List.map_nil, List.append_nil]⟩
  | cons statement rest ih =>
    rcases run_permit role s statement with ⟨none, _⟩ | ⟨listed', s₁, same, ran, grants, taken⟩
    · rw [opened] at none
      cases none
    · cases opened.symm.trans same
      obtain ⟨s', ran', grants', all⟩ := ih taken
      refine ⟨s', ?_, grants'.trans grants, ?_⟩
      · change s.run (role.addToPolicy statement >>= fun _ => rest.forM role.addToPolicy) = _
        rw [Stack.run_bind, ran]
        exact ran'
      · rw [all, List.append_assoc]
        rfl

theorem run_permits_barred (barred : role.statements? s = none)
    {statements : List PolicyStatement} (some : statements ≠ []) :
    ∃ failure, s.run (statements.forM role.addToPolicy) = (.error failure, s) := by
  obtain ⟨statement, rest, rfl⟩ := List.exists_cons_of_ne_nil some
  rcases run_permit role s statement with ⟨_, failure, ran⟩ | ⟨_, _, opened, _⟩
  · refine ⟨failure, ?_⟩
    change s.run (role.addToPolicy statement >>= fun _ => rest.forM role.addToPolicy) = _
    rw [Stack.run_bind, ran]
  · rw [barred] at opened
    cases opened

/-- What is put on record for a grant. -/
def record (role : Role) (kind : GrantKind) (target : String)
    (statements : List PolicyStatement) : Grant :=
  ⟨role.logicalId, kind, target, statements.flatMap (·.actions)⟩

/-- The statements are in the policy of the role, next to one another. -/
def Holds (role : Role) (s : Stack) (statements : List PolicyStatement) : Prop :=
  statements = [] ∨ ∃ listed, role.statements? s = some listed ∧
    statements.map PolicyStatement.toJson <:+: listed

/-- What comes of a grant, with the stack that it leaves behind. -/
inductive Granting (role : Role) (g : Grant) (statements : List PolicyStatement) (s : Stack) :
    Outcome Bool × Stack → Prop
  | repeated (recorded : g ∈ s.grants) : Granting role g statements s (.ok false, s)
  | given {s' : Stack} (new : g ∉ s.grants)
      (takes : statements = [] ∨ role.statements? s ≠ none)
      (recorded : s'.grants = s.grants ++ [g]) (holds : role.Holds s' statements) :
      Granting role g statements s (.ok true, s')
  /-- The policy takes no statements; the grant is on record all the same. -/
  | refused {failure : Failure} (new : g ∉ s.grants) (some : statements ≠ [])
      (barred : role.statements? s = none) :
      Granting role g statements s (.error failure, { s with grants := s.grants ++ [g] })

theorem run_grant_cases (role : Role) (kind : GrantKind) (target : String)
    (statements : List PolicyStatement) (s : Stack) :
    Granting role (role.record kind target statements) statements s
      (s.run (role.grant kind target statements)) := by
  rw [role.run_grant]
  dsimp only
  by_cases known : (⟨role.logicalId, kind, target, statements.flatMap (·.actions)⟩ : Grant) ∈
      s.grants
  · rw [if_pos known]
    exact .repeated known
  rw [if_neg known]
  let recorded : Stack := { s with grants := s.grants ++ [role.record kind target statements] }
  change Granting _ _ _ _ ((recorded.run (statements.forM role.addToPolicy)).1.map fun _ => true,
    (recorded.run (statements.forM role.addToPolicy)).2)
  cases opened : role.statements? recorded with
  | some listed =>
    obtain ⟨s', ran, grants, all⟩ := run_permits role opened statements
    have takes : role.statements? s ≠ none := Option.ne_none_iff_exists'.mpr ⟨listed, opened⟩
    rw [ran]
    exact .given known (.inr takes) grants (.inr ⟨_, all, (List.suffix_append _ _).isInfix⟩)
  | none =>
    by_cases empty : statements = []
    · subst empty
      exact .given known (.inl rfl) rfl (.inl rfl)
    · obtain ⟨failure, ran⟩ := run_permits_barred opened empty
      rw [ran]
      exact .refused known empty opened

end Role

/-! What later deeds leave of it. -/

/-- The call leaves the documents of policies alone. -/
def StackCall.SparesPolicies : StackCall → Prop
  | edit _ f => ∀ r, (f r).property? "PolicyDocument" = r.property? "PolicyDocument"
  | pushProperty _ key _ => key ≠ "PolicyDocument"
  | _ => True

/-- Policies change by statements and grants only. -/
def Deed.SparesPolicies : Deed → Prop
  | call c => c.SparesPolicies
  | _ => True

/-- The statements are still there, possibly with more after them; where there is no list, there is
still none. -/
def Resource.GrowsTo (r r' : Resource) : Prop :=
  (r.statements? = none ∧ r'.statements? = none) ∨
    ∃ listed more, r.statements? = some listed ∧ r'.statements? = some (listed ++ more)

namespace Resource

theorem grows_of_same {r r' : Resource} (same : r'.statements? = r.statements?) :
    r.GrowsTo r' := by
  cases own : r.statements? with
  | none => exact .inl ⟨own, same.trans own⟩
  | some listed =>
    exact .inr ⟨listed, [], own, by rw [same, own, List.append_nil]⟩

theorem grows_of_document {r r' : Resource}
    (same : r'.property? "PolicyDocument" = r.property? "PolicyDocument") : r.GrowsTo r' :=
  grows_of_same (by rw [statements?, statements?, same])

theorem grows_refl (r : Resource) : r.GrowsTo r := grows_of_same rfl

theorem grows_trans (r₁ r₂ r₃ : Resource) (first : r₁.GrowsTo r₂) (second : r₂.GrowsTo r₃) :
    r₁.GrowsTo r₃ := by
  rcases first with ⟨none, none'⟩ | ⟨listed, more, own, grown⟩
  · rcases second with ⟨_, last⟩ | ⟨_, _, some, _⟩
    · exact .inl ⟨none, last⟩
    · cases none'.symm.trans some
  · rcases second with ⟨none, _⟩ | ⟨listed', more', same, last⟩
    · cases grown.symm.trans none
    · cases grown.symm.trans same
      exact .inr ⟨listed, more ++ more', own, by rw [last, List.append_assoc]⟩

theorem grows_with_property (r : Resource) {key : String} (other : key ≠ "PolicyDocument")
    (value : Json) : r.GrowsTo (r.withProperty key value) :=
  grows_of_document (by rw [property_with_property, if_neg other])

theorem grows_push_property (r : Resource) {key : String} (other : key ≠ "PolicyDocument")
    (value : Json) : r.GrowsTo (r.pushProperty key value) := by
  rw [pushProperty]
  split
  · exact r.grows_with_property other _
  · exact r.grows_with_property other _

theorem grows_with_statement {policy grown : Resource} {statement : PolicyStatement}
    (taken : Role.withStatement? policy statement = some grown) : policy.GrowsTo grown := by
  rcases Role.with_statement_cases policy statement with ⟨_, refused⟩ | ⟨listed, _, own, same, more⟩
  · cases refused.symm.trans taken
  · cases same.symm.trans taken
    exact .inr ⟨listed, _, own, more⟩

end Resource

theorem Deed.IsOrdinary.spares_policies {d : Deed} (ordinary : d.IsOrdinary) :
    d.SparesPolicies := by
  cases d with
  | call c =>
    cases c with
    | pushProperty id key value =>
      have apart : "PolicyDocument" ∉ pushedKeys := by decide
      rintro rfl
      exact apart ordinary
    | edit id f => exact ordinary.elim
    | _ => trivial
  | _ => trivial

theorem Deed.IsOrdinary.records_nothing {d : Deed} (ordinary : d.IsOrdinary) (g : Grant) :
    d ≠ .call (.recordGrant g) := by
  rintro rfl
  exact ordinary

theorem Deed.SparesPolicies.amends {d : Deed} (spares : d.SparesPolicies) :
    d.Amends Resource.GrowsTo := by
  cases d with
  | call c =>
    cases c with
    | edit id f =>
      intro r
      exact Resource.grows_of_document (spares r)
    | pushProperty id key value =>
      intro r
      exact r.grows_push_property spares value
    | _ => trivial
  | permit role statement =>
    intro policy statement grown taken
    exact Resource.grows_with_statement taken
  | grant role kind target statements =>
    intro policy statement grown taken
    exact Resource.grows_with_statement taken
  | append container key items =>
    intro r fields found
    exact r.grows_with_property (by decide) _

namespace Stack

theorem follow_all_calls (s : Stack) (deeds : List Deed) :
    ∃ calls, s.followAll deeds = s.afterAll calls := by
  induction deeds generalizing s with
  | nil => exact ⟨[], rfl⟩
  | cons d rest ih =>
    obtain ⟨calls, -, own⟩ := d.made_of_calls s
    obtain ⟨more, others⟩ := ih (s.follow d)
    refine ⟨calls ++ more, ?_⟩
    have first : s.follow d = s.afterAll calls := own
    change (s.follow d).followAll rest = _
    rw [others, first, afterAll, afterAll, afterAll, List.foldl_append]

theorem consistent_follow_all {s : Stack} (consistent : s.Consistent) (deeds : List Deed) :
    (s.followAll deeds).Consistent := by
  obtain ⟨calls, same⟩ := s.follow_all_calls deeds
  rw [same]
  exact consistent_after_all consistent calls

/-- An output stays, and its id stays free of resources. -/
theorem output_follow_all {s : Stack} (consistent : s.Consistent) (deeds : List Deed) {id : String}
    (output : s.outputs.contains id = true) :
    (s.followAll deeds).outputs.contains id = true ∧
      (s.followAll deeds).resource? id = none := by
  obtain ⟨calls, same⟩ := s.follow_all_calls deeds
  have kept : (s.followAll deeds).outputs.contains id = true := by
    rw [same]
    have part := OrderedMap.keys_prefix (extends_after_all s calls).outputs
    exact (OrderedMap.contains_iff _ _).mpr (part.subset ((OrderedMap.contains_iff _ _).mp output))
  refine ⟨kept, ?_⟩
  by_contra there
  obtain ⟨r, there⟩ := Option.ne_none_iff_exists'.mp there
  have known := (contains_resources _ id).trans (contains_of_resource there)
  have apart := (consistent_follow_all consistent deeds).apart id known
  rw [kept] at apart
  cases apart

theorem grants_after (call : StackCall) (s : Stack) :
    (s.after call).grants = s.grants ∨
      ∃ g, call = .recordGrant g ∧ (s.after call).grants = s.grants ++ [g] := by
  have edited : ∀ id f, (s.run (edit id f)).2.grants = s.grants := by
    intro id f
    rw [run_edit]
    split <;> rfl
  have waited : ∀ dependent path, (s.run (waitForPath dependent path)).2.grants = s.grants := by
    intro dependent path
    rw [waitForPath, run_modifyGet]
    dsimp only
    split <;> rfl
  cases call with
  | edit id f => exact .inl (edited id f)
  | pushProperty id key value => exact .inl (edited id _)
  | waitFor dependent dependency => exact .inl (waited dependent.logicalId dependency.path)
  | waitForPath dependent path => exact .inl (waited dependent path)
  | recordGrant g =>
    rw [after, StackCall.action, run_map, recordGrant, run_modifyGet]
    dsimp only
    split
    · exact .inl rfl
    · exact .inr ⟨g, rfl, rfl⟩
  | declare path r =>
    left
    rw [after, StackCall.action, run_map, run_declare]
    cases LogicalId.ofPath path with
    | error e => rfl
    | ok id =>
      dsimp only
      split <;> rfl
  | addAsset source =>
    left
    rw [after, StackCall.action, addAsset, run_modifyGet]
    dsimp only
    split <;> rfl
  | addOutput id value description =>
    left
    rw [after, StackCall.action, run_add_output]
    split <;> rfl
  | setDescription text => exact .inl rfl

end Stack

namespace Role

variable {role : Role} {s s' : Stack} {statements : List PolicyStatement}

/-- A policy that takes no statements never takes any. -/
theorem barred_follow_all (consistent : s.Consistent) {deeds : List Deed}
    (spare : ∀ d ∈ deeds, d.SparesPolicies) (barred : role.statements? s = none) :
    role.statements? (s.followAll deeds) = none := by
  unfold statements? at barred ⊢
  cases named : LogicalId.ofPath role.policyPath with
  | error failure => rfl
  | ok id =>
    simp only [named] at barred ⊢
    cases there : s.resource? id with
    | some policy =>
      simp only [there] at barred
      have amends := amends_follow_all Resource.grows_refl Resource.grows_trans
        (fun d member => (spare d member).amends) s
      obtain ⟨policy', there', grows⟩ := amends id policy there
      rcases grows with ⟨_, none⟩ | ⟨listed, _, some, _⟩
      · simp only [there', none]
      · cases barred.symm.trans some
    | none =>
      simp only [there] at barred
      have output : s.outputs.contains id = true := by
        by_contra free
        rw [if_neg free] at barred
        cases barred
      obtain ⟨kept, none⟩ := Stack.output_follow_all consistent deeds output
      simp only [none, kept, if_true]

/-- What a policy has it keeps. -/
theorem Holds.follow_all {deeds : List Deed} (spare : ∀ d ∈ deeds, d.SparesPolicies)
    (holds : role.Holds s statements) : role.Holds (s.followAll deeds) statements := by
  rcases holds with empty | ⟨listed, own, inside⟩
  · exact .inl empty
  by_cases none : listed = []
  · rw [none, List.infix_nil, List.map_eq_nil_iff] at inside
    exact .inl inside
  · right
    unfold statements? at own ⊢
    cases named : LogicalId.ofPath role.policyPath with
    | error failure =>
      simp only [named] at own
      cases own
    | ok id =>
      simp only [named] at own ⊢
      cases there : s.resource? id with
      | none =>
        -- a policy that is still to come has no statements
        simp only [there] at own
        split at own
        · cases own
        · cases own
          exact absurd rfl none
      | some policy =>
        simp only [there] at own
        have amends := amends_follow_all Resource.grows_refl Resource.grows_trans
          (fun d member => (spare d member).amends) s
        obtain ⟨policy', there', grows⟩ := amends id policy there
        rcases grows with ⟨refused, _⟩ | ⟨listed', more, same, grown⟩
        · cases own.symm.trans refused
        · cases own.symm.trans same
          refine ⟨listed ++ more, by simp only [there', grown], ?_⟩
          exact inside.trans (List.prefix_append listed more).isInfix

end Role

/-- The record stands for a grant among the deeds, whose statements the policy of the role has,
unless it takes none. -/
def Stands (deeds : List Deed) (s : Stack) (g : Grant) : Prop :=
  ∃ role kind target statements, Deed.grant role kind target statements ∈ deeds ∧
    g = Role.record role kind target statements ∧
    (Role.Holds role s statements ∨ Role.statements? role s = none)

/-- Where the record comes from. -/
def Accounted (deeds : List Deed) (s : Stack) (g : Grant) : Prop :=
  Deed.call (.recordGrant g) ∈ deeds ∨ Stands deeds s g

namespace Accounted

variable {s : Stack} {d : Deed} {deeds : List Deed} {g : Grant}

theorem cons (accounted : Accounted deeds s g) : Accounted (d :: deeds) s g := by
  rcases accounted with put | ⟨role, kind, target, statements, made, same, stands⟩
  · exact .inl (List.mem_cons_of_mem d put)
  · exact .inr ⟨role, kind, target, statements, List.mem_cons_of_mem d made, same, stands⟩

theorem follow_all (consistent : s.Consistent) (spare : ∀ d ∈ deeds, d.SparesPolicies)
    (accounted : Accounted [d] s g) : Accounted (d :: deeds) (s.followAll deeds) g := by
  rcases accounted with put | ⟨role, kind, target, statements, made, same, stands⟩
  · rw [List.mem_singleton] at put
    exact .inl (by simp [put])
  · rw [List.mem_singleton] at made
    refine .inr ⟨role, kind, target, statements, by simp [made], same, ?_⟩
    rcases stands with holds | barred
    · exact .inl (holds.follow_all spare)
    · exact .inr (Role.barred_follow_all consistent spare barred)

end Accounted

namespace Stack

theorem grants_follow (d : Deed) (s : Stack) {g : Grant} (recorded : g ∈ (s.follow d).grants) :
    g ∈ s.grants ∨ Accounted [d] (s.follow d) g := by
  cases d with
  | call c =>
    have same : s.follow (.call c) = s.after c := rfl
    rw [same] at recorded ⊢
    rcases grants_after c s with unchanged | ⟨g', rfl, longer⟩
    · left
      rwa [unchanged] at recorded
    · rw [longer, List.mem_append, List.mem_singleton] at recorded
      rcases recorded with old | rfl
      · exact .inl old
      · exact .inr (.inl (by simp))
  | permit role statement =>
    left
    rcases role.run_permit s statement with ⟨_, failure, ran⟩ | ⟨_, s', _, ran, grants, _⟩
    · rwa [follow, Deed.action, ran] at recorded
    · rwa [follow, Deed.action, ran, grants] at recorded
  | append container key items =>
    left
    rcases container.run_edit_entry (Container.appendIn key items) s with
      ⟨failure, ran⟩ | ⟨_, _, _, _, ran⟩
    · rwa [follow, Deed.action, ran] at recorded
    · rwa [follow, Deed.action, ran] at recorded
  | grant role kind target statements =>
    have ran : s.follow (.grant role kind target statements) =
        (s.run (role.grant kind target statements)).2 := by
      rw [follow, Deed.action, run_map]
    rw [ran] at recorded ⊢
    have granting := role.run_grant_cases kind target statements s
    generalize s.run (role.grant kind target statements) = result at granting recorded ⊢
    have stands {s' : Stack} (or : role.Holds s' statements ∨ role.statements? s' = none) :
        Stands [.grant role kind target statements] s' (role.record kind target statements) :=
      ⟨role, kind, target, statements, List.mem_singleton_self _, rfl, or⟩
    cases granting with
    | repeated known => exact .inl recorded
    | given new takes grants holds =>
      rw [grants, List.mem_append, List.mem_singleton] at recorded
      rcases recorded with old | rfl
      · exact .inl old
      · exact .inr (.inr (stands (.inl holds)))
    | refused new some barred =>
      rw [List.mem_append, List.mem_singleton] at recorded
      rcases recorded with old | rfl
      · exact .inl old
      · exact .inr (.inr (stands (.inr barred)))

/-- By induction on the deeds: what a grant came to is what it comes to in the end. -/
theorem grants_follow_all {s : Stack} (consistent : s.Consistent) {deeds : List Deed}
    (spare : ∀ d ∈ deeds, d.SparesPolicies) {g : Grant}
    (recorded : g ∈ (s.followAll deeds).grants) :
    g ∈ s.grants ∨ Accounted deeds (s.followAll deeds) g := by
  induction deeds generalizing s with
  | nil => exact .inl recorded
  | cons d rest ih =>
    obtain ⟨here, later⟩ := List.forall_mem_cons.mp spare
    have consistent' : (s.follow d).Consistent := consistent_follow_all consistent [d]
    rcases ih consistent' later recorded with earlier | accounted
    · rcases grants_follow d s earlier with old | accounted
      · exact .inl old
      · exact .inr (accounted.follow_all consistent' later)
    · exact .inr accounted.cons

/-- All operations come to statements, grants and calls that leave policies alone. After any run of
those, failed ones included, a grant on record has been put there as such, or the policy of its role
has all its statements, unless it takes none. A grant that fails leaves its record behind, and
nothing else, and it fails only where the policy takes no statements. -/
theorem grants_accounted {name : String} {environment : Environment} {start : Stack}
    (made : make name environment = .ok start) :
    (∀ op : Operation,
      DoneBy (fun d => d.SparesPolicies ∧ ∀ g, d ≠ .call (.recordGrant g)) op.action) ∧
    ∀ deeds : List Deed, (∀ d ∈ deeds, d.SparesPolicies) →
      let s := start.followAll deeds
      (∀ g ∈ s.grants, Accounted deeds s g) ∧
      ∀ (role : Role) (kind : GrantKind) (target : String) (statements : List PolicyStatement),
        role.Granting (role.record kind target statements) statements s
          (s.run (role.grant kind target statements)) := by
  constructor
  · intro op
    refine made_of_imp op.done_by_deeds ?_
    rintro d (ordinary | ⟨source, rfl⟩)
    · exact ⟨ordinary.spares_policies, ordinary.records_nothing⟩
    · exact ⟨trivial, by simp⟩
  · intro deeds spare s
    constructor
    · intro g recorded
      have none : start.grants = [] := by rw [make_ok made]
      rcases grants_follow_all (make_consistent made) spare recorded with old | accounted
      · rw [none] at old
        cases old
      · exact accounted
    · intro role kind target statements
      exact role.run_grant_cases kind target statements s

end Stack

/-! A role with and without a policy to give it a permission in. -/

def reader : Role where
  path := ["R"]
  logicalId := "RC21A1702"

def readStatement : PolicyStatement where
  actions := ["s3:GetObject"]
  resources := [.str "*"]

def declareReader : Deed :=
  .call (.declare ["R", "Resource"] (Role.resourceFor { service := "ecs-tasks.amazonaws.com" }))

def grantReading : Deed := .grant reader .readWrite "Data" [readStatement]

theorem reading_accounted :
    let s := blank.followAll [declareReader, grantReading]
    Stack.make "Test" ⟨"123456789012", "us-east-1"⟩ = .ok blank ∧
      s.grants = [reader.record .readWrite "Data" [readStatement]] ∧
      Accounted [declareReader, grantReading] s (reader.record .readWrite "Data" [readStatement]) ∧
      (reader.statements? s).map List.length = some 1 ∧
      (s.run (reader.grant .readWrite "Data" [readStatement])).1 = .ok false := by
  intro s
  have named : Stack.isName "Test" = true := by decide
  have started : Stack.make "Test" ⟨"123456789012", "us-east-1"⟩ = .ok blank := by
    rw [Stack.make, if_pos named]
    rfl
  have spare : ∀ d ∈ [declareReader, grantReading], d.SparesPolicies := by
    intro d listed
    rcases List.mem_pair.mp listed with rfl | rfl
    · trivial
    · trivial
  have recorded : s.grants = [reader.record .readWrite "Data" [readStatement]] := by
    decide +kernel
  obtain ⟨accounted, -⟩ := (Stack.grants_accounted started).2 _ spare
  refine ⟨started, recorded, accounted _ (by rw [recorded]; simp), ?_, ?_⟩
  · decide +kernel
  · decide +kernel

/-- An output has the id of the policy. The grant fails and is on record; asked for again, it counts
as given, though the role has no policy. -/
theorem refused_grant_recorded :
    let s := blank.followAll [declareReader,
      .call (.addOutput "RDefaultPolicy0707467B" (.str "x") none)]
    let grant := reader.grant .readWrite "Data" [readStatement]
    let s' := (s.run grant).2
    (s.run grant).1 = .error (.duplicateLogicalId "RDefaultPolicy0707467B") ∧
      s.grants = [] ∧ s'.grants = [reader.record .readWrite "Data" [readStatement]] ∧
      (s'.run grant).1 = .ok false ∧ reader.defaultPolicy? s' = none := by
  decide +kernel

end StackSynth
