import StackSynth.Compute.Function
import StackSynth.Data.Bucket
import StackSynth.Data.Table
import StackSynth.Proofs.Permissions.Policy

/-!
The record of what a role has been permitted, and its policy. The record holds no statements, so a
permission is given again or not by its kind and its target alone; the policy holds the statements
of what is on record, each once and in the order in which it was given.
-/
namespace StackSynth

/-- What a construct can let a role do. Images are all pulled from one repository. -/
inductive Permission
  | pull
  | write (group : LogGroup)
  | invoke (function : LambdaFunction)
  | readWriteData (table : Table)
  | readWrite (bucket : Bucket)

namespace Permission

/-- Asks for the permission; tells whether it is new. -/
def action (role : Role) : Permission → Declaring Bool
  | pull => ImageAsset.grantPull role
  | write g => g.grantWrite role
  | invoke f => f.grantInvoke role
  | readWriteData t => t.grantReadWrite role
  | readWrite b => b.grantReadWrite role

def kind : Permission → GrantKind
  | pull => .pull
  | write _ => .logWrite
  | invoke _ => .invoke
  | readWriteData _ => .readWriteData
  | readWrite _ => .readWrite

def target : Permission → String
  | pull => Bootstrap.repositoryPattern
  | write g => g.logicalId
  | invoke f => f.logicalId
  | readWriteData t => t.logicalId
  | readWrite b => b.logicalId

def statements : Permission → List PolicyStatement
  | pull => [
    { actions := ["ecr:BatchCheckLayerAvailability", "ecr:GetDownloadUrlForLayer",
        "ecr:BatchGetImage"]
      resources := [ImageAsset.repositoryArn] },
    { actions := ["ecr:GetAuthorizationToken"], resources := [.str "*"] }]
  | write g => [{ actions := ["logs:CreateLogStream", "logs:PutLogEvents"], resources := [g.arn] }]
  | invoke f => [{
      actions := ["lambda:InvokeFunction"]
      resources := [f.arn, .join "" [f.arn, .str ":*"]] }]
  | readWriteData t => [{
      actions := Table.readActions ++ Table.writeActions ++ ["dynamodb:DescribeTable"]
      resources := [t.arn] }]
  | readWrite b => [{
      actions := Bucket.readActions ++ Bucket.writeActions ++ Bucket.deleteActions
      resources := [b.arn, b.objectsArn "*"] }]

theorem action_eq (role : Role) (p : Permission) :
    p.action role = role.grant p.kind p.target p.statements := by
  cases p <;> rfl

theorem statements_ne_nil (p : Permission) : p.statements ≠ [] := by
  cases p <;> exact List.cons_ne_nil _ _

/-- What is put on record for a permission of a role. -/
def record (role : Role) (p : Permission) : Grant :=
  ⟨role.logicalId, p.kind, p.target, p.statements.flatMap (·.actions)⟩

/-- A permission on record is not given again. -/
theorem run_action (role : Role) (p : Permission) (s : Stack) :
    s.run (p.action role) =
      if p.record role ∈ s.grants then (.ok false, s)
      else
        let (outcome, s') := Stack.run { s with grants := s.grants ++ [p.record role] }
          (p.statements.forM role.addToPolicy)
        (outcome.map fun _ => true, s') := by
  rw [p.action_eq]
  exact role.run_grant s p.kind p.target p.statements

/-- Permissions of one kind for one target. -/
def Same (p q : Permission) : Prop := p.kind = q.kind ∧ p.target = q.target

variable {p q : Permission}

theorem Same.trans {r : Permission} (first : p.Same q) (second : q.Same r) : p.Same r :=
  ⟨first.1.trans second.1, first.2.trans second.2⟩

/-- The kind fixes the actions. -/
theorem Same.actions (same : p.Same q) :
    p.statements.flatMap (·.actions) = q.statements.flatMap (·.actions) := by
  cases p <;> cases q <;> first | rfl | cases same.1

theorem record_eq_iff (role : Role) : p.record role = q.record role ↔ p.Same q := by
  refine ⟨fun equal => ?_, fun same => ?_⟩
  · injection equal with _ kinds targets _
    exact ⟨kinds, targets⟩
  · simp only [record, same.1, same.2, same.actions]

end Permission

/-- What has been newly permitted in a list of calls, by their answers. -/
def newlyPermitted (calls : List Permission) (answers : List Bool) : List Permission :=
  ((calls.zip answers).filter (·.2)).map (·.1)

/-- What a role without a policy or grants has got in a stack since it was `s`: the record lists the
permissions, one policy holds their statements, and all the rest is as it was. -/
structure Ledger (role : Role) (s : Stack) (permitted : List Permission) (s' : Stack) : Prop where
  /-- The permissions are on record, in order. -/
  recorded : s'.grantsFor role.logicalId = permitted.map (·.record role)
  /-- Nothing else is new on record. -/
  grants : s'.grants = s.grants ++ permitted.map (·.record role)
  /-- Without a permission there is no policy, and nothing is declared. -/
  unpermitted : permitted = [] → role.defaultPolicy? s' = none ∧ s'.declared = s.declared
  /-- The policy stands behind what was declared before, and all of that is unchanged. -/
  policy : permitted ≠ [] → ∃ id, role.defaultPolicy? s' = some id ∧
    s'.declared.entries = s.declared.entries ++
      [(id, ⟨role.policyPath, role.policyWith id (permitted.flatMap (·.statements))⟩)]
  rest : s' = { s with declared := s'.declared, grants := s'.grants }

/-- What a ledger says, as the stack that a role without a policy leaves behind. -/
inductive Noted (role : Role) (s : Stack) : List Permission → Stack → Prop
  | nothing : Noted role s [] s
  | permitted {id : String} {given : List Permission}
    (named : LogicalId.ofPath role.policyPath = .ok id)
    (free : s.isTaken id = false) (some : given ≠ []) :
    Noted role s given
      (Stack.insert { s with grants := s.grants ++ given.map (·.record role) } id role.policyPath
        (role.policyWith id (given.flatMap (·.statements))))

section Step

variable {role : Role} {s s₁ s₂ s' : Stack} {given : List Permission} {p : Permission}
  {answer : Bool}

theorem Noted.grants (noted : Noted role s given s₁) :
    s₁.grants = s.grants ++ given.map (·.record role) := by
  cases noted with
  | nothing => exact (List.append_nil _).symm
  | permitted named free some => rfl

theorem Noted.recorded_iff (noted : Noted role s given s₁)
    (unrecorded : s.grantsFor role.logicalId = []) (p : Permission) :
    p.record role ∈ s₁.grants ↔ ∃ q ∈ given, q.Same p := by
  have old : p.record role ∉ s.grants := by
    intro member
    have listed : p.record role ∈ s.grantsFor role.logicalId :=
      List.mem_filter.mpr ⟨member, beq_self_eq_true _⟩
    rw [unrecorded] at listed
    cases listed
  simp only [noted.grants, List.mem_append, old, false_or, List.mem_map,
    Permission.record_eq_iff]

/-- The statements of a new permission go to the policy; the first ones bring it about. -/
theorem Noted.run_new (noted : Noted role s given s₁) (bare : role.defaultPolicy? s = none)
    (added : Stack.run { s₁ with grants := s₁.grants ++ [p.record role] }
      (p.statements.forM role.addToPolicy) = (.ok (), s₂)) :
    Noted role s (given ++ [p]) s₂ := by
  have grown : given ++ [p] ≠ [] := List.append_ne_nil_of_right_ne_nil _ (List.cons_ne_nil _ _)
  cases noted with
  | nothing =>
    obtain ⟨id, named, free⟩ := Role.named_of_all_added
      (s := { s with grants := s.grants ++ [p.record role] }) bare p.statements_ne_nil (by rw [added])
    rw [Role.run_first_statements named free p.statements_ne_nil] at added
    cases added
    have first : Noted role s [p] _ := .permitted named free (List.cons_ne_nil _ _)
    simpa using first
  | permitted named free some =>
    have fresh := (Stack.free_iff.mp free).1
    have next := Role.run_next_statements
      (s := { s with grants := s.grants ++ (given ++ [p]).map (·.record role) }) named fresh
      p.statements (given.flatMap (·.statements))
    have same := added.symm.trans (Eq.trans (by simp [Stack.insert]) next)
    cases same
    simpa using Noted.permitted named free grown

/-- A call is answered by what is on record, and what is new is noted. -/
theorem Noted.step (noted : Noted role s given s₁) (bare : role.defaultPolicy? s = none)
    (unrecorded : s.grantsFor role.logicalId = [])
    (called : s₁.run (p.action role) = (.ok answer, s₂)) :
    (answer = true ↔ ∀ q ∈ given, ¬ q.Same p) ∧
      Noted role s (if answer then given ++ [p] else given) s₂ := by
  rw [p.run_action] at called
  have listed := noted.recorded_iff unrecorded p
  by_cases known : p.record role ∈ s₁.grants
  · rw [if_pos known] at called
    cases called
    obtain ⟨q, member, same⟩ := listed.mp known
    exact ⟨iff_of_false Bool.false_ne_true fun none => none q member same, noted⟩
  · rw [if_neg known] at called
    rcases added : Stack.run { s₁ with grants := s₁.grants ++ [p.record role] }
        (p.statements.forM role.addToPolicy) with ⟨failure | done, s₃⟩
    all_goals rw [added] at called
    all_goals cases called
    refine ⟨iff_of_true rfl fun q member same => known (listed.mpr ⟨q, member, same⟩), ?_⟩
    exact noted.run_new bare added

theorem Noted.ledger (noted : Noted role s given s') (bare : role.defaultPolicy? s = none)
    (unrecorded : s.grantsFor role.logicalId = []) : Ledger role s given s' := by
  have grants := noted.grants
  have recorded : s'.grantsFor role.logicalId = given.map (·.record role) := by
    have all : (given.map (·.record role)).filter (·.grantee == role.logicalId) =
        given.map (·.record role) := by
      simp [List.filter_eq_self, Permission.record]
    rw [Stack.grantsFor] at unrecorded ⊢
    rw [grants, List.filter_append, unrecorded, all, List.nil_append]
  cases noted with
  | nothing => exact ⟨recorded, grants, fun _ => ⟨bare, rfl⟩, absurd rfl, rfl⟩
  | @permitted id _ named free some =>
    have fresh := (Stack.free_iff.mp free).1
    refine ⟨recorded, grants, fun none => absurd none some, fun _ => ⟨id, ?_, ?_⟩, rfl⟩
    · have there := (Stack.at_insert { s with grants := s.grants ++ given.map (·.record role) } id
        role.policyPath (role.policyWith id (given.flatMap (·.statements)))).contains
      simp only [Role.defaultPolicy?, named, there, if_true]
    · exact OrderedMap.entries_insert fresh _

end Step

section Run

variable {role : Role} {s s₁ s' : Stack} {given calls : List Permission} {answers : List Bool}

/-- By induction on the calls: what is on record is what was new in the calls so far. -/
theorem Noted.run (noted : Noted role s given s₁) (bare : role.defaultPolicy? s = none)
    (unrecorded : s.grantsFor role.logicalId = [])
    (called : s₁.run (calls.mapM (·.action role)) = (.ok answers, s')) :
    answers.length = calls.length ∧
      (∀ i p, calls[i]? = some p →
        (answers[i]? = some true ↔ ∀ q ∈ given ++ calls.take i, ¬ q.Same p)) ∧
      Noted role s (given ++ newlyPermitted calls answers) s' := by
  induction calls generalizing given s₁ answers with
  | nil =>
    cases called
    refine ⟨rfl, fun i p listed => by simp at listed, ?_⟩
    rwa [newlyPermitted, List.zip_nil_left, List.filter_nil, List.map_nil, List.append_nil]
  | cons first rest ih =>
    rw [List.mapM_cons] at called
    obtain ⟨answer, s₂, answered, called⟩ := run_bind_ok called
    obtain ⟨more, s₃, others, called⟩ := run_bind_ok called
    cases called
    obtain ⟨new_iff, noted⟩ := noted.step bare unrecorded answered
    obtain ⟨lengths, each, noted⟩ := ih noted others
    refine ⟨by simp [lengths], fun i p listed => ?_, ?_⟩
    · cases i with
      | zero =>
        cases listed
        simpa using new_iff
      | succ i =>
        rw [List.getElem?_cons_succ] at listed ⊢
        rw [each i p listed, List.take_succ_cons]
        -- a call that was not new is the same as one that was
        cases answer with
        | true => simp
        | false =>
          obtain ⟨old, old_given, old_same⟩ : ∃ q ∈ given, q.Same first := by
            by_contra none
            exact Bool.false_ne_true (new_iff.mpr fun q member same => none ⟨q, member, same⟩)
          simp only [Bool.false_eq_true, if_false, List.mem_append, List.mem_cons]
          refine ⟨fun apart q member same => ?_, fun apart q member => apart q (by tauto)⟩
          rcases member with before | rfl | later
          · exact apart q (.inl before) same
          · exact apart old (.inl old_given) (old_same.trans same)
          · exact apart q (.inr later) same
    · cases answer with
      | true => simpa [newlyPermitted] using noted
      | false => simpa [newlyPermitted] using noted

/-- Calls that all succeed on behalf of a role that has nothing yet. A call is answered by whether
it asks for something new, and the policy keeps in step with the record. -/
theorem Permission.answered_in_step (bare : role.defaultPolicy? s = none)
    (unrecorded : s.grantsFor role.logicalId = [])
    (called : s.run (calls.mapM (·.action role)) = (.ok answers, s')) :
    answers.length = calls.length ∧
      (∀ i p, calls[i]? = some p →
        (answers[i]? = some true ↔ ∀ q ∈ calls.take i, ¬ q.Same p)) ∧
      Ledger role s (newlyPermitted calls answers) s' := by
  obtain ⟨lengths, each, noted⟩ := Noted.nothing.run bare unrecorded called
  simp only [List.nil_append] at each noted
  exact ⟨lengths, each, noted.ledger bare unrecorded⟩

/-- A role and what is asked for on its behalf: a table, images, the table again, another table. -/
def repeatedTable : Declaring (Role × List Permission) := do
  let role ← Role.declare [] "Role" { service := "lambda.amazonaws.com" }
  let table ← Table.declare "Table" { partitionKey := ⟨"id", .string⟩ }
  let other ← Table.declare "Other" { partitionKey := ⟨"id", .string⟩ }
  return (role, [.readWriteData table, .pull, .readWriteData table, .readWriteData other])

theorem Permission.repeated_table_answered :
    ∃ s s' role calls, role.defaultPolicy? s = none ∧ s.grantsFor role.logicalId = [] ∧
      s.run (calls.mapM (·.action role)) = (.ok [true, true, false, true], s') ∧
      Ledger role s (newlyPermitted calls [true, true, false, true]) s' := by
  let start : Stack := { name := "Test", environment := ⟨"123456789012", "us-east-1"⟩ }
  rcases made : start.run repeatedTable with ⟨failure | ⟨role, calls⟩, s⟩
  · have succeeds : (start.run repeatedTable).1.isOk = true := by decide +kernel
    rw [made] at succeeds
    cases succeeds
  · have answers : (start.run (repeatedTable >>= fun (role, calls) => do
        let s ← get
        let answers ← calls.mapM (·.action role)
        return (role.defaultPolicy? s, s.grantsFor role.logicalId, answers))).1.toOption =
          some (none, [], [true, true, false, true]) := by decide +kernel
    rw [Stack.run_bind, made] at answers
    simp only [Stack.run_bind, Stack.run_get] at answers
    rcases called : s.run (calls.mapM (·.action role)) with ⟨failure | given, s'⟩
    · rw [called] at answers
      cases answers
    · rw [called] at answers
      obtain ⟨bare, rest⟩ := Prod.mk.inj (Option.some.inj answers)
      obtain ⟨unrecorded, rfl⟩ := Prod.mk.inj rest
      exact ⟨s, s', role, calls, bare, unrecorded, called,
        (answered_in_step bare unrecorded called).2.2⟩

end Run

end StackSynth
