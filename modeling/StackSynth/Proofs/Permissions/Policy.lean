import StackSynth.Permissions.Role
import StackSynth.Proofs.Stack.Calls

/-!
What statements do to the policy of a role. A role without a policy gets one that holds them; a
policy that is there keeps its statements and gets the new ones at their end.
-/
namespace StackSynth

namespace OrderedMap

variable {α : Type}

/-- What is changed right after it was put in might have been put in so. -/
theorem modify_insert {m : OrderedMap α} {key : String} (fresh : m.contains key = false)
    (value : α) (f : α → α) : (m.insert key value).modify key f = m.insert key (f value) := by
  have others : m.entries.map (fun entry => (entry.1, if entry.1 = key then f entry.2 else entry.2)) =
      m.entries := by
    conv_rhs => rw [← List.map_id m.entries]
    refine List.map_congr_left fun entry member => ?_
    have other : entry.1 ≠ key := by
      rintro rfl
      have known := (contains_iff m entry.1).mpr (List.mem_map_of_mem member)
      rw [fresh] at known
      cases known
    rw [if_neg other]
    rfl
  apply ext
  simp only [modify, mapValues, entries_insert fresh, List.map_append, others, List.map_cons,
    List.map_nil, if_true]

end OrderedMap

theorem Stack.modify_insert {s : Stack} {id : String} (free : s.contains id = false)
    (path : List String) (r : Resource) (f : Resource → Resource) :
    (s.insert id path r).modify id f = s.insert id path (f r) := by
  have same := OrderedMap.modify_insert (m := s.declared) free ⟨path, r⟩
    fun d => { d with resource := f d.resource }
  simp only [Stack.modify, Stack.insert, same]

namespace Role

open Stack

variable {role : Role} {s : Stack} {id : String} {statement : PolicyStatement}

/-- The policy of a role that allows what the statements say. -/
def policyWith (role : Role) (name : String) (statements : List PolicyStatement) : Resource := {
  type := "AWS::IAM::Policy"
  properties := [
    ("PolicyDocument", .obj [
      ("Statement", .arr (statements.map PolicyStatement.toJson)),
      ("Version", .str policyVersion)]),
    ("PolicyName", .str name),
    ("Roles", .arr [role.reference.toJson])] }

theorem policy_with_nothing (role : Role) (name : String) :
    role.emptyPolicy name = role.policyWith name [] := rfl

theorem with_statement_policy (role : Role) (name : String) (statements : List PolicyStatement)
    (statement : PolicyStatement) :
    withStatement? (role.policyWith name statements) statement =
      some (role.policyWith name (statements ++ [statement])) := by
  simp [withStatement?, policyWith, Resource.property?, Resource.withProperty, Fields.get?,
    Fields.insert]

theorem run_ensure_policy (role : Role) (s : Stack) :
    s.run role.ensurePolicy =
      match LogicalId.ofPath role.policyPath with
      | .error failure => (.error failure, s)
      | .ok id =>
        if s.contains id then (.ok id, s)
        else if s.isTaken id then (.error (.duplicateLogicalId id), s)
        else (.ok id, s.insert id role.policyPath (role.policyWith id [])) := by
  rw [ensurePolicy, run_bind, run_get]
  simp only [defaultPolicy?]
  cases named : LogicalId.ofPath role.policyPath with
  | error failure =>
    simp only [run_bind, run_lift]
  | ok id =>
    by_cases known : s.contains id = true
    · simp only [known, if_true]
      rfl
    · simp only [known, if_false, run_bind, run_lift, run_declare, named, policy_with_nothing,
        Bool.false_eq_true]

theorem run_add_to_policy (role : Role) (s : Stack) (statement : PolicyStatement) :
    s.run (role.addToPolicy statement) =
      match s.run role.ensurePolicy with
      | (.error failure, s') => (.error failure, s')
      | (.ok id, s') =>
        match s'.resource? id with
        | none => (.error (.resourceNotFound id), s')
        | some policy =>
          match withStatement? policy statement with
          | none => (.error (.internal s!"Policy '{id}' has no statement list"), s')
          | some grown => (.ok (), s'.modify id fun _ => grown) := by
  rw [addToPolicy, run_bind]
  rcases s.run role.ensurePolicy with ⟨failure | id, s'⟩
  · rfl
  · simp only [run_bind, run_get]
    cases found : s'.resource? id with
    | none => rfl
    | some policy =>
      have known : s'.contains id = true := contains_of_resource found
      cases grown : withStatement? policy statement with
      | none => simp only [grown]; rfl
      | some more => simp only [grown, run_edit, known, if_true]

theorem run_grant (role : Role) (s : Stack) (kind : GrantKind) (target : String)
    (statements : List PolicyStatement) :
    let grant : Grant := ⟨role.logicalId, kind, target, statements.flatMap (·.actions)⟩
    s.run (role.grant kind target statements) =
      if grant ∈ s.grants then (.ok false, s)
      else
        let (outcome, s') :=
          run { s with grants := s.grants ++ [grant] } (statements.forM role.addToPolicy)
        (outcome.map fun _ => true, s') := by
  intro grant
  rw [Role.grant, run_bind, recordGrant, run_modifyGet]
  by_cases known : grant ∈ s.grants
  · have listed : s.grants.contains grant = true := List.contains_iff_mem.mpr known
    simp only [grant] at listed known ⊢
    simp only [listed, known, if_true]
    rfl
  · have unlisted : s.grants.contains grant = false := by
      simpa using known
    simp only [grant] at unlisted known ⊢
    simp only [unlisted, known, if_false, Bool.false_eq_true, if_true, run_bind]
    rcases run { s with grants := s.grants ++ [grant] } (statements.forM role.addToPolicy) with
      ⟨failure | done, s'⟩
    all_goals rfl

/-! Statements for a role that has its own policy, or none yet. -/

/-- A statement that is taken up has found a policy, or a free id to declare one under. -/
theorem named_of_added (bare : role.defaultPolicy? s = none)
    (added : (s.run (role.addToPolicy statement)).1 = .ok ()) :
    ∃ id, LogicalId.ofPath role.policyPath = .ok id ∧ s.isTaken id = false := by
  rw [run_add_to_policy, run_ensure_policy] at added
  rw [defaultPolicy?] at bare
  cases named : LogicalId.ofPath role.policyPath with
  | error failure =>
    rw [named] at added
    cases added
  | ok id =>
    simp only [named] at added bare
    by_cases known : s.contains id = true
    · rw [if_pos known] at bare
      cases bare
    · by_cases taken : s.isTaken id = true
      · rw [if_neg known, if_pos taken] at added
        cases added
      · exact ⟨id, rfl, by simpa using taken⟩

/-- So have several statements, of which the first finds it. -/
theorem named_of_all_added (bare : role.defaultPolicy? s = none) {statements : List PolicyStatement}
    (some : statements ≠ []) (added : (s.run (statements.forM role.addToPolicy)).1 = .ok ()) :
    ∃ id, LogicalId.ofPath role.policyPath = .ok id ∧ s.isTaken id = false := by
  obtain ⟨first, rest, rfl⟩ := List.exists_cons_of_ne_nil some
  change (s.run (role.addToPolicy first >>= fun _ => rest.forM role.addToPolicy)).1 = _ at added
  rw [run_bind] at added
  refine named_of_added bare (?_ : (s.run (role.addToPolicy first)).1 = .ok ())
  rcases outcome : s.run (role.addToPolicy first) with ⟨failure | done, s'⟩
  · rw [outcome] at added
    cases added
  · rfl

theorem run_first_statement (named : LogicalId.ofPath role.policyPath = .ok id)
    (free : s.isTaken id = false) (statement : PolicyStatement) :
    s.run (role.addToPolicy statement) =
      (.ok (), s.insert id role.policyPath (role.policyWith id [statement])) := by
  have fresh : s.contains id = false := (free_iff.mp free).1
  have there : (s.insert id role.policyPath (role.policyWith id [])).resource? id =
      some (role.policyWith id []) := by
    rw [Stack.resource_insert, if_pos rfl]
  rw [run_add_to_policy, run_ensure_policy, named]
  simp only [fresh, free, Bool.false_eq_true, if_false, there, with_statement_policy,
    List.nil_append, modify_insert fresh]

theorem run_next_statement (named : LogicalId.ofPath role.policyPath = .ok id)
    (fresh : s.contains id = false) (statements : List PolicyStatement)
    (statement : PolicyStatement) :
    (s.insert id role.policyPath (role.policyWith id statements)).run (role.addToPolicy statement) =
      (.ok (), s.insert id role.policyPath (role.policyWith id (statements ++ [statement]))) := by
  have there : (s.insert id role.policyPath (role.policyWith id statements)).resource? id =
      some (role.policyWith id statements) := by
    rw [Stack.resource_insert, if_pos rfl]
  have known : (s.insert id role.policyPath (role.policyWith id statements)).contains id = true :=
    (at_insert s id role.policyPath _).contains
  rw [run_add_to_policy, run_ensure_policy, named]
  simp only [known, if_true, there, with_statement_policy, modify_insert fresh]

theorem run_next_statements (named : LogicalId.ofPath role.policyPath = .ok id)
    (fresh : s.contains id = false) (more statements : List PolicyStatement) :
    (s.insert id role.policyPath (role.policyWith id statements)).run
        (more.forM role.addToPolicy) =
      (.ok (), s.insert id role.policyPath (role.policyWith id (statements ++ more))) := by
  induction more generalizing statements with
  | nil => rw [List.append_nil]; rfl
  | cons statement rest ih =>
    show run _ (role.addToPolicy statement >>= fun _ => rest.forM role.addToPolicy) = _
    rw [run_bind, run_next_statement named fresh]
    simp only [ih, List.append_assoc, List.singleton_append]

theorem run_first_statements (named : LogicalId.ofPath role.policyPath = .ok id)
    (free : s.isTaken id = false) {statements : List PolicyStatement} (some : statements ≠ []) :
    s.run (statements.forM role.addToPolicy) =
      (.ok (), s.insert id role.policyPath (role.policyWith id statements)) := by
  obtain ⟨first, rest, rfl⟩ := List.exists_cons_of_ne_nil some
  show run _ (role.addToPolicy first >>= fun _ => rest.forM role.addToPolicy) = _
  rw [run_bind, run_first_statement named free]
  exact run_next_statements named (free_iff.mp free).1 rest [first]

end Role

end StackSynth
