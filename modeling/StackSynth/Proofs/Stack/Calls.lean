import StackSynth.Proofs.Stack.Names
import StackSynth.Proofs.Stack.Obeys

/-!
Stacks as calls leave them, whatever the calls are and in whatever order they come. A call that fails
changes nothing; one that succeeds makes one of a few changes, each of which keeps the collections of
the stack in step and adds to their ends only.
-/
namespace StackSynth

namespace OrderedMap

variable {α β : Type}

theorem contains_insert (m : OrderedMap α) (key k : String) (value : α) :
    (m.insert key value).contains k = (decide (key = k) || m.contains k) := by
  rw [contains, get?_insert]
  by_cases same : key = k
  · simp [same]
  · simp [same, contains]

theorem entries_prefix_insert {m : OrderedMap α} {key : String} (free : m.contains key = false)
    (value : α) : m.entries <+: (m.insert key value).entries := by
  rw [entries_insert free]
  exact List.prefix_append _ _

theorem keys_prefix {m n : OrderedMap α} (part : m.entries <+: n.entries) : m.keys <+: n.keys :=
  part.map Prod.fst

end OrderedMap

inductive StackCall
  | declare (path : List String) (r : Resource)
  | edit (id : String) (f : Resource → Resource)
  | pushProperty (id key : String) (value : Json)
  | waitFor (dependent dependency : Construct)
  | waitForPath (dependent : String) (path : List String)
  | recordGrant (g : Grant)
  | addAsset (source : ImageSource)
  | addOutput (id : String) (value : Value) (description : Option String)
  | setDescription (text : String)

def StackCall.action : StackCall → Declaring Unit
  | declare path r => (fun _ => ()) <$> Stack.declare path r
  | edit id f => Stack.edit id f
  | pushProperty id key value => Stack.pushProperty id key value
  | waitFor dependent dependency => Stack.waitFor dependent dependency
  | waitForPath dependent path => Stack.waitForPath dependent path
  | recordGrant g => (fun _ => ()) <$> Stack.recordGrant g
  | addAsset source => Stack.addAsset source
  | addOutput id value description => Stack.addOutput id value description
  | setDescription text => Stack.setDescription text

namespace Stack

def after (s : Stack) (call : StackCall) : Stack := (s.run call.action).2

def afterAll (s : Stack) (calls : List StackCall) : Stack := calls.foldl after s

variable {s s' : Stack}

/-! What one call does. -/

inductive Change (s : Stack) : Stack → Prop
  | declare {path : List String} {id : String} {r : Resource}
      (named : LogicalId.ofPath path = .ok id) (free : s.isTaken id = false) :
      Change s (s.insert id path r)
  | edit (id : String) (f : Resource → Resource) : Change s (s.modify id f)
  | wait {w : Wait} (new : w ∉ s.waits) : Change s { s with waits := s.waits ++ [w] }
  | grant {g : Grant} (new : g ∉ s.grants) : Change s { s with grants := s.grants ++ [g] }
  | asset {source : ImageSource} (new : source.hash ∉ s.assets.map (·.hash)) :
      Change s { s with assets := s.assets ++ [source] }
  | output {id : String} {output : Output} (free : s.isTaken id = false) :
      Change s { s with outputs := s.outputs.insert id output }
  | describe (text : String) : Change s { s with description := some text }
  | nothing : Change s s

/-- An action that leaves the stack alone if it fails, and makes one change if it succeeds. -/
inductive Turns (s : Stack) (m : Declaring Unit) : Prop
  | fails {failure : Failure} (ran : s.run m = (.error failure, s))
  | changes {s' : Stack} (ran : s.run m = (.ok (), s')) (change : Change s s')

theorem declare_turns (path : List String) (r : Resource) :
    Turns s ((fun _ => ()) <$> declare path r) := by
  have ran := run_map s (fun _ => ()) (declare path r)
  rw [run_declare] at ran
  cases named : LogicalId.ofPath path with
  | error failure =>
    rw [named] at ran
    exact .fails ran
  | ok id =>
    simp only [named] at ran
    cases free : s.isTaken id with
    | true =>
      rw [free, if_pos rfl] at ran
      exact .fails ran
    | false =>
      rw [free, if_neg Bool.false_ne_true] at ran
      exact .changes ran (.declare named free)

theorem edit_turns (id : String) (f : Resource → Resource) : Turns s (edit id f) := by
  have ran := run_edit s id f
  split at ran
  · exact .changes ran (.edit id f)
  · exact .fails ran

theorem wait_turns (dependent : String) (path : List String) :
    Turns s (waitForPath dependent path) := by
  apply Turns.changes (run_modifyGet s _)
  by_cases known : s.waits.contains ⟨dependent, path⟩ = true
  · simp only [known, if_true]
    exact .nothing
  · simp only [if_neg known]
    exact .wait fun member => known (List.contains_iff_mem.mpr member)

theorem grant_turns (g : Grant) : Turns s ((fun _ => ()) <$> recordGrant g) := by
  apply Turns.changes ((run_map s _ _).trans (by rw [recordGrant, run_modifyGet]; rfl))
  by_cases known : s.grants.contains g = true
  · simp only [known, if_true]
    exact .nothing
  · simp only [if_neg known]
    exact .grant fun member => known (List.contains_iff_mem.mpr member)

theorem asset_turns (source : ImageSource) : Turns s (addAsset source) := by
  apply Turns.changes (run_modifyGet s _)
  by_cases known : s.assets.any (·.hash == source.hash) = true
  · simp only [known, if_true]
    exact .nothing
  · simp only [if_neg known]
    apply Change.asset
    intro member
    obtain ⟨other, listed, same⟩ := List.mem_map.mp member
    exact known (List.any_eq_true.mpr ⟨other, listed, beq_iff_eq.mpr same⟩)

theorem run_add_output (s : Stack) (id : String) (value : Value) (description : Option String) :
    s.run (addOutput id value description) =
      if s.isTaken id then (.error (.duplicateLogicalId id), s)
      else (.ok (), { s with outputs := s.outputs.insert id ⟨value.toJson, description, none⟩ }) := by
  rw [addOutput, run_bind, run_get]
  simp only
  split <;> rfl

theorem output_turns (id : String) (value : Value) (description : Option String) :
    Turns s (addOutput id value description) := by
  have ran := run_add_output s id value description
  cases free : s.isTaken id with
  | true =>
    rw [free, if_pos rfl] at ran
    exact .fails ran
  | false =>
    rw [free, if_neg Bool.false_ne_true] at ran
    exact .changes ran (.output free)

theorem call_turns (s : Stack) (call : StackCall) : Turns s call.action := by
  cases call with
  | declare path r => exact declare_turns path r
  | edit id f => exact edit_turns id f
  | pushProperty id key value => exact edit_turns id _
  | waitFor dependent dependency => exact wait_turns dependent.logicalId dependency.path
  | waitForPath dependent path => exact wait_turns dependent path
  | recordGrant g => exact grant_turns g
  | addAsset source => exact asset_turns source
  | addOutput id value description => exact output_turns id value description
  | setDescription text => exact .changes (run_modifyGet s _) (.describe text)

theorem after_change (s : Stack) (call : StackCall) : Change s (s.after call) := by
  rw [after]
  cases call_turns s call with
  | fails ran => rw [ran]; exact .nothing
  | changes ran change => rw [ran]; exact change

theorem failure_changes_nothing {call : StackCall} {failure : Failure}
    (failed : (s.run call.action).1 = .error failure) : s.after call = s := by
  rw [after]
  cases call_turns s call with
  | fails ran => rw [ran]
  | changes ran change => rw [ran] at failed; cases failed

/-! What all calls keep. -/

/-- The collections of a stack are in step with each other, and none of them repeats itself. -/
structure Consistent (s : Stack) : Prop where
  keys : s.resources.keys = s.paths.keys
  named : ∀ id path, s.paths.get? id = some path → LogicalId.ofPath path = .ok id
  apart : ∀ id, s.resources.contains id = true → s.outputs.contains id = false
  waits : s.waits.Nodup
  grants : s.grants.Nodup
  assets : (s.assets.map (·.hash)).Nodup

/-- The second stack has what the first one has, in its order, and possibly more after it. -/
structure Extends (s s' : Stack) : Prop where
  resources : s.resources.keys <+: s'.resources.keys
  paths : s.paths.entries <+: s'.paths.entries
  waits : s.waits <+: s'.waits
  grants : s.grants <+: s'.grants
  assets : s.assets <+: s'.assets
  outputs : s.outputs.entries <+: s'.outputs.entries

theorem extends_refl (s : Stack) : Extends s s := by
  constructor <;> exact List.prefix_refl _

theorem extends_trans {s₁ s₂ s₃ : Stack} (first : Extends s₁ s₂) (second : Extends s₂ s₃) :
    Extends s₁ s₃ where
  resources := first.resources.trans second.resources
  paths := first.paths.trans second.paths
  waits := first.waits.trans second.waits
  grants := first.grants.trans second.grants
  assets := first.assets.trans second.assets
  outputs := first.outputs.trans second.outputs

theorem keys_agree (s : Stack) : s.resources.keys = s.paths.keys := by
  simp only [resources, paths, OrderedMap.keys_mapValues]

theorem free_iff {id : String} :
    s.isTaken id = false ↔ s.contains id = false ∧ s.outputs.contains id = false := by
  rw [isTaken, Bool.or_eq_false_iff]

/-- The paths have ids, no two the same, and nothing of the stack has one of them. -/
def Vacant (s : Stack) (paths : List (List String)) : Prop :=
  ∃ names, paths.mapM LogicalId.ofPath = .ok names ∧ names.Nodup ∧
    ∀ name ∈ names, s.isTaken name = false

/-- Where nothing is declared, it is enough that the paths read differently. -/
theorem vacant_of_readable {paths : List (List String)}
    (named : paths.mapM LogicalId.ofPath = .ok (paths.map LogicalId.numbered))
    (read : (paths.map LogicalId.readable).Nodup) (free : ∀ name, s.isTaken name = false) :
    s.Vacant paths :=
  ⟨_, named, LogicalId.nodup_of_readable read, fun name _ => free name⟩

theorem Vacant.declare {path : List String} {paths : List (List String)}
    (vacant : s.Vacant (path :: paths)) (r : Resource) : ∃ name,
    s.run (declare path r) = (.ok name, s.insert name path r) ∧
      (s.insert name path r).Vacant paths := by
  obtain ⟨all, named, distinct, free⟩ := vacant
  rw [List.mapM_cons] at named
  obtain ⟨name, first, named⟩ := Outcome.bind_ok named
  obtain ⟨names, rest, same⟩ := Outcome.bind_ok named
  cases same
  rw [List.nodup_cons] at distinct
  rw [List.forall_mem_cons] at free
  refine ⟨name, ?_, names, rest, distinct.2, fun other member => ?_⟩
  · rw [run_declare, first]
    simp only [free.1]
    rfl
  · have apart : name ≠ other := fun same => distinct.1 (same ▸ member)
    have still := free.2 other member
    rw [free_iff] at still ⊢
    refine ⟨?_, still.2⟩
    rw [contains, insert, OrderedMap.contains_insert, decide_eq_false apart, Bool.false_or]
    exact still.1

theorem resources_insert (s : Stack) (id : String) (path : List String) (r : Resource) :
    (s.insert id path r).resources = s.resources.insert id r :=
  OrderedMap.mapValues_insert _ _ _ _

theorem paths_insert (s : Stack) (id : String) (path : List String) (r : Resource) :
    (s.insert id path r).paths = s.paths.insert id path :=
  OrderedMap.mapValues_insert _ _ _ _

theorem resources_modify (s : Stack) (id : String) (f : Resource → Resource) :
    (s.modify id f).resources = s.resources.modify id f := by
  simp only [resources, modify, OrderedMap.modify, OrderedMap.mapValues_mapValues]
  congr 1
  funext k d
  split <;> rfl

theorem paths_modify (s : Stack) (id : String) (f : Resource → Resource) :
    (s.modify id f).paths = s.paths := by
  simp only [paths, modify, OrderedMap.modify, OrderedMap.mapValues_mapValues]
  congr 1
  funext k d
  split <;> rfl

theorem consistent_insert (consistent : s.Consistent) {path : List String} {id : String}
    {r : Resource} (named : LogicalId.ofPath path = .ok id) (free : s.isTaken id = false) :
    (s.insert id path r).Consistent := by
  constructor
  · exact keys_agree _
  · intro k p found
    rw [paths_insert, OrderedMap.get?_insert] at found
    split at found
    · next same =>
      cases found
      rw [named, same]
    · exact consistent.named k p found
  · intro k known
    rw [resources_insert, OrderedMap.contains_insert, Bool.or_eq_true, decide_eq_true_iff] at known
    rcases known with rfl | old
    · exact (free_iff.mp free).2
    · exact consistent.apart k old
  · exact consistent.waits
  · exact consistent.grants
  · exact consistent.assets

theorem consistent_output (consistent : s.Consistent) {id : String} {output : Output}
    (free : s.isTaken id = false) :
    Consistent { s with outputs := s.outputs.insert id output } := by
  constructor
  · exact consistent.keys
  · exact consistent.named
  · intro k known
    have known : s.contains k = true := (contains_resources s k).symm.trans known
    have differs : id ≠ k := by
      rintro rfl
      rw [(free_iff.mp free).1] at known
      cases known
    rw [OrderedMap.contains_insert, decide_eq_false differs]
    exact consistent.apart k ((contains_resources s k).trans known)
  · exact consistent.waits
  · exact consistent.grants
  · exact consistent.assets

theorem nodup_append_new {α : Type} {items : List α} (nodup : items.Nodup) {item : α}
    (new : item ∉ items) : (items ++ [item]).Nodup := by
  rw [← List.concat_eq_append]
  exact nodup.concat new

theorem change_consistent (consistent : s.Consistent) (change : Change s s') : s'.Consistent := by
  cases change with
  | declare named free => exact consistent_insert consistent named free
  | edit id f =>
    constructor
    · exact keys_agree _
    · rw [paths_modify]
      exact consistent.named
    · intro k known
      rw [resources_modify, OrderedMap.modify, OrderedMap.contains_mapValues] at known
      exact consistent.apart k known
    · exact consistent.waits
    · exact consistent.grants
    · exact consistent.assets
  | wait new => exact { consistent with waits := nodup_append_new consistent.waits new }
  | grant new => exact { consistent with grants := nodup_append_new consistent.grants new }
  | asset new =>
    refine { consistent with assets := ?_ }
    rw [List.map_append]
    exact nodup_append_new consistent.assets new
  | output free => exact consistent_output consistent free
  | describe _ => exact { consistent with }
  | nothing => exact consistent

theorem change_extends (change : Change s s') : s.Extends s' := by
  have same := extends_refl s
  cases change with
  | declare named free =>
    obtain ⟨fresh, _⟩ := free_iff.mp free
    refine { same with resources := ?_, paths := ?_ }
    · rw [resources_insert]
      exact OrderedMap.keys_prefix (OrderedMap.entries_prefix_insert
        ((contains_resources s _).trans fresh) _)
    · rw [paths_insert]
      exact OrderedMap.entries_prefix_insert ((OrderedMap.contains_mapValues _ _ _).trans fresh) _
  | edit id f =>
    have keys : (s.modify id f).resources.keys = s.resources.keys := by
      rw [resources_modify, OrderedMap.modify, OrderedMap.keys_mapValues]
    have paths : (s.modify id f).paths = s.paths := paths_modify s id f
    exact { same with
      resources := keys ▸ List.prefix_refl _
      paths := paths ▸ List.prefix_refl _ }
  | wait _ => exact { same with waits := List.prefix_append _ _ }
  | grant _ => exact { same with grants := List.prefix_append _ _ }
  | asset _ => exact { same with assets := List.prefix_append _ _ }
  | output free =>
    obtain ⟨_, fresh⟩ := free_iff.mp free
    exact { same with outputs := OrderedMap.entries_prefix_insert fresh _ }
  | describe _ => exact { same with }
  | nothing => exact same

theorem make_ok {name : String} {environment : Environment} (made : make name environment = .ok s) :
    s = { name, environment } := by
  unfold make at made
  split at made
  · cases made
    rfl
  · cases made

theorem make_consistent {name : String} {environment : Environment}
    (made : make name environment = .ok s) : s.Consistent := by
  obtain rfl := make_ok made
  constructor
  · rfl
  · intro id path found
    cases found
  · intro id known
    cases known
  · exact List.nodup_nil
  · exact List.nodup_nil
  · exact List.nodup_nil

theorem consistent_after_all (consistent : s.Consistent) (calls : List StackCall) :
    (s.afterAll calls).Consistent := by
  induction calls generalizing s with
  | nil => exact consistent
  | cons call rest ih => exact ih (change_consistent consistent (after_change s call))

theorem extends_after_all (s : Stack) (calls : List StackCall) : s.Extends (s.afterAll calls) := by
  induction calls generalizing s with
  | nil => exact extends_refl s
  | cons call rest ih => exact extends_trans (change_extends (after_change s call)) (ih _)

/-! A stack keeps a resource and its path in one place. It does so as if they stood in two maps, each
with changes of its own. -/

structure Maps where
  resources : OrderedMap Resource := ∅
  paths : OrderedMap (List String) := ∅
  outputs : OrderedMap Output := ∅

namespace Maps

def isTaken (m : Maps) (id : String) : Bool := m.resources.contains id || m.outputs.contains id

def declare (m : Maps) (path : List String) (r : Resource) : Maps :=
  match LogicalId.ofPath path with
  | .error _ => m
  | .ok id =>
    if m.isTaken id then m
    else { m with paths := m.paths.insert id path, resources := m.resources.insert id r }

def edit (m : Maps) (id : String) (f : Resource → Resource) : Maps :=
  if m.resources.contains id then { m with resources := m.resources.modify id f } else m

def addOutput (m : Maps) (id : String) (output : Output) : Maps :=
  if m.isTaken id then m else { m with outputs := m.outputs.insert id output }

def after (m : Maps) : StackCall → Maps
  | .declare path r => m.declare path r
  | .edit id f => m.edit id f
  | .pushProperty id key value => m.edit id (·.pushProperty key value)
  | .addOutput id value description => m.addOutput id ⟨value.toJson, description, none⟩
  | .waitFor _ _ | .waitForPath _ _ | .recordGrant _ | .addAsset _ | .setDescription _ => m

end Maps

def maps (s : Stack) : Maps := ⟨s.resources, s.paths, s.outputs⟩

theorem maps_taken (s : Stack) (id : String) : s.maps.isTaken id = s.isTaken id := by
  rw [Maps.isTaken, isTaken, maps, contains_resources]

theorem maps_declare (s : Stack) (path : List String) (r : Resource) :
    (s.after (.declare path r)).maps = s.maps.declare path r := by
  change (s.run ((fun _ => ()) <$> declare path r)).2.maps = _
  rw [run_map, run_declare, Maps.declare]
  cases LogicalId.ofPath path with
  | error failure => rfl
  | ok id =>
    simp only [maps_taken]
    split
    · rfl
    · simp only [maps, resources_insert, paths_insert]
      rfl

theorem maps_edit (s : Stack) (id : String) (f : Resource → Resource) :
    (s.after (.edit id f)).maps = s.maps.edit id f := by
  have known : s.maps.resources.contains id = s.contains id := contains_resources s id
  change (s.run (edit id f)).2.maps = _
  rw [run_edit, Maps.edit, known]
  split
  · simp only [maps, resources_modify, paths_modify]
    rfl
  · rfl

theorem maps_output (s : Stack) (id : String) (value : Value) (description : Option String) :
    (s.after (.addOutput id value description)).maps =
      s.maps.addOutput id ⟨value.toJson, description, none⟩ := by
  change (s.run (addOutput id value description)).2.maps = _
  rw [run_add_output, Maps.addOutput, maps_taken]
  split <;> rfl

theorem maps_wait (s : Stack) (dependent : String) (path : List String) :
    (s.after (.waitForPath dependent path)).maps = s.maps := by
  change (s.run (waitForPath dependent path)).2.maps = _
  rw [waitForPath, run_modifyGet]
  simp only
  split <;> rfl

theorem maps_after (s : Stack) (call : StackCall) : (s.after call).maps = s.maps.after call := by
  cases call with
  | declare path r => exact maps_declare s path r
  | edit id f => exact maps_edit s id f
  | pushProperty id key value => exact maps_edit s id (·.pushProperty key value)
  | addOutput id value description => exact maps_output s id value description
  | waitFor dependent dependency => exact maps_wait s dependent.logicalId dependency.path
  | waitForPath dependent path => exact maps_wait s dependent path
  | recordGrant g =>
    rw [after, StackCall.action, run_map, recordGrant, run_modifyGet]
    simp only
    split <;> rfl
  | addAsset source =>
    rw [after, StackCall.action, addAsset, run_modifyGet]
    simp only
    split <;> rfl
  | setDescription text => rfl

theorem maps_after_all (s : Stack) (calls : List StackCall) :
    (s.afterAll calls).maps = calls.foldl Maps.after s.maps := by
  induction calls generalizing s with
  | nil => rfl
  | cons call rest ih =>
    rw [List.foldl_cons, ← maps_after]
    exact ih (s.after call)

/-- Whatever is called, and whether the calls succeed or fail. -/
theorem calls_keep_step {name : String} {environment : Environment} {start : Stack}
    (made : make name environment = .ok start) (calls : List StackCall) :
    let s := start.afterAll calls
    s.Consistent ∧ s.maps = calls.foldl Maps.after {} ∧
      (∀ more, s.Extends (s.afterAll more)) ∧
      ∀ call failure, (s.run call.action).1 = .error failure → s.after call = s := by
  intro s
  have empty : start.maps = {} := by
    rw [make_ok made]
    rfl
  constructor
  · exact consistent_after_all (make_consistent made) calls
  constructor
  · rw [← empty]
    exact maps_after_all start calls
  constructor
  · exact extends_after_all s
  · intro call failure failed
    exact failure_changes_nothing failed

/-- A path that flattens to an id that is taken, and an output of that name. -/
theorem refused_calls_keep_step :
    ∃ start, make "Test" ⟨"123456789012", "us-east-1"⟩ = .ok start ∧
      let s := start.afterAll [.declare ["Fn"] { type := "AWS::SNS::Topic" },
        .waitForPath "Fn" ["Role"], .waitForPath "Fn" ["Role"]]
      s.Consistent ∧ s.resources.keys = ["Fn"] ∧ s.waits = [⟨"Fn", ["Role"]⟩] ∧
        s.after (.declare ["F-n"] { type := "AWS::SQS::Queue" }) = s ∧
        s.after (.addOutput "Fn" (.str "") none) = s := by
  have named : isName "Test" = true := by decide
  have made : make "Test" ⟨"123456789012", "us-east-1"⟩ =
      .ok { name := "Test", environment := ⟨"123456789012", "us-east-1"⟩ } := by
    rw [make, if_pos named]
  refine ⟨_, made, ?_⟩
  obtain ⟨consistent, _, _, unchanged⟩ := calls_keep_step made
    [.declare ["Fn"] { type := "AWS::SNS::Topic" }, .waitForPath "Fn" ["Role"],
      .waitForPath "Fn" ["Role"]]
  refine ⟨consistent, rfl, rfl, ?_, ?_⟩
  · exact unchanged _ (.duplicateLogicalId "Fn") rfl
  · exact unchanged _ (.duplicateLogicalId "Fn") rfl

end Stack

end StackSynth
