import StackSynth.Compute.TaskDefinition
import StackSynth.Proofs.Constructs.Functions
import StackSynth.Proofs.Stack.Lists

/-!
Task definitions and their containers, as steps of a stack. An entry keeps its name and sets each
variable once while variables and ports are added to it.
-/
namespace StackSynth

variable {t : Terms} {s s' : Stack} {id : String}

namespace Container

variable {c : Container} {fields : Fields} {items : List Json} {key : String}

def Valid (c : Container) (s : Stack) : Prop :=
  ∃ path, s.At c.taskDefinitionId path "AWS::ECS::TaskDefinition"

theorem Valid.grows (valid : c.Valid s) (grows : s.Grows s') : c.Valid s' := by
  obtain ⟨path, there⟩ := valid
  exact ⟨path, grows.at_ there⟩

theorem append_in_cases (key : String) (items : List Json) (fields : Fields) :
    appendIn key items fields = fields ∨
    ∃ present, appendIn key items fields = Fields.insert key (.arr (present ++ items)) fields ∧
      (Fields.get? key fields = some (.arr present) ∨
        Fields.get? key fields = none ∧ present = []) := by
  unfold appendIn
  split
  · next absent => exact .inr ⟨[], rfl, .inr ⟨absent, rfl⟩⟩
  · next present found => exact .inr ⟨present, rfl, .inl found⟩
  · exact .inl rfl

theorem get?_append_in {k : String} (other : key ≠ k) :
    Fields.get? k (appendIn key items fields) = Fields.get? k fields := by
  rcases append_in_cases key items fields with same | ⟨present, same, _⟩
  · rw [same]
  · rw [same, Fields.get?_insert, if_neg other]

theorem references_append_in {ref : Reference}
    (member : ref ∈ Json.referencesInFields (appendIn key items fields)) :
    ref ∈ Json.referencesInItems items ∨ ref ∈ Json.referencesInFields fields := by
  rcases append_in_cases key items fields with same | ⟨present, same, old⟩
  · exact .inr (same ▸ member)
  · rw [same] at member
    rcases Json.references_insert member with new | before
    · rw [Json.references_arr, Json.references_in_items_append] at new
      rcases List.mem_append.mp new with earlier | later
      · rcases old with found | ⟨_, rfl⟩
        · exact .inr (Json.references_of_field found (by rw [Json.references_arr]; exact earlier))
        · simp at earlier
      · exact .inl later
    · exact .inr before

theorem references_of_named (named : (Fields.get? "Name" fields).isSome = true) :
    Json.references (.obj fields) = Json.referencesInFields fields := by
  obtain ⟨name, found⟩ := Option.isSome_iff_exists.mp named
  exact Json.references_obj_of_field (Fields.mem_of_get? found) (by decide)

/-- What an entry may become. -/
structure EntryGrows (t : Terms) (s : Stack) (fields grown : Fields) : Prop where
  tidy : NamedContainer (.obj fields) → NamedContainer (.obj grown)
  refers : NamedContainer (.obj fields) → ∀ ref ∈ (Json.obj grown).references,
    ref ∈ (Json.obj fields).references ∨ AdmitsLate t s ref.target

theorem entry_grows_append (other : key ≠ "Name")
    (within : ∀ item ∈ items, Json.Within (AdmitsLate t s) item)
    (distinct : NamedContainer (.obj fields) →
      (Audit.environmentNames (.obj (appendIn key items fields))).Nodup) :
    EntryGrows t s fields (appendIn key items fields) := by
  have named : NamedContainer (.obj fields) →
      (Fields.get? "Name" (appendIn key items fields)).isSome = true := by
    rintro ⟨⟨_, same, found⟩, _⟩
    cases same
    rw [get?_append_in other]
    exact found
  refine ⟨fun container => ⟨⟨_, rfl, named container⟩, distinct container⟩,
    fun container ref member => ?_⟩
  rw [references_of_named (named container)] at member
  obtain ⟨⟨_, same, found⟩, _⟩ := container
  cases same
  rw [references_of_named found]
  rcases references_append_in member with new | old
  · obtain ⟨item, listed, refers⟩ := Json.mem_references_in_items.mp new
    exact .inr (within item listed ref refers)
  · exact .inl old

theorem entry_listed {d : DeclaredResource} {entry : Json}
    (found : s.declared.get? c.taskDefinitionId = some d)
    (listed : (listed d.resource)[c.index]? = some entry) : c.entry? s = some entry := by
  unfold entry?
  simp [Stack.resource?, found, listed]

/-- An entry of a task definition may change into what it may become. -/
theorem grows_to_entry {r : Resource} {fields grown : Fields} {index : Nat}
    (type : r.type = "AWS::ECS::TaskDefinition") (tidy : Tidy t r)
    (present : (listed r)[index]? = some (.obj fields)) (grows : EntryGrows t s fields grown) :
    GrowsTo t s r listKey (.arr ((listed r).set index (.obj grown))) := by
  have member : Json.obj fields ∈ listed r := List.mem_of_getElem? present
  have list : r.property? listKey = some (.arr (listed r)) :=
    Resource.property_of_list_at (List.ne_nil_of_mem member)
  have container := tidy.containers type _ member
  have old : ∀ entry ∈ listed r, entry.references ⊆ r.references := by
    intro entry inside ref refers
    refine Resource.references_of_property list ?_
    rw [Json.references_arr]
    exact Json.mem_references_in_items.mpr ⟨entry, inside, refers⟩
  have late : 2 ≤ layer r.type := by rw [type]; decide
  refine ⟨by decide, fun ref refers => ?_, fun _ => ?_, fun same => absurd same (by decide)⟩
  · rw [Json.references_arr] at refers
    obtain ⟨entry, inside, refers⟩ := Json.mem_references_in_items.mp refers
    rcases List.mem_or_eq_of_mem_set inside with before | rfl
    · exact .inl (old entry before refers)
    · rcases grows.refers container ref refers with before | admits
      · exact .inl (old _ member before)
      · exact .inr ⟨by omega, admits r.type late⟩
  · refine tidy_definition type fun entry inside => ?_
    rw [listed, Resource.property_with_property, if_pos rfl] at inside
    rcases List.mem_or_eq_of_mem_set inside with before | rfl
    · exact tidy.containers type entry before
    · exact grows.tidy container

theorem edit_entry_obeys {f : Fields → Fields} (valid : c.Valid s)
    (grows : ∀ fields, c.entry? s = some (.obj fields) → EntryGrows t s fields (f fields)) :
    Obeys t s (c.editEntry f) fun _ _ => True := by
  unfold editEntry
  refine obeys_get ?_
  split
  · exact obeys_throw
  · next r there =>
    split
    · next fields present =>
      refine obeys_built fun built => ?_
      refine obeys_forget (obeys_edit fun d found => ?_)
      have same : r = d.resource := by
        rw [Stack.resource?, found] at there
        cases there
        rfl
      subst same
      obtain ⟨path, task⟩ := valid
      have type := (Stack.At.unique task ⟨d, found, rfl, rfl⟩).2.symm
      have tidy := ((built_sound built).fits _ d found).tidy
      exact ⟨listKey, _, grows_to_entry type tidy present
        (grows fields (entry_listed found present)), rfl⟩
    · exact obeys_throw

theorem environment_names_append {entry : Json} {name : String}
    (named : (entry.field? "Name").bind Json.asStr? = some name) (fields : Fields) :
    Audit.environmentNames (.obj (appendIn "Environment" [entry] fields)) =
        Audit.environmentNames (.obj fields) ∨
      Audit.environmentNames (.obj (appendIn "Environment" [entry] fields)) =
        Audit.environmentNames (.obj fields) ++ [name] := by
  have field : ∀ fields, (Json.obj fields).field? "Environment" =
      Fields.get? "Environment" fields := fun _ => rfl
  rcases append_in_cases "Environment" [entry] fields with same | ⟨present, same, old⟩
  · exact .inl (by rw [same])
  · refine .inr ?_
    rw [same]
    simp only [Audit.environmentNames, field, Fields.get?_insert, if_true, Option.bind_some,
      Json.asArr?, Option.getD_some, List.filterMap_append, List.filterMap_cons, named,
      List.filterMap_nil]
    rcases old with found | ⟨absent, rfl⟩
    · rw [found]
      rfl
    · rw [absent]
      rfl

theorem environment_names_entry {entry : Json} (found : c.entry? s = some entry) :
    c.environmentNames s = Audit.environmentNames entry := by
  simp [environmentNames, Audit.environmentNames, found]

theorem add_environment_obeys {name : String} {value : Value} (valid : c.Valid s)
    (late : Json.Within (AdmitsLate t s) value.toJson) :
    Obeys t s (c.addEnvironment name value) fun _ _ => True := by
  unfold addEnvironment
  refine obeys_unless fun _ => obeys_get (obeys_unless fun new => ?_)
  refine edit_entry_obeys valid fun fields found => ?_
  have absent : name ∉ Audit.environmentNames (.obj fields) := by
    rw [← environment_names_entry found]
    simpa using new
  refine entry_grows_append (by decide) (by simpa using late) fun container => ?_
  have named : ((Json.obj [("Name", .str name), ("Value", value.toJson)]).field? "Name").bind
      Json.asStr? = some name := rfl
  rcases environment_names_append named fields with same | same
  · rw [same]
    exact container.distinct
  · rw [same, List.nodup_append]
    refine ⟨container.distinct, by simp, fun old member new last => ?_⟩
    cases List.mem_singleton.mp last
    rintro rfl
    exact absent member

theorem add_ports_obeys {ports : List PortMapping} (valid : c.Valid s) :
    Obeys t s (c.addPorts ports) fun _ _ => True := by
  refine edit_entry_obeys valid fun fields _ => ?_
  refine entry_grows_append (by decide) ?_ fun container => ?_
  · intro item member
    obtain ⟨mapping, _, rfl⟩ := List.mem_map.mp member
    simp [PortMapping.toJson]
  · have field : ∀ fields, (Json.obj fields).field? "Environment" =
        Fields.get? "Environment" fields := fun _ => rfl
    rw [Audit.environmentNames, field, get?_append_in (by decide)]
    exact container.distinct

end Container

namespace TaskDefinition

variable {task : TaskDefinition}

structure Valid (task : TaskDefinition) (s : Stack) : Prop where
  itself : task.toConstruct.Stands s "Resource" "AWS::ECS::TaskDefinition"
  taskRole : task.taskRole.Valid s
  executionRole : task.executionRole.Valid s
  role : s.HasProperty task.logicalId "TaskRoleArn" task.taskRole.arn.toJson
  essentials : ∀ container ∈ task.essentials, container.Valid s

theorem Valid.grows (valid : task.Valid s) (grows : s.Grows s') : task.Valid s' :=
  ⟨grows.at_ valid.itself, valid.taskRole.grows grows, valid.executionRole.grows grows,
    grows.hasProperty (by decide) valid.role,
    fun container listed => (valid.essentials container listed).grows grows⟩

/-- The roles that are made for a task definition unless they are given. -/
structure Allowed (t : Terms) (id : String) (settings : TaskSettings) : Prop where
  itself : t.declares [id, "Resource"] "AWS::ECS::TaskDefinition"
  taskRole : settings.taskRole = none → t.declares [id, "TaskRole", "Resource"] "AWS::IAM::Role"
  executionRole : settings.executionRole = none →
    t.declares [id, "ExecutionRole", "Resource"] "AWS::IAM::Role"

theorem role_or_obeys {given : Option Role} {roleId : String}
    (valid : ∀ role ∈ given, role.Valid s)
    (declares : given = none → t.declares [id, roleId, "Resource"] "AWS::IAM::Role") :
    Obeys t s (roleOr given id roleId) fun role s' =>
      role.Valid s' ∧ (given = none → role.path = [id, roleId]) ∧ ∀ r ∈ given, r = role := by
  unfold roleOr
  cases given with
  | some role => exact obeys_pure ⟨valid role rfl, by simp, by simp⟩
  | none =>
    exact obeys_imp (Role.declare_obeys (declares rfl)) fun role _ _ _ ⟨made, path⟩ =>
      ⟨made, fun _ => path, by simp⟩

theorem declare_obeys {settings : TaskSettings} (allowed : Allowed t id settings)
    (task_role : ∀ role ∈ settings.taskRole, role.Valid s)
    (execution_role : ∀ role ∈ settings.executionRole, role.Valid s) :
    Obeys t s (declare id settings) fun task s' => task.Valid s' ∧ task.path = [id] ∧
      (settings.taskRole = none → task.taskRole.path = [id, "TaskRole"]) ∧
      ∀ role ∈ settings.executionRole, role = task.executionRole := by
  unfold declare
  refine obeys_unless fun _ => ?_
  refine obeys_bind (role_or_obeys task_role allowed.taskRole)
    fun taskRole s₁ first ⟨task_valid, task_path, _⟩ => ?_
  refine obeys_bind (role_or_obeys (fun role given => (execution_role role given).grows first)
    allowed.executionRole) fun executionRole s₂ second ⟨execution_valid, _, given⟩ => ?_
  refine obeys_get (obeys_lift fun family _ => ?_)
  have task_there := task_valid.grows second
  have type : (resourceFor settings taskRole executionRole family).type =
    "AWS::ECS::TaskDefinition" := rfl
  have within : (resourceFor settings taskRole executionRole family).Within
      (Admits t s₂ "AWS::ECS::TaskDefinition") := by
    have admitted : Admits t s₂ "AWS::ECS::TaskDefinition" taskRole.logicalId :=
      .below task_there (by decide)
    have admitted_execution : Admits t s₂ "AWS::ECS::TaskDefinition" executionRole.logicalId :=
      .below execution_valid (by decide)
    rw [Resource.within_iff]
    simp [resourceFor, Role.arn, admitted, admitted_execution]
  have tidy : Tidy t (resourceFor settings taskRole executionRole family) := by
    refine tidy_definition type fun container listed => ?_
    simp [Container.listed, Container.listKey, resourceFor, Resource.property?, Fields.get?,
      Json.asArr?] at listed
  have fits : Fits t s₂ [id, "Resource"] (resourceFor settings taskRole executionRole family) :=
    fits_tidy "AWS::ECS::TaskDefinition" type allowed.itself within tidy (by simp) (by decide)
  refine obeys_bind (obeys_declare fits) fun logicalId s₃ third declared => obeys_pure ?_
  have role : s₃.HasProperty logicalId "TaskRoleArn" taskRole.arn.toJson :=
    declared.hasProperty (by simp [resourceFor, Resource.property?, Fields.get?])
  exact ⟨⟨declared.there, task_there.grows third, execution_valid.grows third, role, by simp⟩, rfl,
    task_path, given⟩

/-- What a new entry of the list of containers is made of. -/
theorem within_entry {P : String → Prop} {essential : Bool} {image : Value} {logging : Fields}
    (image_within : Json.Within P image.toJson)
    (logging_within : ∀ entry ∈ logging, Json.Within P entry.2) :
    Json.Within P (.obj ([("Essential", .bool essential), ("Image", image.toJson)] ++ logging
      ++ [("Name", .str id)])) := by
  rw [List.cons_append, List.cons_append, List.cons_append, List.cons_append, Json.within_obj_more]
  simpa [image_within, or_imp, forall_and] using fun key value member =>
    logging_within (key, value) member

theorem named_entry {essential : Bool} {image : Json} {logging : Fields}
    (plain : ∀ entry ∈ logging, entry.1 = "LogConfiguration") :
    NamedContainer (.obj ([("Essential", .bool essential), ("Image", image)] ++ logging
      ++ [("Name", .str id)])) := by
  refine ⟨⟨_, rfl, ?_⟩, ?_⟩
  · rw [Fields.get?_append]
    simp [Fields.get?]
  · have unset : Fields.get? "Environment" ([("Essential", .bool essential), ("Image", image)]
        ++ logging ++ [("Name", .str id)]) = none := by
      rw [Fields.get?_eq_none_iff]
      simp only [List.forall_mem_append]
      refine ⟨⟨by simp, fun entry member => ?_⟩, by simp⟩
      rw [plain entry member]
      decide
    simp only [Audit.environmentNames, Json.field?, unset]
    exact List.nodup_nil

theorem tidy_push_container {r : Resource} {entry : Json}
    (type : r.type = "AWS::ECS::TaskDefinition") (tidy : Tidy t r) (named : NamedContainer entry) :
    Tidy t (r.pushProperty Container.listKey entry) := by
  obtain ⟨items, same, old⟩ := r.push_property_eq Container.listKey entry
  rw [same]
  refine tidy_definition type fun container listed => ?_
  rw [Container.listed, Resource.property_with_property, if_pos rfl] at listed
  rcases List.mem_append.mp listed with before | last
  · rcases old with found | rfl
    · refine tidy.containers type container ?_
      rw [Container.listed, found]
      exact before
    · simp at before
  · cases List.mem_singleton.mp last
    exact named

/-- What a container asks for beside its entry. -/
structure Admitted (t : Terms) (s : Stack) (task : TaskDefinition) (id : String)
    (settings : ContainerSettings) : Prop where
  policy : t.declares task.executionRole.policyPath "AWS::IAM::Policy"
  logs : settings.logging ≠ none →
    t.declares (task.path ++ [id] ++ ["LogGroup"] ++ ["Resource"]) "AWS::Logs::LogGroup"
  image : ∀ image, settings.image = .asset image → image.Plain
  environment : ∀ entry ∈ settings.environment.entries,
    Json.Within (AdmitsLate t s) entry.2.toJson

theorem image_name_within {P : String → Prop} {image : ContainerImage}
    (plain : ∀ asset, image = .asset asset → asset.Plain) : Json.Within P image.name.toJson := by
  cases image with
  | asset image => exact ImageAsset.uri_within P (plain image rfl)
  | registry name => exact Value.within_toJson_str name

theorem declare_logging_obeys {log : LogSettings} (valid : task.Valid s)
    (policy : t.declares task.executionRole.policyPath "AWS::IAM::Policy")
    (logs : t.declares (task.path ++ [id] ++ ["LogGroup"] ++ ["Resource"]) "AWS::Logs::LogGroup") :
    Obeys t s (task.declareLogging id log) fun configuration s' =>
      Json.Within (AdmitsLate t s') configuration := by
  unfold declareLogging
  refine obeys_bind (LogGroup.declare_obeys logs) fun group s₁ first ⟨made, _⟩ => ?_
  refine obeys_bind (LogGroup.grant_write_obeys made (valid.executionRole.grows first) policy)
    fun _ s₂ second _ => obeys_pure ?_
  have late : AdmitsLate t s₂ group.logicalId := admits_late_at (second.at_ made) (by decide)
  simp [logConfiguration, LogGroup.reference, late]

/-- The entry of a container, as it is when it is added to the list. -/
theorem push_entry_obeys {settings : ContainerSettings} {logging : Fields} (valid : task.Valid s)
    (image : ∀ image, settings.image = .asset image → image.Plain)
    (plain : ∀ entry ∈ logging, entry.1 = "LogConfiguration")
    (late : ∀ entry ∈ logging, Json.Within (AdmitsLate t s) entry.2) :
    Obeys t s (Stack.pushProperty task.logicalId Container.listKey (.obj (
      [("Essential", .bool settings.essential), ("Image", settings.image.name.toJson)]
        ++ logging ++ [("Name", .str id)]))) fun _ _ => True := by
  refine obeys_forget (obeys_push valid.itself (by decide) ?_ fun r type tidy =>
    tidy_push_container type tidy (named_entry plain))
  refine within_entry (image_name_within image) fun entry member => (late entry member).imp ?_
  exact fun _ admits => ⟨by decide, admits _ (by decide)⟩

theorem add_variables_obeys {c : Container} {entries : List (String × Value)} (valid : c.Valid s)
    (late : ∀ entry ∈ entries, Json.Within (AdmitsLate t s) entry.2.toJson) :
    Obeys t s (entries.forM fun entry => c.addEnvironment entry.1 entry.2) fun _ _ => True := by
  refine obeys_forM trivial fun s' more _ entry member => ?_
  refine Container.add_environment_obeys (valid.grows more) ?_
  exact (late entry member).imp fun _ admits => admits.grows more

theorem Valid.with_essential {c : Container} (valid : task.Valid s) (container : c.Valid s) :
    ({ task with essentials := task.essentials ++ [c] } : TaskDefinition).Valid s := by
  obtain ⟨itself, taskRole, executionRole, role, essentials⟩ := valid
  refine ⟨itself, taskRole, executionRole, role, fun other member => ?_⟩
  rcases List.mem_append.mp member with before | last
  · exact essentials other before
  · cases List.mem_singleton.mp last
    exact container

/-- What comes of adding a container to a task definition. -/
structure Extended (task : TaskDefinition) (result : TaskDefinition × Container) (s : Stack) :
    Prop where
  definition : result.1.Valid s
  container : result.2.Valid s
  same : result.1 = { task with essentials := result.1.essentials }

theorem add_container_obeys {settings : ContainerSettings} (valid : task.Valid s)
    (admitted : Admitted t s task id settings) :
    Obeys t s (task.addContainer id settings) (Extended task) := by
  unfold addContainer
  refine obeys_unless fun _ => ?_
  extract_lets finish log
  -- the entry, with what it tells about logging, and then all that is added to it
  have finished : ∀ (s₁ : Stack) (logging : Fields), s.Grows s₁ →
      (∀ entry ∈ logging, entry.1 = "LogConfiguration" ∧
        Json.Within (AdmitsLate t s₁) entry.2) →
      Obeys t s₁ (finish logging) (Extended task) := by
    intro s₁ logging first listed
    refine obeys_get ?_
    extract_lets index container more
    refine obeys_bind (push_entry_obeys (valid.grows first) admitted.image
      (fun entry member => (listed entry member).1) fun entry member => (listed entry member).2)
      fun _ s₂ second _ => ?_
    have entered : ∀ (s₃ : Stack), s₂.Grows s₃ → Obeys t s₃ (more ()) (Extended task) := by
      intro s₃ third
      have all := Stack.grows_trans first (Stack.grows_trans second third)
      have container_there : container.Valid s₃ := ⟨_, all.at_ valid.itself⟩
      refine obeys_bind (add_variables_obeys container_there fun entry member => ?_)
        fun _ s₄ fourth _ => obeys_pure ?_
      · exact (admitted.environment entry member).imp fun _ admits => admits.grows all
      · have task_last := valid.grows (Stack.grows_trans all fourth)
        have container_last := container_there.grows fourth
        split
        · exact ⟨task_last.with_essential container_last, container_last, rfl⟩
        · exact ⟨task_last, container_last, rfl⟩
    split
    · have container_there : container.Valid s₂ :=
        ⟨_, (Stack.grows_trans first second).at_ valid.itself⟩
      exact obeys_bind (Container.add_ports_obeys container_there) fun _ s₃ third _ =>
        entered s₃ third
    · exact entered s₂ (Stack.grows_refl s₂)
  have logged : ∀ s₁ : Stack, s.Grows s₁ → Obeys t s₁ (log ()) (Extended task) := by
    intro s₁ first
    simp only [log]
    split
    · next settings' asked =>
      refine obeys_bind (declare_logging_obeys (valid.grows first) admitted.policy
        (admitted.logs (by rw [asked]; simp))) fun configuration s₂ second within => ?_
      rw [pure_bind]
      exact finished s₂ _ (Stack.grows_trans first second) (by simpa using within)
    · rw [pure_bind]
      exact finished s₁ [] first (by simp)
  show Obeys t s _ (Extended task)
  split
  · exact obeys_bind (ImageAsset.grant_pull_obeys valid.executionRole admitted.policy)
      fun _ s₁ first _ => logged s₁ first
  · exact logged s (Stack.grows_refl s)

end TaskDefinition

end StackSynth
