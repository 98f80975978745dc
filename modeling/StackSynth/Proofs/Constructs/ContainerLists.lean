import StackSynth.Compute.TaskDefinition
import StackSynth.Proofs.Constructs.Amended
import StackSynth.Proofs.Stack.Lists

/-!
Lists of containers. A container is added in two parts: what is done before it has an entry leaves
all lists of containers as they are, and what is done with the entry touches no other one.
-/
namespace StackSynth

/-- The same containers are listed, with the same entries. -/
def Resource.SameContainers (r r' : Resource) : Prop := Container.listed r' = Container.listed r

namespace Container

theorem entry_eq (c : Container) (s : Stack) :
    c.entry? s = (s.listAt c.taskDefinitionId listKey)[c.index]? := by
  rw [Container.entry?, Stack.listAt]
  cases s.resource? c.taskDefinitionId <;> rfl

/-- The first port is told by the lists of containers. -/
theorem port_of_lists {s s' : Stack} (same : ∀ id, s'.listAt id listKey = s.listAt id listKey)
    (c : Container) : c.port? s' = c.port? s := by
  rw [port?, port?, entry_eq, entry_eq, same]

end Container

section Keeping

variable {α : Type} {s s' : Stack}

/-- The action leaves all lists of containers as they are. -/
abbrev KeepsContainers (m : Declaring α) : Prop := DoneBy (Deed.Amends Resource.SameContainers) m

theorem keeps_containers_grant {role : Role} {kind : GrantKind} {target : String}
    {statements : List PolicyStatement} :
    KeepsContainers (role.grant kind target statements) := by
  apply done_by_grant
  intro policy statement grown taken
  unfold Role.withStatement? at taken
  split at taken
  · split at taken
    · cases taken
      exact Resource.list_at_with_property (by decide) _
    · cases taken
  · cases taken

theorem keeps_containers_declare {path : List String} {r : Resource} :
    KeepsContainers (Stack.declare path r) :=
  done_by_declare trivial

theorem amends_containers {m : Declaring α} (keeps : KeepsContainers m) (s : Stack) :
    s.Amends Resource.SameContainers (s.run m).2 :=
  amends_done (P := Resource.SameContainers) (fun _ => rfl)
    (fun _ _ _ first second => second.trans first) keeps (fun _ amends => amends) s

end Keeping

namespace TaskDefinition

/-- The definition as it is once the container is added. -/
def grown (t : TaskDefinition) (settings : ContainerSettings) (c : Container) : TaskDefinition :=
  if settings.essential then { t with essentials := t.essentials ++ [c] } else t

theorem essentials_grown {t : TaskDefinition} {settings : ContainerSettings} (c : Container) :
    (t.grown settings c).essentials = t.essentials ++ if settings.essential then [c] else [] := by
  rw [grown]
  split
  · rfl
  · exact (List.append_nil _).symm

theorem id_grown {t : TaskDefinition} {settings : ContainerSettings} (c : Container) :
    (t.grown settings c).logicalId = t.logicalId := by
  rw [grown]
  split <;> rfl

/-! The parts in which a container is added. -/

variable {t : TaskDefinition} {id : String} {settings : ContainerSettings} {s s' : Stack}

/-- Lets the task be started with an image. -/
def allowPull (t : TaskDefinition) : ContainerImage → Declaring Unit
  | .asset _ => do let _ ← ImageAsset.grantPull t.executionRole
  | .registry _ => pure ()

/-- What the entry of a container tells about logging, for which a group is declared. -/
def loggingFields (t : TaskDefinition) (id : String) : Option LogSettings → Declaring Fields
  | some log => do
    let configuration ← t.declareLogging id log
    pure [("LogConfiguration", configuration)]
  | none => pure []

/-- What comes before the entry of a container. -/
def prepare (t : TaskDefinition) (id : String) (settings : ContainerSettings) :
    Declaring Fields := do
  t.allowPull settings.image
  t.loggingFields id settings.logging

/-- The entry of a container when it is made. -/
def entryFor (id : String) (settings : ContainerSettings) (logging : Fields) : Fields :=
  [("Essential", .bool settings.essential), ("Image", settings.image.name.toJson)] ++ logging
    ++ [("Name", .str id)]

/-- The handle of a container that is added next. -/
def nextContainer (t : TaskDefinition) (id : String) (s : Stack) : Container :=
  ⟨t.logicalId, id, (s.resource? t.logicalId).elim 0 fun r => (Container.listed r).length⟩

/-- Gives a container the ports and the variables that it has from the start. -/
def furnish (c : Container) (settings : ContainerSettings) : Declaring Unit := do
  if !settings.ports.isEmpty then c.addPorts settings.ports
  settings.environment.entries.forM fun entry => c.addEnvironment entry.1 entry.2

/-- Makes the entry and furnishes it. -/
def enter (t : TaskDefinition) (id : String) (settings : ContainerSettings) (logging : Fields) :
    Declaring (TaskDefinition × Container) := do
  let c := t.nextContainer id (← get)
  Stack.pushProperty t.logicalId Container.listKey (.obj (entryFor id settings logging))
  furnish c settings
  return (t.grown settings c, c)

theorem add_container_eq (new : ∀ c ∈ t.essentials, c.name ≠ id) :
    t.addContainer id settings = t.prepare id settings >>= t.enter id settings := by
  have unknown : ¬ t.essentials.any (·.name == id) = true := by
    intro known
    obtain ⟨c, member, same⟩ := List.any_eq_true.mp known
    exact new c member (beq_iff_eq.mp same)
  rw [addContainer, if_neg unknown]
  extract_lets finish start
  have finished : t.enter id settings = finish := by
    funext logging
    unfold enter furnish
    simp only [finish]
    cases settings.ports.isEmpty with
    | true => rfl
    | false =>
      simp only [Bool.not_false, if_true, bind_assoc]
      rfl
  have started : start () = t.loggingFields id settings.logging >>= finish := by
    simp only [start]
    cases settings.logging with
    | none => rfl
    | some log => exact (bind_assoc _ _ _).symm
  rw [finished, prepare, bind_assoc, ← started]
  cases settings.image with
  | asset image => rw [allowPull, bind_assoc]; rfl
  | registry name => rfl

theorem run_add_container_known {c : Container} (member : c ∈ t.essentials)
    (settings : ContainerSettings) (s : Stack) :
    s.run (t.addContainer c.name settings) =
      (.error (.invalidProps t.logicalId s!"container '{c.name}' already exists"), s) := by
  have known : t.essentials.any (·.name == c.name) = true :=
    List.any_eq_true.mpr ⟨c, member, beq_iff_eq.mpr rfl⟩
  rw [addContainer, if_pos known]
  rfl

theorem declare_logging_keeps_containers (t : TaskDefinition) (id : String)
    (settings : LogSettings) : KeepsContainers (t.declareLogging id settings) := by
  have group : KeepsContainers
      (LogGroup.declare (t.path ++ [id]) "LogGroup" settings.retention .retain) :=
    made_of_bind keeps_containers_declare fun _ => made_of_pure
  apply made_of_bind group
  intro group
  exact made_of_bind keeps_containers_grant fun _ => made_of_pure

theorem prepare_keeps_containers (t : TaskDefinition) (id : String)
    (settings : ContainerSettings) : KeepsContainers (t.prepare id settings) := by
  have pull : KeepsContainers (t.allowPull settings.image) := by
    cases settings.image with
    | asset image => exact made_of_bind keeps_containers_grant fun _ => made_of_pure
    | registry name => exact made_of_pure
  apply made_of_bind pull
  intro _
  cases settings.logging with
  | none => exact made_of_pure
  | some log => exact made_of_bind (t.declare_logging_keeps_containers id log) fun _ => made_of_pure

theorem declare_keeps_containers (id : String) (settings : TaskSettings) :
    KeepsContainers (TaskDefinition.declare id settings) := by
  have role (given : Option Role) (roleId : String) :
      KeepsContainers (roleOr given id roleId) := by
    cases given with
    | none => exact made_of_bind keeps_containers_declare fun _ => made_of_pure
    | some role => exact made_of_pure
  unfold TaskDefinition.declare
  apply made_of_unless
  apply made_of_bind (role _ _)
  intro taskRole
  apply made_of_bind (role _ _)
  intro executionRole
  apply made_of_bind made_of_get
  intro s
  apply made_of_bind (made_of_lift _)
  intro family
  exact made_of_bind keeps_containers_declare fun _ => made_of_pure

/-- A definition starts with no containers. -/
theorem declare_gives {settings : TaskSettings}
    (declared : s.run (declare id settings) = (.ok t, s')) :
    (∃ r, s'.resource? t.logicalId = some r ∧ Container.listed r = []) ∧ t.essentials = [] := by
  unfold declare at declared
  obtain ⟨-, declared⟩ := run_unless_ok declared
  obtain ⟨taskRole, s₁, -, declared⟩ := run_bind_ok declared
  obtain ⟨executionRole, s₂, -, declared⟩ := run_bind_ok declared
  obtain ⟨_, s₃, -, declared⟩ := run_bind_ok declared
  obtain ⟨family, s₄, -, declared⟩ := run_bind_ok declared
  obtain ⟨logicalId, s₅, entered, given⟩ := run_bind_ok declared
  cases given
  obtain ⟨-, -, rfl⟩ := Stack.run_declare_ok entered
  refine ⟨⟨resourceFor settings taskRole executionRole family, ?_, rfl⟩, rfl⟩
  rw [Stack.resource_insert, if_pos rfl]

/-- Before there is an entry, nothing is known of a container but where its output goes. -/
theorem prepare_gives {logging : Fields}
    (prepared : s.run (t.prepare id settings) = (.ok logging, s')) :
    ∀ entry ∈ logging, entry.1 = "LogConfiguration" := by
  obtain ⟨_, s₁, -, logged⟩ := run_bind_ok prepared
  cases asked : settings.logging with
  | none =>
    rw [asked] at logged
    cases logged
    exact List.forall_mem_nil _
  | some log =>
    rw [asked] at logged
    obtain ⟨configuration, s₂, -, given⟩ := run_bind_ok logged
    cases given
    exact List.forall_mem_singleton.mpr rfl

/-- An entry starts with its name, and with no list of its own. -/
theorem get?_entry_for {key : String} {logging : Fields}
    (plain : ∀ entry ∈ logging, entry.1 = "LogConfiguration")
    (other : key ∉ ["Essential", "Image", "LogConfiguration"]) :
    Fields.get? key (entryFor id settings logging) =
      if key = "Name" then some (.str id) else none := by
  simp only [List.mem_cons, List.not_mem_nil, or_false, not_or] at other
  obtain ⟨essential, image, log⟩ := other
  have unset : Fields.get? key ([("Essential", .bool settings.essential),
      ("Image", settings.image.name.toJson)] ++ logging) = none := by
    rw [Fields.get?_eq_none_iff]
    intro entry member
    rcases List.mem_append.mp member with own | logged
    · rcases List.mem_pair.mp own with rfl | rfl
      · exact Ne.symm essential
      · exact Ne.symm image
    · rw [plain entry logged]
      exact Ne.symm log
  rw [entryFor, Fields.get?_append, unset]
  by_cases name : key = "Name"
  · rw [if_pos name, name]
    rfl
  · rw [if_neg name, Option.none_or, Fields.get?, if_neg (Ne.symm name)]
    rfl

end TaskDefinition

end StackSynth
