import StackSynth.Proofs.Constructs.ContainerEntries
import StackSynth.Proofs.Stack.Reached

/-!
Handles of containers. A handle knows the place of its entry in a list that other calls make longer,
also where they fail. Whatever calls come after another, each handle stays with its entry.
-/
namespace StackSynth

/-- A handle of a task definition, with the containers that were added by means of it, and whether
they are essential. -/
structure Held where
  task : TaskDefinition
  added : List (Container × Bool) := []

/-- A stack, with the handles that calls on it have given. -/
structure Workshop where
  stack : Stack
  tasks : List Held := []
  containers : List Added := []

/-- A call. Handles of definitions change, and so they are told by their number; whoever has one can
have a copy of it, which changes on its own. In between, anything may be done that leaves the lists
of containers as they are. -/
inductive ContainerCall
  | define (id : String) (settings : TaskSettings)
  | copy (task : Nat)
  | add (task : Nat) (id : String) (settings : ContainerSettings)
  | setVariable (c : Container) (name : String) (value : Value)
  | openPorts (c : Container) (ports : List PortMapping)
  | elsewhere (m : Declaring Unit) (keeps : KeepsContainers m)

namespace Workshop

/-- Does something for a container that was added, and takes note of it if it succeeds. -/
def give (w : Workshop) (c : Container) (m : Declaring Unit) (note : Added → Added) : Workshop :=
  if ∃ a ∈ w.containers, a.handle = c then
    match w.stack.run m with
    | (.ok _, stack) => { w with
        stack, containers := w.containers.map fun a => if a.handle = c then note a else a }
    | (.error _, stack) => { w with stack }
  else w

def after (w : Workshop) : ContainerCall → Workshop
  | .define id settings =>
    match w.stack.run (TaskDefinition.declare id settings) with
    | (.ok task, stack) => { w with stack, tasks := w.tasks ++ [⟨task, []⟩] }
    | (.error _, stack) => { w with stack }
  | .copy task => { w with tasks := w.tasks ++ w.tasks[task]?.toList }
  | .add task id settings =>
    match w.tasks[task]? with
    | none => w
    | some held =>
      match w.stack.run (held.task.addContainer id settings) with
      | (.ok (grown, c), stack) => {
          stack
          tasks := w.tasks.set task ⟨grown, held.added ++ [(c, settings.essential)]⟩
          containers := w.containers ++ [⟨c, settings.environment.entries, settings.ports⟩] }
      | (.error _, stack) => { w with stack }
  | .setVariable c name value =>
    w.give c (c.addEnvironment name value) fun a =>
      { a with environment := a.environment ++ [(name, value)] }
  | .openPorts c ports => w.give c (c.addPorts ports) fun a => { a with ports := a.ports ++ ports }
  | .elsewhere m _ => { w with stack := (w.stack.run m).2 }

def afterAll (w : Workshop) (calls : List ContainerCall) : Workshop := calls.foldl after w

/-- Each container has an entry of its own, which tells what was asked for. A definition knows those
of its containers that are essential, in the order in which they were added. -/
structure Sound (w : Workshop) : Prop where
  attached : ∀ a ∈ w.containers, a.Attached w.stack
  apart : (w.containers.map (·.handle.place)).Nodup
  essentials : ∀ held ∈ w.tasks,
    held.task.essentials = (held.added.filter (·.2)).map (·.1)
  known : ∀ held ∈ w.tasks, ∀ item ∈ held.added,
    item.1.taskDefinitionId = held.task.logicalId ∧ ∃ a ∈ w.containers, a.handle = item.1

variable {w : Workshop} {a : Added} {s : Stack}

theorem Sound.kept (sound : w.Sound) (keeps : w.stack.KeepsEntries s) :
    Sound { w with stack := s } :=
  ⟨fun a member => (sound.attached a member).kept keeps, sound.apart, sound.essentials,
    sound.known⟩

theorem Sound.with_task (sound : w.Sound) {task : TaskDefinition} (none : task.essentials = []) :
    Sound { w with tasks := w.tasks ++ [⟨task, []⟩] } := by
  refine ⟨sound.attached, sound.apart, ?_, ?_⟩
  · rw [List.forall_mem_append, List.forall_mem_singleton]
    exact ⟨sound.essentials, none⟩
  · rw [List.forall_mem_append, List.forall_mem_singleton]
    exact ⟨sound.known, List.forall_mem_nil _⟩

theorem Sound.copied (sound : w.Sound) (task : Nat) :
    Sound { w with tasks := w.tasks ++ w.tasks[task]?.toList } := by
  have old : ∀ held ∈ w.tasks ++ w.tasks[task]?.toList, held ∈ w.tasks := by
    rw [List.forall_mem_append]
    refine ⟨fun _ member => member, fun held member => ?_⟩
    exact List.mem_of_getElem? (Option.mem_toList.mp member)
  exact ⟨sound.attached, sound.apart, fun held member => sound.essentials held (old held member),
    fun held member => sound.known held (old held member)⟩

/-- The place of a new container is that of no other one. -/
theorem Sound.new_apart (sound : w.Sound) {c : Container} (free : c.entry? w.stack = none) :
    c.place ∉ w.containers.map (·.handle.place) := by
  intro member
  obtain ⟨b, listed, same⟩ := List.mem_map.mp member
  obtain ⟨fields, found, -⟩ := (sound.attached b listed).entry
  rw [Container.entry_of_place same, free] at found
  cases found

theorem Sound.with_container (sound : w.Sound) {task : Nat} {held : Held}
    {settings : ContainerSettings} {id : String} {t : TaskDefinition} {c : Container}
    (listed : w.tasks[task]? = some held)
    (adds : held.task.Adds id settings w.stack (.ok (t, c), s)) :
    Sound {
      stack := s
      tasks := w.tasks.set task ⟨t, held.added ++ [(c, settings.essential)]⟩
      containers := w.containers ++ [⟨c, settings.environment.entries, settings.ports⟩] } := by
  obtain ⟨rfl, -, own⟩ := adds.definition t c rfl
  obtain ⟨free, attached⟩ := adds.new _ c rfl
  have member := List.mem_of_getElem? listed
  constructor
  · rw [List.forall_mem_append, List.forall_mem_singleton]
    exact ⟨fun a old => (sound.attached a old).kept adds.keeps, attached⟩
  · rw [List.map_append]
    exact Stack.nodup_append_new sound.apart (sound.new_apart free)
  · intro other inside
    rcases List.mem_or_eq_of_mem_set inside with old | rfl
    · exact sound.essentials other old
    · rw [TaskDefinition.essentials_grown, sound.essentials held member, List.filter_append,
        List.map_append]
      cases settings.essential <;> rfl
  · intro other inside item asked
    have still {item : Container} (known : ∃ a ∈ w.containers, a.handle = item) :
        ∃ a ∈ w.containers ++ [⟨c, settings.environment.entries, settings.ports⟩],
          a.handle = item := by
      obtain ⟨a, listed, same⟩ := known
      exact ⟨a, List.mem_append_left _ listed, same⟩
    rcases List.mem_or_eq_of_mem_set inside with old | rfl
    · obtain ⟨task, known⟩ := sound.known other old item asked
      exact ⟨task, still known⟩
    · rw [TaskDefinition.id_grown]
      rcases List.mem_append.mp asked with before | last
      · obtain ⟨task, known⟩ := sound.known held member item before
        exact ⟨task, still known⟩
      · obtain rfl := List.mem_singleton.mp last
        exact ⟨own, _, List.mem_append_right _ (List.mem_singleton_self _), rfl⟩

/-- What is given to one container leaves the other ones as they are, since their places differ. -/
theorem Sound.given (sound : w.Sound) (member : a ∈ w.containers) {note : Added → Added}
    (same : ∀ b, (note b).handle = b.handle) (alone : a.handle.Alone w.stack s)
    (attached : (note a).Attached s) :
    Sound { w with
      stack := s, containers := w.containers.map fun b =>
        if b.handle = a.handle then note b else b } := by
  have handle (b : Added) : (if b.handle = a.handle then note b else b).handle = b.handle := by
    split
    · exact same b
    · rfl
  have sole : ∀ b ∈ w.containers, b.handle.place = a.handle.place → b = a := fun b listed =>
    List.inj_on_of_nodup_map sound.apart listed member
  constructor
  · rw [List.forall_mem_map]
    intro b listed
    by_cases own : b.handle = a.handle
    · rw [if_pos own, sole b listed (congrArg Container.place own)]
      exact attached
    · rw [if_neg own]
      have other : b.handle.place ≠ a.handle.place := by
        intro place
        exact own (congrArg Added.handle (sole b listed place))
      exact (sound.attached b listed).of_entry (alone b.handle other)
  · rw [List.map_map]
    simp only [Function.comp_def, handle]
    exact sound.apart
  · exact sound.essentials
  · intro held holds item asked
    obtain ⟨task, b, listed, found⟩ := sound.known held holds item asked
    exact ⟨task, _, List.mem_map_of_mem listed, (handle b).trans found⟩

/-- By cases of the call. -/
theorem Sound.after (sound : w.Sound) (call : ContainerCall) : (w.after call).Sound := by
  cases call with
  | define id settings =>
    have keeps := Container.keeps_entries_of_amends
      (amends_containers (TaskDefinition.declare_keeps_containers id settings) w.stack)
    rw [Workshop.after]
    rcases outcome : w.stack.run (TaskDefinition.declare id settings) with ⟨failure | task, s⟩
    · rw [outcome] at keeps
      exact sound.kept keeps
    · rw [outcome] at keeps
      obtain ⟨-, none⟩ := TaskDefinition.declare_gives outcome
      exact (sound.kept keeps).with_task none
  | copy task => exact sound.copied task
  | add task id settings =>
    rw [Workshop.after]
    cases listed : w.tasks[task]? with
    | none => exact sound
    | some held =>
      have adds := held.task.add_container_adds id settings w.stack
      dsimp only
      rcases outcome : w.stack.run (held.task.addContainer id settings) with
        ⟨failure | ⟨t, c⟩, s⟩
      · rw [outcome] at adds
        exact sound.kept adds.keeps
      · rw [outcome] at adds
        exact sound.with_container listed adds
  | setVariable c name value =>
    rw [Workshop.after, give]
    split
    · next known =>
      obtain ⟨a, member, rfl⟩ := known
      have setting := (sound.attached a member).setting name value
      generalize w.stack.run (a.handle.addEnvironment name value) = result at setting
      cases setting with
      | unnamed _ => exact sound
      | known _ => exact sound
      | set _ _ appends attached => exact sound.given member (fun _ => rfl) appends.others attached
    · exact sound
  | openPorts c ports =>
    rw [Workshop.after, give]
    split
    · next known =>
      obtain ⟨a, member, rfl⟩ := known
      obtain ⟨s, ran, appends, attached⟩ := (sound.attached a member).open_ports ports
      rw [ran]
      exact sound.given member (fun _ => rfl) appends.others attached
    · exact sound
  | elsewhere m keeps =>
    exact sound.kept (Container.keeps_entries_of_amends (amends_containers keeps w.stack))

theorem Sound.after_all (sound : w.Sound) (calls : List ContainerCall) :
    (w.afterAll calls).Sound := by
  induction calls generalizing w with
  | nil => exact sound
  | cons call rest ih => exact ih (sound.after call)

/-- Whatever containers are added to however many task definitions, whatever they are given, in
whatever order and wherever it fails: each handle leads to an entry of its own, which has the name
of the container and tells exactly what was asked for. What is appended by means of a handle is
appended there and changes nothing else, and a variable that is refused changes nothing. The default
container of a definition is the first essential one that was added. -/
theorem handles_of_calls (s : Stack) (calls : List ContainerCall) :
    let w := (Workshop.mk s [] []).afterAll calls
    w.Sound ∧
      (∀ held ∈ w.tasks, held.task.defaultContainer? = (held.added.find? (·.2)).map (·.1)) ∧
      ∀ a ∈ w.containers,
        (∀ name value, a.Setting name value w.stack
          (w.stack.run (a.handle.addEnvironment name value))) ∧
        ∀ ports, ∃ s', w.stack.run (a.handle.addPorts ports) = (.ok (), s') ∧
          a.handle.Appends "PortMappings" (ports.map PortMapping.toJson) w.stack s' := by
  intro w
  have none : (Workshop.mk s [] []).Sound :=
    ⟨List.forall_mem_nil _, List.nodup_nil, List.forall_mem_nil _, List.forall_mem_nil _⟩
  have sound : w.Sound := none.after_all calls
  refine ⟨sound, ?_, ?_⟩
  · intro held holds
    rw [TaskDefinition.defaultContainer?, sound.essentials held holds, List.head?_map,
      List.head?_filter]
  · intro a member
    have attached := sound.attached a member
    refine ⟨fun name value => attached.setting name value, fun ports => ?_⟩
    obtain ⟨s', ran, appends, -⟩ := attached.open_ports ports
    exact ⟨s', ran, appends⟩

/-- Of two containers, the second one is added after a call that fails half way. -/
example :
    let image : ContainerImage := .registry "nginx"
    let w := (Workshop.mk blank [] []).afterAll [.define "T" {}, .add 0 "web" { image },
      .add 0 "log" { image, environment := .ofList [("", .str "none")] }, .add 0 "log" { image },
      .setVariable ⟨"TD925BC7E", "web", 0⟩ "MODE" (.str "one"),
      .setVariable ⟨"TD925BC7E", "web", 0⟩ "MODE" (.str "two"),
      .openPorts ⟨"TD925BC7E", "log", 2⟩ [⟨3000, .tcp⟩]]
    w.containers.map (fun a => (a.handle.name, a.handle.environmentNames w.stack,
      a.handle.port? w.stack)) = [("web", ["MODE"], none), ("log", [], some 3000)] := by
  decide +kernel

end Workshop

end StackSynth
