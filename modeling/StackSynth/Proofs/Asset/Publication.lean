import StackSynth.Assembly.Manifest
import StackSynth.Proofs.Asset.Source
import StackSynth.Proofs.Constructs.Composed
import StackSynth.Proofs.Stack.Reached
import StackSynth.Proofs.Template.RoundTrip
import StackSynth.Proofs.Template.Substitution

/-!
What a template pulls is what its assembly publishes. An image is pulled by a name with placeholders
for the account and the region; the list of assets says in plain words where it is pushed to. Of the
images with one hash the first is kept, whatever happens to the stack before and after.
-/
namespace StackSynth

/-! The assets of a stack: of all that are entered, the first with each hash. -/

namespace ImageSource

/-- Enters a source among others, unless its hash is there. -/
def enter (assets : List ImageSource) (source : ImageSource) : List ImageSource :=
  if assets.any (·.hash == source.hash) then assets else assets ++ [source]

variable (hash : String)

theorem filter_enter (assets : List ImageSource) (source : ImageSource) :
    (enter assets source).filter (·.hash == hash) =
      match assets.filter (·.hash == hash) with
      | [] => [source].filter (·.hash == hash)
      | found => found := by
  cases kept : assets.filter (·.hash == hash) with
  | nil =>
    have others : ∀ other ∈ assets, other.hash ≠ hash := by
      simpa [List.filter_eq_nil_iff] using kept
    by_cases own : source.hash = hash
    · have new : assets.any (·.hash == source.hash) = false := by
        rw [List.any_eq_false]
        intro other listed same
        exact others other listed ((beq_iff_eq.mp same).trans own)
      rw [enter, new, if_neg Bool.false_ne_true, List.filter_append, kept, List.nil_append]
    · have skipped : [source].filter (·.hash == hash) = [] := by simp [own]
      rw [enter]
      split
      · exact kept.trans skipped.symm
      · rw [List.filter_append, kept, List.nil_append]
  | cons first rest =>
    rw [enter]
    split
    · exact kept
    · next new =>
      have own : source.hash ≠ hash := by
        rintro rfl
        have listed : first ∈ assets.filter (·.hash == source.hash) := kept ▸ List.mem_cons_self
        obtain ⟨member, same⟩ := List.mem_filter.mp listed
        exact new (List.any_eq_true.mpr ⟨first, member, same⟩)
      rw [List.filter_append, kept, List.filter_singleton, beq_false_of_ne own]
      simp

/-- By induction on the sources: the first one with the hash stays, unless one was there before. -/
theorem filter_entered (sources assets : List ImageSource) :
    (sources.foldl enter assets).filter (·.hash == hash) =
      match assets.filter (·.hash == hash) with
      | [] => (sources.find? (·.hash == hash)).toList
      | found => found := by
  induction sources generalizing assets with
  | nil => cases kept : assets.filter (·.hash == hash) <;> simp [kept]
  | cons source rest ih =>
    rw [List.foldl_cons, ih, filter_enter]
    cases assets.filter (·.hash == hash) with
    | nil =>
      by_cases own : source.hash = hash
      · simp [own]
      · simp [own]
    | cons first others => rfl

end ImageSource

/-! Runs of calls and operations, failed ones included. -/

namespace Act

/-- The source that is entered among the assets, unless its hash is there. A function that is refused
for its settings has no image. -/
def entered? : Act → Option ImageSource
  | call c => c.asset?
  | operate (.image files path settings) => (ImageAsset.sourceOf files path settings).toOption
  | operate (.function files id settings) =>
    match settings.check id with
    | .ok () => (ImageAsset.sourceOf files [id, "AssetImage"] settings.image).toOption
    | .error _ => none
  | operate _ => none

/-- The image comes of the act, by itself or as that of a function. -/
inductive Yields (s : Stack) : Act → ImageAsset → Prop
  | image {files : FileTree} {path : List String} {settings : ImageAsset.Settings} {a : ImageAsset}
      (made : (s.run (ImageAsset.declare files path settings)).1 = .ok a) :
      Yields s (operate (.image files path settings)) a
  | function {files : FileTree} {id : String} {settings : FunctionSettings} {a : ImageAsset}
      (allowed : settings.check id = .ok ())
      (made : (s.run (ImageAsset.declare files [id, "AssetImage"] settings.image)).1 = .ok a) :
      Yields s (operate (.function files id settings)) a

end Act

namespace Stack

variable {α : Type} {m : Declaring α} {s : Stack}

theorem assets_after (s : Stack) (call : StackCall) :
    (s.after call).assets = call.asset?.toList.foldl ImageSource.enter s.assets := by
  have edited : ∀ id f, (s.run (edit id f)).2.assets = s.assets := by
    intro id f
    rw [run_edit]
    split <;> rfl
  have waited : ∀ dependent path, (s.run (waitForPath dependent path)).2.assets = s.assets := by
    intro dependent path
    rw [waitForPath, run_modifyGet]
    dsimp only
    split <;> rfl
  cases call with
  | declare path r =>
    rw [after, StackCall.action, run_map, run_declare]
    cases LogicalId.ofPath path with
    | error e => rfl
    | ok id =>
      dsimp only
      split <;> rfl
  | edit id f => exact edited id f
  | pushProperty id key value => exact edited id _
  | waitFor dependent dependency => exact waited dependent.logicalId dependency.path
  | waitForPath dependent path => exact waited dependent path
  | recordGrant g =>
    rw [after, StackCall.action, run_map, recordGrant, run_modifyGet]
    dsimp only
    split <;> rfl
  | addAsset source =>
    rw [after, StackCall.action, addAsset, run_modifyGet]
    change _ = ImageSource.enter s.assets source
    rw [ImageSource.enter]
    dsimp only
    split <;> rfl
  | addOutput id value description =>
    rw [after, StackCall.action, run_add_output]
    split <;> rfl
  | setDescription text => rfl

theorem assets_asset_free (free : AssetFree m) (s : Stack) : (s.run m).2.assets = s.assets := by
  obtain ⟨calls, quiet, same⟩ := free s
  rw [same]
  clear same
  induction calls generalizing s with
  | nil => rfl
  | cons call rest ih =>
    rw [List.forall_mem_cons] at quiet
    refine (ih (s.after call) quiet.2).trans ?_
    rw [assets_after, quiet.1]
    rfl

end Stack

namespace ImageAsset

theorem run_declare (s : Stack) (files : FileTree) (path : List String) (settings : Settings) :
    s.run (declare files path settings) =
      match sourceOf files path settings with
      | .ok source => (.ok ⟨path, source⟩, s.after (.addAsset source))
      | .error e => (.error e, s) := by
  rw [declare, Stack.run_bind, Stack.run_lift]
  cases sourceOf files path settings <;> rfl

end ImageAsset

namespace Act

theorem leaves_image (s : Stack) (files : FileTree) (path : List String)
    (settings : ImageAsset.Settings) : (operate (.image files path settings)).leaves s =
      match ImageAsset.sourceOf files path settings with
      | .ok source => s.after (.addAsset source)
      | .error _ => s := by
  rw [leaves, Operation.action, Operation.gives, Stack.run_map, ImageAsset.run_declare]
  cases ImageAsset.sourceOf files path settings <;> rfl

theorem leaves_function (s : Stack) (files : FileTree) (id : String)
    (settings : FunctionSettings) : (operate (.function files id settings)).leaves s =
      match settings.check id, ImageAsset.sourceOf files [id, "AssetImage"] settings.image with
      | .ok (), .ok source => ((s.after (.addAsset source)).run
          (LambdaFunction.declareWith id settings ⟨[id, "AssetImage"], source⟩)).2
      | _, _ => s := by
  rw [leaves, Operation.action, Operation.gives, Stack.run_map, LambdaFunction.declare_eq,
    Stack.run_bind, Stack.run_lift]
  cases settings.check id with
  | error e => rfl
  | ok _ =>
    simp only
    rw [Stack.run_bind, ImageAsset.run_declare]
    cases ImageAsset.sourceOf files [id, "AssetImage"] settings.image <;> rfl

end Act

namespace Stack

theorem assets_left_by_one (s : Stack) (act : Act) :
    (act.leaves s).assets = act.entered?.toList.foldl ImageSource.enter s.assets := by
  cases act with
  | call c => exact assets_after s c
  | operate op =>
    by_cases without : op.imageSettings? = none
    · rw [Act.leaves, assets_asset_free (asset_free_of_ordinary (Operation.ordinary without))]
      cases op <;> first | rfl | cases without
    · cases op with
      | image files path settings =>
        rw [Act.leaves_image, Act.entered?]
        cases ImageAsset.sourceOf files path settings with
        | error e => rfl
        | ok source => exact assets_after s _
      | function files id settings =>
        rw [Act.leaves_function, Act.entered?]
        cases settings.check id with
        | error e => rfl
        | ok _ =>
          cases ImageAsset.sourceOf files [id, "AssetImage"] settings.image with
          | error e => rfl
          | ok source =>
            have ordinary := LambdaFunction.declare_with_ordinary id settings
              ⟨[id, "AssetImage"], source⟩
            exact (assets_asset_free (asset_free_of_ordinary ordinary) _).trans (assets_after s _)
      | _ => exact absurd rfl without

/-- By induction on the acts. -/
theorem assets_left_by (s : Stack) (acts : List Act) :
    (s.leftBy acts).assets = (acts.filterMap Act.entered?).foldl ImageSource.enter s.assets := by
  induction acts generalizing s with
  | nil => rfl
  | cons act rest ih =>
    refine (ih (act.leaves s)).trans ?_
    rw [assets_left_by_one]
    cases entered : act.entered? <;> simp [entered]

theorem environment_after_all (s : Stack) (calls : List StackCall) :
    (s.afterAll calls).environment = s.environment := by
  induction calls generalizing s with
  | nil => rfl
  | cons call rest ih =>
    refine (ih (s.after call)).trans ?_
    have change := after_change s call
    generalize s.after call = s' at change ⊢
    cases change <;> rfl

theorem environment_left_by_one (s : Stack) (act : Act) :
    (act.leaves s).environment = s.environment := by
  cases act with
  | call c => exact environment_after_all s [c]
  | operate op =>
    obtain ⟨calls, _, same⟩ := op.made_of_calls s
    rw [Act.leaves, same]
    exact environment_after_all s calls

theorem environment_left_by (s : Stack) (acts : List Act) :
    (s.leftBy acts).environment = s.environment := by
  induction acts generalizing s with
  | nil => rfl
  | cons act rest ih => exact (ih (act.leaves s)).trans (environment_left_by_one s act)

end Stack

namespace ImageAsset

variable {s : Stack} {act : Act} {a : ImageAsset}

theorem entered_of_declared {files : FileTree} {path : List String} {settings : Settings}
    (made : (s.run (declare files path settings)).1 = .ok a) :
    (sourceOf files path settings).toOption = some a.source ∧ a.Plain := by
  rw [run_declare] at made
  cases found : sourceOf files path settings with
  | error e =>
    rw [found] at made
    cases made
  | ok source =>
    rw [found] at made
    cases made
    exact ⟨rfl, source_of_plain found⟩

theorem entered_of_yields (yields : act.Yields s a) : act.entered? = some a.source ∧ a.Plain := by
  cases yields with
  | image made => exact entered_of_declared made
  | function allowed made =>
    rw [Act.entered?, allowed]
    exact entered_of_declared made

/-- The name that the image is pulled under, once the account and the region are known. -/
theorem uri_in (plain : a.Plain) (e : Environment) :
    a.uri.textIn? e = some (s!"{e.account}.dkr.ecr.{e.region}.$\x7bAWS::URLSuffix\x7d/"
      ++ s!"{Bootstrap.repositoryName e.account e.region}:{a.hash}") := by
  have account : e.parameter? "AWS::AccountId" = some e.account := rfl
  have region : e.parameter? "AWS::Region" = some e.region := rfl
  have suffix : e.parameter? "AWS::URLSuffix" = none := rfl
  rw [uri, Value.textIn?, uri_text,
    Substitution.fill_known (by decide) (by decide) account,
    Substitution.fill_known (by decide) (by decide) region,
    Substitution.fill_unknown (by decide) (by decide) suffix,
    Substitution.fill_known (by decide) (by decide) account,
    Substitution.fill_known (by decide) (by decide) region,
    Substitution.fill_plain plain.behind_colon]
  congr 1
  apply String.toList_injective
  simp [toString, Bootstrap.repositoryName, Bootstrap.qualifier]

end ImageAsset

namespace Assembly

/-- The images that a list of assets has under a hash. -/
def imagesUnder (hash : String) (assets : Json) : List Json :=
  ((((assets.field? "dockerImages").bind Json.asObj?).getD []).filter (·.1 == hash)).map (·.2)

/-- The image is pushed to the one place that it is pulled from, and built as the source says. -/
structure Publishes (e : Environment) (a : ImageAsset) (source : ImageSource) (entry : Json) :
    Prop where
  place : ∃ destination repository tag,
    entry.field? "destinations" = some (.obj [(s!"{e.account}-{e.region}", destination)]) ∧
    destination.field? "repositoryName" = some (.str repository) ∧
    destination.field? "imageTag" = some (.str tag) ∧
    a.uri.textIn? e = some
      (s!"{e.account}.dkr.ecr.{e.region}.$\x7bAWS::URLSuffix\x7d/" ++ s!"{repository}:{tag}")
  target : (entry.field? "source").bind (·.field? "dockerBuildTarget") =
    source.options.target.map .str
  exclude : (entry.field? "source").bind (·.field? "dockerExclude") =
    if source.options.exclude.isEmpty then none else some (.strs source.options.exclude)
  file : (entry.field? "source").bind (·.field? "dockerFile") = source.options.file.map .str

theorem images_under_hash (s : Stack) (templateHash hash : String) :
    imagesUnder hash (assetsJson s templateHash) =
      (s.assets.filter (·.hash == hash)).map (imageEntry s.environment) := by
  change ((s.assets.map fun source => (source.hash, imageEntry s.environment source)).filter
    (·.1 == hash)).map (·.2) = _
  rw [List.filter_map, List.map_map]
  rfl

/-- What a source says of the build; what it leaves open is left out. -/
theorem image_source_fields (source : ImageSource) :
    (imageSourceJson source).field? "dockerBuildTarget" = source.options.target.map .str ∧
      (imageSourceJson source).field? "dockerExclude" =
        (if source.options.exclude.isEmpty then none else some (.strs source.options.exclude)) ∧
      (imageSourceJson source).field? "dockerFile" = source.options.file.map .str := by
  rw [imageSourceJson]
  cases source.options.target <;> cases source.options.exclude <;>
    cases source.options.file <;> simp [optionalText, Json.field?, Fields.get?]

theorem publishes_entry {a : ImageAsset} {source : ImageSource} (plain : a.Plain)
    (same : source.hash = a.hash) (e : Environment) :
    Publishes e a source (imageEntry e source) where
  place := ⟨_, _, _, rfl, rfl, rfl, same ▸ ImageAsset.uri_in plain e⟩
  target := (image_source_fields source).1
  exclude := (image_source_fields source).2.1
  file := (image_source_fields source).2.2

theorem assets_json_exact (s : Stack) (templateHash : String) :
    (assetsJson s templateHash).Exact := by
  have source : ∀ source, (imageSourceJson source).Exact := by
    intro source
    rw [imageSourceJson]
    cases source.options.target <;> cases source.options.exclude <;>
      cases source.options.file <;>
      simp [optionalText, Json.Exact, Json.FieldsExact, JsonTree.texts_exact]
  have images : Json.FieldsExact
      (s.assets.map fun source => (source.hash, imageEntry s.environment source)) := by
    refine Json.fields_exact_iff.mpr (List.forall_mem_map.mpr fun image _ => ?_)
    exact ⟨trivial, source image, ⟨⟨trivial, trivial, trivial, trivial⟩, trivial⟩, trivial⟩
  exact ⟨trivial, ⟨⟨⟨trivial, trivial, trivial⟩, ⟨⟨trivial, trivial, trivial, trivial⟩, trivial⟩,
    trivial⟩, trivial⟩, images, trivial⟩

theorem documents_of_template {s : Stack} {t : Template} (made : s.synthesize = .ok t) :
    ∃ d, documents s = .ok d := by
  rw [documents, made]
  exact ⟨_, rfl⟩

theorem assets_of_documents {s : Stack} {d : Documents} (written : documents s = .ok d) :
    ∃ templateHash, d.assets = (assetsJson s templateHash).pretty := by
  rw [documents] at written
  obtain ⟨t, _, written⟩ := Outcome.bind_ok written
  cases written
  exact ⟨_, rfl⟩

/-- A source that is kept for the hash of an image publishes the image. -/
theorem published_of_kept {s : Stack} {a : ImageAsset} {source : ImageSource} {d : Documents}
    (plain : a.Plain) (kept : s.assets.filter (·.hash == a.hash) = [source])
    (written : documents s = .ok d) :
    ∃ assets entry, assets.Exact ∧ JsonTree.ofText? d.assets = some assets.tree ∧
      imagesUnder a.hash assets = [entry] ∧ Publishes s.environment a source entry := by
  have same : source.hash = a.hash := by
    have listed : source ∈ s.assets.filter (·.hash == a.hash) := kept ▸ List.mem_cons_self
    exact beq_iff_eq.mp (List.mem_filter.mp listed).2
  obtain ⟨templateHash, text⟩ := assets_of_documents written
  have exact_ := assets_json_exact s templateHash
  refine ⟨assetsJson s templateHash, imageEntry s.environment source, exact_, ?_, ?_, ?_⟩
  · rw [text, JsonTree.tree_of_text exact_]
  · rw [images_under_hash, kept, List.map_singleton]
  · exact publishes_entry plain same s.environment

end Assembly

/-- Whatever is done to a stack before and after: an image that was asked for is among the assets
once, as the first source with its hash, and the list of assets publishes it under this hash. -/
theorem images_published {name : String} {environment : Environment} {start : Stack}
    (started : Stack.make name environment = .ok start) {before : List Act} {act : Act}
    {a : ImageAsset} (yields : act.Yields (start.leftBy before) a) (after : List Act) :
    ∃ first,
      ((before ++ act :: after).filterMap Act.entered?).find? (·.hash == a.hash) = some first ∧
      (start.leftBy (before ++ act :: after)).assets.filter (·.hash == a.hash) = [first] ∧
      ∀ d, Assembly.documents (start.leftBy (before ++ act :: after)) = .ok d →
        ∃ assets entry, assets.Exact ∧ JsonTree.ofText? d.assets = some assets.tree ∧
          Assembly.imagesUnder a.hash assets = [entry] ∧
          Assembly.Publishes environment a first entry := by
  obtain ⟨entered, plain⟩ := ImageAsset.entered_of_yields yields
  have listed : a.source ∈ (before ++ act :: after).filterMap Act.entered? :=
    List.mem_filterMap.mpr ⟨act, by simp, entered⟩
  generalize before ++ act :: after = acts at listed ⊢
  obtain ⟨first, found⟩ : ∃ first, (acts.filterMap Act.entered?).find? (·.hash == a.hash) =
      some first := by
    rw [← Option.isSome_iff_exists, List.find?_isSome]
    exact ⟨a.source, listed, beq_iff_eq.mpr rfl⟩
  obtain rfl := Stack.make_ok started
  have kept := ImageSource.filter_entered a.hash (acts.filterMap Act.entered?) []
  rw [found, ← Stack.assets_left_by { name, environment }] at kept
  refine ⟨first, found, kept, fun d written => ?_⟩
  have published := Assembly.published_of_kept plain kept written
  rwa [Stack.environment_left_by] at published

/-- A function whose image is built from one file. -/
def oneFileFunction : FunctionSettings where
  image := ⟨"/", {}⟩
  memory := 128
  timeout := .ofSeconds 30

/-- An image, and a function with an image of the same hash. -/
def sharedImage : List Act := [
  .operate (.image .oneFile ["Image"] ⟨"/", {}⟩),
  .operate (.function .oneFile "Fn" oneFileFunction)]

theorem shared_image_published :
    Stack.make "Test" ⟨"123456789012", "us-east-1"⟩ = .ok blank ∧
      (blank.leftBy sharedImage).assets = [ImageAsset.oneFileSource ["Image"] {}] ∧
      ∃ d assets entry, Assembly.documents (blank.leftBy sharedImage) = .ok d ∧
        JsonTree.ofText? d.assets = some assets.tree ∧
        Assembly.imagesUnder (ImageAsset.oneFileSource [] {}).hash assets = [entry] ∧
        Assembly.Publishes ⟨"123456789012", "us-east-1"⟩
          ⟨["Fn", "AssetImage"], ImageAsset.oneFileSource ["Fn", "AssetImage"] {}⟩
          (ImageAsset.oneFileSource ["Image"] {}) entry := by
  have named : Stack.isName "Test" = true := by decide
  have started : Stack.make "Test" ⟨"123456789012", "us-east-1"⟩ = .ok blank := by
    rw [Stack.make, if_pos named]
    rfl
  have source : ∀ path, ImageAsset.sourceOf .oneFile path ⟨"/", {}⟩ =
      .ok (ImageAsset.oneFileSource path {}) := fun path => ImageAsset.one_file_source path rfl rfl
  have own : ∀ path, ImageAsset.sourceOf .oneFile path oneFileFunction.image =
      .ok (ImageAsset.oneFileSource path {}) := source
  have entered : sharedImage.filterMap Act.entered? = [ImageAsset.oneFileSource ["Image"] {},
      ImageAsset.oneFileSource ["Fn", "AssetImage"] {}] := by
    rw [sharedImage, List.filterMap_cons, List.filterMap_cons, Act.entered?, Act.entered?, source,
      own]
    rfl
  have yields : (Act.operate (.function .oneFile "Fn" oneFileFunction)).Yields
      (blank.leftBy [.operate (.image .oneFile ["Image"] ⟨"/", {}⟩)])
      ⟨["Fn", "AssetImage"], ImageAsset.oneFileSource ["Fn", "AssetImage"] {}⟩ := by
    refine .function rfl ?_
    rw [ImageAsset.run_declare, own]
  obtain ⟨first, found, _, publishes⟩ := images_published started yields []
  change (sharedImage.filterMap Act.entered?).find? _ = some first at found
  rw [entered] at found
  obtain rfl : ImageAsset.oneFileSource ["Image"] {} = first := by
    simpa [ImageAsset.hash, ImageAsset.oneFileSource] using found
  have synthesizes : (blank.leftBy sharedImage).synthesize.toOption.isSome = true := by
    rw [Stack.leftBy, sharedImage, List.foldl_cons, List.foldl_cons, List.foldl_nil,
      Act.leaves_image, source, Act.leaves_function, own]
    decide +kernel
  cases made : (blank.leftBy sharedImage).synthesize with
  | error e =>
    rw [made] at synthesizes
    cases synthesizes
  | ok t =>
    obtain ⟨d, written⟩ := Assembly.documents_of_template made
    obtain ⟨assets, entry, _, text, under, published⟩ := publishes d written
    refine ⟨started, ?_, d, assets, entry, written, text, under, published⟩
    rw [Stack.assets_left_by, entered]
    simp [blank, ImageSource.enter, ImageAsset.oneFileSource]

end StackSynth
