import StackSynth.Config.Decode
import StackSynth.Proofs.Json.Merge

/-!
Fields that are no setting: a document without them means the same, and so do documents laid over each
other.
-/
namespace StackSynth.Config

open StackSynth.Decode

def onlyFields (names : List String) : String → Option (Json → Json) :=
  fun name => if name ∈ names then some id else none

/-- The settings of each section. -/
def settingNames : List (String × List String) := [
  ("stack", ["name", "account", "region", "description"]),
  ("identity", ["google_client_id", "google_client_secret_name", "user_pool_domain",
    "callback_urls", "access_token_validity_minutes"]),
  ("certificate", ["domain_name", "validation"]),
  ("build", ["context", "exclude", "service_target", "lambda_target"]),
  ("logging", ["level", "json"]),
  ("output", ["outdir", "color"])]

/-- A document without the fields that are no section, and the fields of sections that are no
setting. -/
def known (doc : Json) : Json :=
  doc.prune fun name => (settingNames.lookup name).map fun names => Json.prune (onlyFields names)

section Prune

variable {σ : Type} {settings : List (Setting σ)} {keep : String → Option (Json → Json)}

/-- Fields that are dropped name no setting, and those that stay mean what they meant. -/
structure Harmless (keep : String → Option (Json → Json)) (settings : List (Setting σ)) : Prop where
  dropped : ∀ s ∈ settings, keep s.name ≠ none
  kept : ∀ s ∈ settings, ∀ f, keep s.name = some f → ∀ value before,
    s.apply (f value) before = s.apply value before

theorem apply_fields_prune (harmless : Harmless keep settings) (fields : Fields) (start : σ) :
    applyFields settings (Json.pruneFields keep fields) start =
      applyFields settings fields start := by
  induction fields generalizing start with
  | nil => rfl
  | cons field rest ih =>
    obtain ⟨key, value⟩ := field
    cases stays : keep key with
    | none =>
      have unnamed : settings.find? (·.name == key) = none := by
        refine List.find?_eq_none.mpr fun s listed same => ?_
        exact harmless.dropped s listed ((beq_iff_eq.mp same) ▸ stays)
      simpa [stays, applyFields, unnamed] using ih start
    | some f =>
      have pruned : Json.pruneFields keep ((key, value) :: rest) =
          (key, f value) :: Json.pruneFields keep rest := by simp [stays]
      rw [pruned, applyFields, applyFields]
      cases found : settings.find? (·.name == key) with
      | none => exact ih start
      | some s =>
        have same : s.name = key := by
          have same := List.find?_some found
          rwa [beq_iff_eq] at same
        have means := harmless.kept s (List.mem_of_find?_eq_some found) f (same ▸ stays) value start
        simp only [means]
        cases s.apply value start with
        | error e => rfl
        | ok between => exact ih between

theorem group_prune (harmless : Harmless keep settings) (name : String) (default : σ) (doc : Json) :
    group name settings default (doc.prune keep) = group name settings default doc := by
  cases doc with
  | obj fields => exact apply_fields_prune harmless fields default
  | _ => rfl

theorem harmless_only (settings : List (Setting σ)) :
    Harmless (onlyFields (settings.map (·.name))) settings := by
  have listed : ∀ s ∈ settings, s.name ∈ settings.map (·.name) := fun s => List.mem_map_of_mem
  refine ⟨fun s member => by simp [onlyFields, listed s member], fun s member f kept => ?_⟩
  rw [onlyFields, if_pos (listed s member)] at kept
  cases kept
  exact fun _ _ => rfl

end Prune

theorem section_known {σ β : Type} {settings : List (Setting β)} {name title : String} {default : β}
    {set : β → σ → σ} (listed : settingNames.lookup name = some (settings.map (·.name)))
    (f : Json → Json)
    (kept : ((settingNames.lookup name).map fun names => Json.prune (onlyFields names)) = some f)
    (value : Json) (before : σ) :
    (setting name (group title settings default) set).apply (f value) before =
      (setting name (group title settings default) set).apply value before := by
  rw [listed] at kept
  cases kept
  simp only [setting, group_prune (harmless_only settings)]

theorem config_known (doc : Json) : Decode.config (known doc) = Decode.config doc := by
  refine group_prune ⟨?_, ?_⟩ "Config" ({} : Config) doc
  · simp [setting, settingNames]
  · simp only [List.forall_mem_cons]
    exact ⟨section_known rfl, section_known rfl, section_known rfl, section_known rfl,
      section_known rfl, section_known rfl, List.forall_mem_nil _⟩

theorem known_merge (base doc : Json) (sorted : base.Sorted) (doc_sorted : doc.Sorted) :
    known (base.merge doc) = (known base).merge (known doc) := by
  have inner : ∀ names, Json.Commutes (onlyFields names) := by
    intro names key f kept base upper _ _
    rw [onlyFields] at kept
    split at kept <;> cases kept
    rfl
  refine Json.prune_merge (fun name f kept base upper sorted upper_sorted => ?_) base doc sorted
    doc_sorted
  obtain ⟨names, _, rfl⟩ := Option.map_eq_some_iff.mp kept
  exact Json.prune_merge (inner names) base upper sorted upper_sorted

theorem known_merged {docs : List Json} {base : Json} (sorted : base.Sorted)
    (docs_sorted : ∀ doc ∈ docs, doc.Sorted) :
    known (docs.foldl Json.merge base) = (docs.map known).foldl Json.merge (known base) := by
  induction docs generalizing base with
  | nil => rfl
  | cons doc rest ih =>
    rw [List.forall_mem_cons] at docs_sorted
    rw [List.foldl_cons, ih (Json.merge_sorted _ _ sorted docs_sorted.1) docs_sorted.2,
      known_merge _ _ sorted docs_sorted.1]
    rfl

end StackSynth.Config
