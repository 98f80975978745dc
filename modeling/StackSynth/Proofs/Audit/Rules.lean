import StackSynth.Audit

/-!
The rules of the audit apart from each other. Each of them reports under a name of its own, so what
is reported under a name is what its rule finds.
-/
namespace StackSynth

theorem Template.mem_resources_iff {t : Template} {type id : String} {r : Resource} :
    (id, r) ∈ t.resourcesOfType type ↔ t.resource? id = some r ∧ r.type = type := by
  rw [resourcesOfType, List.mem_filter, beq_iff_eq, resource?, OrderedMap.get?_eq_some_iff]

namespace Audit

variable {t : Template} {f : Finding}

/-- What the rules find, each under the name that it reports. -/
def sections (t : Template) : List (String × List Finding) := [
  ("V001", clientsWithoutProviders t),
  ("V002", idleListeners t),
  ("V003", hastyServices t),
  ("V004", repeatedVariables t),
  ("V005", literalSecrets t),
  ("V006", openIngress t)]

theorem findings_eq (t : Template) : findings t = (sections t).flatMap Prod.snd := by
  simp [findings, sections]

theorem rule_of_section (t : Template) : ∀ part ∈ sections t, ∀ f ∈ part.2, f.rule = part.1 := by
  simp only [sections, List.forall_mem_cons]
  refine ⟨?_, ?_, ?_, ?_, ?_, ?_, List.forall_mem_nil _⟩
  · intro f found
    obtain ⟨client, -, found⟩ := List.mem_flatMap.mp found
    obtain ⟨provider, -, rfl⟩ := List.mem_map.mp found
    rfl
  · intro f found
    obtain ⟨listener, -, rfl⟩ := List.mem_map.mp found
    rfl
  · intro f found
    obtain ⟨⟨id, service⟩, -, found⟩ := List.mem_flatMap.mp found
    cases role : taskRole t service with
    | none => simp [role] at found
    | some role =>
      simp only [role] at found
      obtain ⟨policy, -, rfl⟩ := List.mem_map.mp found
      rfl
  · intro f found
    obtain ⟨definition, -, found⟩ := List.mem_flatMap.mp found
    obtain ⟨container, -, found⟩ := List.mem_flatMap.mp found
    obtain ⟨name, -, rfl⟩ := List.mem_map.mp found
    rfl
  · intro f found
    obtain ⟨provider, -, rfl⟩ := List.mem_map.mp found
    rfl
  · intro f found
    obtain ⟨rule, -, rfl⟩ := List.mem_map.mp found
    rfl

theorem mem_findings_iff : f ∈ findings t ↔ ∃ part ∈ sections t, f ∈ part.2 := by
  rw [findings_eq, List.mem_flatMap]

/-- The findings of some rules are what these rules find. -/
theorem filter_findings (t : Template) (keep : String → Bool) :
    (findings t).filter (fun f => keep f.rule) =
      ((sections t).filter fun part => keep part.1).flatMap Prod.snd := by
  rw [findings_eq]
  have each := rule_of_section t
  generalize sections t = parts at each
  induction parts with
  | nil => rfl
  | cons part rest ih =>
    obtain ⟨here, behind⟩ := List.forall_mem_cons.mp each
    rw [List.flatMap_cons, List.filter_append, ih behind, List.filter_cons]
    cases kept : keep part.1 with
    | true =>
      rw [if_pos rfl, List.flatMap_cons, List.filter_eq_self.mpr]
      intro f found
      rw [here f found, kept]
    | false =>
      rw [if_neg Bool.false_ne_true, List.filter_eq_nil_iff.mpr, List.nil_append]
      intro f found
      rw [here f found, kept]
      exact Bool.false_ne_true

end Audit

end StackSynth
