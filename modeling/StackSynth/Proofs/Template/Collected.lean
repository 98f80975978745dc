import StackSynth.Proofs.Template.Placeholders

/-!
The references in a value, told by its form alone: what a value without parts refers to, and that the
parts of any other follow each other from left to right. Written down as JSON a value has these
references and no others.
-/
namespace StackSynth

namespace Substitution

/-- What a text refers to: each placeholder whose name counts is one reference. -/
def Refers (text : String) (found : List Reference) : Prop :=
  ∃ cuts : Cuts, (cuts.Proper ∧ cuts.text = text.toList) ∧
    List.Forall₂ Denotes (cuts.names.filter (Counts ·)) found

variable {name : List Char} {ref : Reference} {text : String} {found : List Reference}

theorem denotes_iff : Denotes name ref ↔ Reference.ofDotted name = ref := by
  refine ⟨fun denotes => ?_, fun same => same ▸ denotes_of_dotted name⟩
  cases denotes with
  | whole plain => rw [Reference.ofDotted, Text.split_once_eq_none_iff.mpr plain]
  | dotted first => rw [Reference.ofDotted, Text.split_once_first first]

theorem denotes_unique : Relator.RightUnique Denotes := fun _ _ _ first second =>
  (denotes_iff.mp first).symm.trans (denotes_iff.mp second)

theorem refers_iff : Refers text found ↔ Reference.inSubstitution text.toList = found := by
  constructor
  · rintro ⟨cuts, ⟨proper, whole⟩, denoted⟩
    rw [← whole, Cuts.references_of_proper proper]
    exact List.right_unique_forall₂' denotes_unique (references_denoted cuts.names) denoted
  · rintro rfl
    obtain ⟨cuts, proper, whole⟩ := Cuts.exists_proper text.toList
    refine ⟨cuts, ⟨proper, whole⟩, ?_⟩
    rw [← whole, Cuts.references_of_proper proper]
    exact references_denoted cuts.names

end Substitution

namespace Value

mutual

/-- What a value refers to, from left to right. -/
inductive Refers : Value → List Reference → Prop
  | str (s : String) : Refers (.str s) []
  | number (n : Int64) : Refers (.number n) []
  | bool (b : Bool) : Refers (.bool b) []
  | getAzs (region : String) : Refers (.getAzs region) []
  | parameter {id : String} (pseudo : "AWS::".toList <+: id.toList) : Refers (.ref id) []
  | ref {id : String} (declared : ¬ "AWS::".toList <+: id.toList) : Refers (.ref id) [⟨id, none⟩]
  | getAtt (id attr : String) : Refers (.getAtt id attr) [⟨id, some attr⟩]
  | sub {text : String} {found : List Reference} (placeholders : Substitution.Refers text found) :
      Refers (.sub text) found
  | join (delimiter : String) {values : List Value} {found : List Reference}
      (parts : PartsRefer values found) : Refers (.join delimiter values) found
  | select (index : UInt64) {source : Value} {found : List Reference}
      (part : Refers source found) : Refers (.select index source) found
  | list {items : List Value} {found : List Reference} (parts : PartsRefer items found) :
      Refers (.list items) found

/-- The references of the first part stand before those of the others. -/
inductive PartsRefer : List Value → List Reference → Prop
  | nil : PartsRefer [] []
  | cons {part : Value} {rest : List Value} {first later : List Reference}
      (here : Refers part first) (behind : PartsRefer rest later) :
      PartsRefer (part :: rest) (first ++ later)

end

theorem is_pseudo_parameter_iff {id : String} :
    isPseudoParameter id = true ↔ "AWS::".toList <+: id.toList := by
  rw [isPseudoParameter, Text.startsWith, List.isPrefixOf_iff_prefix]

mutual

theorem refers_references (v : Value) : v.Refers v.references := by
  match v with
  | .str s => simpa only [references] using Refers.str s
  | .number n => simpa only [references] using Refers.number n
  | .bool b => simpa only [references] using Refers.bool b
  | .getAzs region => simpa only [references] using Refers.getAzs region
  | .ref id =>
    rw [references]
    split
    · next pseudo => exact .parameter (is_pseudo_parameter_iff.mp pseudo)
    · next declared => exact .ref (mt is_pseudo_parameter_iff.mpr declared)
  | .getAtt id attr => simpa only [references] using Refers.getAtt id attr
  | .sub text =>
    rw [references]
    exact .sub (Substitution.refers_iff.mpr rfl)
  | .join delimiter values =>
    rw [references]
    exact .join delimiter (parts_refer_references values)
  | .select index source =>
    rw [references]
    exact .select index (refers_references source)
  | .list items =>
    rw [references]
    exact .list (parts_refer_references items)

theorem parts_refer_references (parts : List Value) :
    PartsRefer parts (referencesInItems parts) := by
  match parts with
  | [] => exact .nil
  | part :: rest => exact .cons (refers_references part) (parts_refer_references rest)

end

mutual

/-- A value refers to one list of references only. -/
theorem references_of_refers (v : Value) {found : List Reference} (refers : v.Refers found) :
    v.references = found := by
  cases refers with
  | str | number | bool | getAzs | getAtt => simp only [references]
  | parameter pseudo => rw [references, if_pos (is_pseudo_parameter_iff.mpr pseudo)]
  | ref declared => rw [references, if_neg (mt is_pseudo_parameter_iff.mp declared)]
  | sub placeholders => rw [references, Substitution.refers_iff.mp placeholders]
  | join delimiter parts => rw [references, references_of_parts_refer _ parts]
  | select index part => rw [references, references_of_refers _ part]
  | list parts => rw [references, references_of_parts_refer _ parts]

theorem references_of_parts_refer (parts : List Value) {found : List Reference}
    (refer : PartsRefer parts found) : referencesInItems parts = found := by
  cases refer with
  | nil => rfl
  | cons here behind =>
    rw [referencesInItems, references_of_refers _ here, references_of_parts_refer _ behind]

end

/-- What is collected from a value that is written down as JSON is what the value refers to: nothing
is lost, nothing is added, and the order is that of the parts. -/
theorem references_collected (v : Value) (found : List Reference) :
    v.toJson.references = found ↔ v.Refers found := by
  rw [references_toJson]
  exact ⟨fun same => same ▸ refers_references v, references_of_refers v⟩

end Value

end StackSynth
