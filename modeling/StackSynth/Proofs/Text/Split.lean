import StackSynth.Text.Split

/-!
Cutting a text and putting it together again. The first cut is the only one with none before it, and
the pieces between all cuts give the text back.
-/
namespace StackSynth.Text

variable {c : Char} {text before after : List Char}

theorem split_once_cons (c x : Char) (rest : List Char) : splitOnce c (x :: rest) =
    if x = c then some ([], rest)
    else (splitOnce c rest).map fun (before, after) => (x :: before, after) := rfl

theorem split_once_first (first : c ∉ before) (after : List Char) :
    splitOnce c (before ++ c :: after) = some (before, after) := by
  induction before with
  | nil => rw [List.nil_append, split_once_cons, if_pos rfl]
  | cons x rest ih =>
    simp only [List.mem_cons, not_or] at first
    rw [List.cons_append, split_once_cons, if_neg (Ne.symm first.1), ih first.2, Option.map_some]

theorem split_once_eq_none_iff : splitOnce c text = none ↔ c ∉ text := by
  induction text with
  | nil => exact iff_of_true rfl List.not_mem_nil
  | cons x rest ih =>
    rw [split_once_cons]
    by_cases here : x = c
    · simp [here]
    · rw [if_neg here, Option.map_eq_none_iff, ih, List.mem_cons, not_or]
      exact ⟨fun later => ⟨Ne.symm here, later⟩, And.right⟩

theorem split_once_eq_some_iff :
    splitOnce c text = some (before, after) ↔ text = before ++ c :: after ∧ c ∉ before := by
  refine ⟨fun cut => ?_, fun ⟨whole, first⟩ => whole ▸ split_once_first first after⟩
  induction text generalizing before with
  | nil => cases cut
  | cons x rest ih =>
    rw [split_once_cons] at cut
    split at cut
    · next here =>
      cases cut
      exact ⟨by rw [here, List.nil_append], List.not_mem_nil⟩
    · next other =>
      obtain ⟨⟨front, back⟩, found, same⟩ := Option.map_eq_some_iff.mp cut
      cases same
      obtain ⟨whole, first⟩ := ih found
      refine ⟨by rw [whole, List.cons_append], ?_⟩
      rw [List.mem_cons, not_or]
      exact ⟨Ne.symm other, first⟩

theorem split_all_eq (c : Char) (text : List Char) : splitAll c text = text.splitOn c := by
  induction text with
  | nil => rfl
  | cons x rest ih =>
    have step : (x :: rest).splitOn c =
        if x = c then [] :: rest.splitOn c else (rest.splitOn c).modifyHead (x :: ·) := by
      rw [List.splitOn, List.splitOnP_cons_eq_if_modifyHead]
      simp only [beq_iff_eq]
      rfl
    rw [splitAll, ih, step]
    cases pieces : rest.splitOn c with
    | nil => exact absurd pieces (List.splitOnP_ne_nil _ _)
    | cons piece pieces => rfl

theorem split_all_append (c : Char) (front back : List Char) :
    splitAll c (front ++ c :: back) = splitAll c front ++ splitAll c back := by
  simp only [split_all_eq]
  exact List.splitOnP_append_cons front back (beq_self_eq_true c)

theorem split_all_whole (whole : c ∉ text) : splitAll c text = [text] := by
  rw [split_all_eq, List.splitOn_eq_singleton whole]

/-- The pieces with the cuts put back are the text. -/
theorem intercalate_split_all (c : Char) (text : List Char) :
    [c].intercalate (splitAll c text) = text := by
  rw [split_all_eq, List.intercalate_splitOn]

end StackSynth.Text
