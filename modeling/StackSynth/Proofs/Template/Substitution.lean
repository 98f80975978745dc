import StackSynth.Environment
import StackSynth.Proofs.Template.References

/-!
Substitution texts with some of their placeholders filled in, as a deployment does it. The text
around the placeholders stays, and so do placeholders whose value is not known.
-/
namespace StackSynth

namespace Substitution

/-- The text with the known placeholders replaced by their values. -/
def fill (value? : String → Option String) : List Char → List Char
  | [] => []
  | [c] => [c]
  | a :: b :: rest =>
    if a = '$' ∧ b = '{' then
      match cut : Text.splitOnce '}' rest with
      | none => a :: b :: rest
      | some (name, after) =>
        have : after.length < rest.length := Reference.length_after_splitOnce cut
        match value? (String.ofList name) with
        | some text => text.toList ++ fill value? after
        | none => '$' :: '{' :: (name ++ '}' :: fill value? after)
    else a :: fill value? (b :: rest)
termination_by cs => cs.length

variable {value? : String → Option String} {before after : List Char}

theorem fill_cons {c : Char} (plain : c ≠ '$') (rest : List Char) :
    fill value? (c :: rest) = c :: fill value? rest := by
  cases rest with
  | nil => rw [fill, fill]
  | cons d rest => rw [fill, if_neg fun opened => plain opened.1]

theorem fill_placeholder {name : String} (closed : '}' ∉ name.toList) (after : List Char) :
    fill value? ('$' :: '{' :: (name.toList ++ '}' :: after)) =
      match value? name with
      | some text => text.toList ++ fill value? after
      | none => '$' :: '{' :: (name.toList ++ '}' :: fill value? after) := by
  have cut := Text.split_once_first closed after
  rw [fill, if_pos ⟨rfl, rfl⟩]
  split
  · next missing =>
    rw [cut] at missing
    cases missing
  · next found =>
    rw [cut] at found
    cases found
    rw [String.ofList_toList]

theorem fill_before (plain : '$' ∉ before) (after : List Char) :
    fill value? (before ++ '$' :: after) = before ++ fill value? ('$' :: after) := by
  induction before with
  | nil => rfl
  | cons c rest ih =>
    simp only [List.mem_cons, not_or] at plain
    rw [List.cons_append, List.cons_append, fill_cons (Ne.symm plain.1), ih plain.2]

/-- The first placeholder is filled in, and then the text behind it. -/
theorem fill_known {name text : String} (plain : '$' ∉ before) (closed : '}' ∉ name.toList)
    (known : value? name = some text) :
    fill value? (before ++ '$' :: '{' :: (name.toList ++ '}' :: after)) =
      before ++ text.toList ++ fill value? after := by
  rw [fill_before plain, fill_placeholder closed, known, List.append_assoc]

theorem fill_unknown {name : String} (plain : '$' ∉ before) (closed : '}' ∉ name.toList)
    (unknown : value? name = none) :
    fill value? (before ++ '$' :: '{' :: (name.toList ++ '}' :: after)) =
      before ++ '$' :: '{' :: (name.toList ++ '}' :: fill value? after) := by
  rw [fill_before plain, fill_placeholder closed, unknown]

theorem fill_plain {text : List Char} (plain : '$' ∉ text) : fill value? text = text := by
  induction text with
  | nil => rw [fill]
  | cons c rest ih =>
    simp only [List.mem_cons, not_or] at plain
    rw [fill_cons (Ne.symm plain.1), ih plain.2]

end Substitution

/-- The account and the region that a stack is deployed to, by the names of their parameters. -/
def Environment.parameter? (e : Environment) : String → Option String
  | "AWS::AccountId" => some e.account
  | "AWS::Region" => some e.region
  | _ => none

/-- The text of a substitution for an environment. -/
def Value.textIn? (e : Environment) : Value → Option String
  | .sub text => some (String.ofList (Substitution.fill e.parameter? text.toList))
  | _ => none

end StackSynth
