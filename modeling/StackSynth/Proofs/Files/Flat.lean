import StackSynth.Files.Tree

/-!
A directory of texts that is the working directory too: a name leads to the text that is listed
under it, and nowhere if there is none.
-/
namespace StackSynth.FileTree

/-- A file tree with texts side by side. -/
def flat (texts : List (String × String)) : FileTree where
  top := .dir (texts.map fun text => (text.1, .file text.2.toUTF8.data.toList))
  workingDirectory := []

/-- A path that is a name, and none of those that stay in place or lead upward. -/
structure IsName (name : String) : Prop where
  text : textError? name = none
  relative : Path.isAbsolute name = false
  single : Path.steps name = [name]
  moves : name ≠ "." ∧ name ≠ ".."
  short : ¬ Path.nameLimit < Text.byteLength name

variable {texts : List (String × String)} {name : String}

theorem flat_child (texts : List (String × String)) (name : String) :
    (flat texts).top.child? name =
      (texts.lookup name).map fun text => .file text.toUTF8.data.toList := by
  induction texts with
  | nil => rfl
  | cons first rest ih =>
    rw [flat, Entry.child?] at ih ⊢
    rw [List.map_cons, List.find?_cons, List.lookup_cons]
    by_cases same : first.1 = name
    · simp [same]
    · rw [beq_false_of_ne same, beq_false_of_ne (Ne.symm same)]
      exact ih

theorem flat_entry (texts : List (String × String)) (named : IsName name) :
    (flat texts).entry name = (texts.lookup name).elim (.error .notFound) fun text =>
      .ok (.file text.toUTF8.data.toList) := by
  have begins : (flat texts).start name = [] := by simp [start, named.relative, flat]
  have stays : ∀ links here, walk (flat texts).top true links here [] = .ok (here, links) := by
    intro links here
    rw [walk]
  have here : (flat texts).top.at? [] = some (.dir (texts.map fun text =>
      (text.1, .file text.2.toUTF8.data.toList))) := rfl
  have child := flat_child texts name
  have there : (flat texts).top.at? [name] =
      (texts.lookup name).map fun text => .file text.toUTF8.data.toList := by
    rw [Entry.at?, child]
    cases texts.lookup name <;> rfl
  rw [flat] at child
  simp only [entry, locate, named.text, place, named.single, begins]
  rw [walk]
  simp only [here, if_neg named.moves.1, if_neg named.moves.2, if_neg named.short, child]
  cases found : texts.lookup name with
  | none => rfl
  | some text =>
    rw [found] at there
    simp only [Option.map_some, stays, List.nil_append, bind, Except.bind, Except.map, there,
      Option.elim_some]

theorem flat_exists (texts : List (String × String)) (named : IsName name) :
    (flat texts).exists? name = (texts.lookup name).isSome := by
  rw [exists?, flat_entry texts named]
  cases texts.lookup name <;> rfl

theorem flat_text (texts : List (String × String)) (named : IsName name) :
    (flat texts).readText name = (texts.lookup name).elim (.error .notFound) .ok := by
  rw [readText, read, flat_entry texts named]
  cases texts.lookup name with
  | none => rfl
  | some text =>
    have back : String.fromUTF8? (ByteArray.mk text.toUTF8.data.toList.toArray) = some text := by
      rw [Array.toArray_toList, String.fromUTF8?, dif_pos]
      rfl
    simp only [Option.elim_some, bind, Except.bind, back]

end StackSynth.FileTree
