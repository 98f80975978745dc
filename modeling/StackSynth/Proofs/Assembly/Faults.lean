import StackSynth.Assembly.Writing
import StackSynth.Proofs.Files.Joined

/-!
Publishing documents where any change to the file system may fail, also when it is half made. The
files that a call is about are the only ones it touches, and a document is in its file as a whole or
not at all.
-/
namespace StackSynth.Assembly

/-- What stops a change: it is refused, or it is left half made. -/
inductive Fault
  | refused (cause : String)
  | interrupted (cause : String) (extent : Nat)
  deriving DecidableEq, Repr

/-- The directory so many levels above. -/
def ancestor : Nat → String → String
  | 0, path => path
  | levels + 1, path => ancestor levels ((Path.parent? path).getD "")

namespace Change

/-- What is left of a change that was interrupted: the first bytes of a file, or the directories above
the last ones. Renaming is done as a whole or not at all. -/
def begun (extent : Nat) : Change → FileTree → FileTree
  | makeDirs path, t => (t.makeDirs (ancestor extent path)).2
  | write path content, t => (t.write path (content.take extent)).toOption.getD t
  | rename _ _, t => t

def attempt (fault : Option Fault) (change : Change) (t : FileTree) : Outcome Unit × FileTree :=
  match fault with
  | none =>
    match change.apply t with
    | (.ok (), t) => (.ok (), t)
    | (.error e, t) => (.error (.during change.title (some e.message)), t)
  | some (.refused cause) => (.error (.during change.title (some cause)), t)
  | some (.interrupted cause extent) =>
    (.error (.during change.title (some cause)), change.begun extent t)

end Change

/-- Makes the changes, each with the fault that befalls it, up to the first that fails. Changes beyond
the list of faults meet none. -/
def performWith : List (Option Fault) → List Change → FileTree → Outcome Unit × FileTree
  | _, [], t => (.ok (), t)
  | faults, change :: rest, t =>
    match change.attempt (faults.headD none) t with
    | (.ok (), t) => performWith faults.tail rest t
    | failed => failed

def writeWith (faults : List (Option Fault)) (directory : String) (s : Stack) (t : FileTree) :
    Outcome (List String) × FileTree :=
  match documents s with
  | .error e => (.error e, t)
  | .ok d =>
    let (outcome, t) := performWith faults (changes directory s d) t
    (outcome.map fun _ => (filesOf directory s d).map (·.1), t)

theorem perform_with_nil (changes : List Change) (t : FileTree) :
    performWith [] changes t = perform changes t := by
  induction changes generalizing t with
  | nil => rfl
  | cons change rest ih =>
    rw [performWith, perform, List.headD_nil, List.tail_nil, Change.attempt]
    cases done : change.apply t with
    | mk outcome u =>
      cases outcome with
      | ok _ => exact ih u
      | error e => rfl

/-- Where no fault occurs, the assembly is written as ever. -/
theorem write_with_nil (directory : String) (s : Stack) (t : FileTree) :
    writeWith [] directory s t = write directory s t := by
  rw [writeWith, write]
  cases documents s with
  | error e => rfl
  | ok d => simp only [perform_with_nil]

theorem perform_with_append (faults : List (Option Fault)) (first second : List Change)
    (t : FileTree) : performWith faults (first ++ second) t =
      match performWith faults first t with
      | (.ok (), u) => performWith (faults.drop first.length) second u
      | failed => failed := by
  induction first generalizing faults t with
  | nil => rfl
  | cons change rest ih =>
    rw [List.cons_append, performWith, performWith]
    cases change.attempt (faults.headD none) t with
    | mk outcome u =>
      cases outcome with
      | ok _ => rw [List.length_cons, ← List.drop_tail]; exact ih faults.tail u
      | error e => rfl

theorem failed_ne_ok {e : Failure} : (.error e : Outcome Unit) ≠ .ok () := by simp

section Attempts

variable {fault : Option Fault} {t u : FileTree} {outcome : Outcome Unit} {base name : String}

open FileTree

theorem attempt_make_dirs {path : String}
    (attempted : (Change.makeDirs path).attempt fault t = (outcome, u)) :
    Grown t u ∧ (outcome = .ok () → t.makeDirs path = (.ok (), u)) := by
  cases fault with
  | none =>
    have grown := make_dirs_grown t path
    rw [Change.attempt, Change.apply] at attempted
    cases done : t.makeDirs path with
    | mk result made =>
      rw [done] at attempted grown
      cases result with
      | ok _ => cases attempted; exact ⟨grown, fun _ => rfl⟩
      | error e => cases attempted; exact ⟨grown, fun ok => absurd ok failed_ne_ok⟩
  | some fault =>
    cases fault with
    | refused cause => cases attempted; exact ⟨grown_refl t, fun ok => absurd ok failed_ne_ok⟩
    | interrupted cause extent => cases attempted; exact ⟨make_dirs_grown t _, fun ok => absurd ok failed_ne_ok⟩

/-- What a write leaves: the file with the content or, if the write fails, with a part of it; or
nothing new at all. -/
theorem attempt_write {content : Bytes} (named : EntryName name)
    (unlinked : ∀ home, t.directory? base = some home →
      ∀ target, t.look (home ++ [name]) ≠ some (.link target))
    (attempted : (Change.write (Path.join base name) content).attempt fault t = (outcome, u)) :
    (outcome ≠ .ok () ∧ u = t) ∨
    ∃ home part, t.directory? base = some home ∧ t.look (home ++ [name]) ≠ some .directory ∧
      u = t.set (home ++ [name]) (some (.file part)) ∧ (outcome = .ok () → part = content) := by
  cases fault with
  | none =>
    rw [Change.attempt, Change.apply] at attempted
    cases done : t.write (Path.join base name) content with
    | error e =>
      rw [done] at attempted
      cases attempted
      exact .inl ⟨failed_ne_ok, rfl⟩
    | ok changed =>
      rw [done] at attempted
      cases attempted
      obtain ⟨home, led, plain, put⟩ := write_joined named unlinked done
      exact .inr ⟨home, content, led, plain, put, fun _ => rfl⟩
  | some fault =>
    cases fault with
    | refused cause => cases attempted; exact .inl ⟨failed_ne_ok, rfl⟩
    | interrupted cause extent =>
      cases attempted
      rw [Change.begun]
      cases done : t.write (Path.join base name) (content.take extent) with
      | error e => exact .inl ⟨failed_ne_ok, rfl⟩
      | ok changed =>
        obtain ⟨home, led, plain, put⟩ := write_joined named unlinked done
        exact .inr ⟨home, content.take extent, led, plain, put, fun ok => absurd ok failed_ne_ok⟩

theorem attempt_rename {source target : String}
    (attempted : (Change.rename source target).attempt fault t = (outcome, u)) :
    (outcome ≠ .ok () ∧ u = t) ∨ (outcome = .ok () ∧ t.rename source target = .ok u) := by
  cases fault with
  | none =>
    rw [Change.attempt, Change.apply] at attempted
    cases done : t.rename source target with
    | error e => rw [done] at attempted; cases attempted; exact .inl ⟨failed_ne_ok, rfl⟩
    | ok changed => rw [done] at attempted; cases attempted; exact .inr ⟨rfl, rfl⟩
  | some fault => cases fault <;> cases attempted <;> exact .inl ⟨failed_ne_ok, rfl⟩

end Attempts

end StackSynth.Assembly
