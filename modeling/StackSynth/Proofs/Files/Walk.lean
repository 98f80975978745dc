import StackSynth.Proofs.Files.Look
import StackSynth.Proofs.Outcome

/-!
Walks and what they depend on. A walk to a directory passes directories and links only, so it goes
the same way in a tree where those are the same. Making directories leaves all that stood before, also
when it fails on the way.
-/
namespace StackSynth.FileTree

/-- What no walk to a directory passes: a file, or nothing. -/
def Passive (seen : Option Sight) : Prop := seen = none ∨ ∃ content, seen = some (.file content)

theorem passive_not_directory {seen : Option Sight} (passive : Passive seen) :
    seen ≠ some .directory := by
  rcases passive with rfl | ⟨content, rfl⟩ <;> simp

theorem passive_not_link {seen : Option Sight} (passive : Passive seen) (target : String) :
    seen ≠ some (.link target) := by
  rcases passive with rfl | ⟨content, rfl⟩ <;> simp

theorem passive_iff {seen : Option Sight} :
    Passive seen ↔ seen ≠ some .directory ∧ ∀ target, seen ≠ some (.link target) := by
  constructor
  · exact fun passive => ⟨passive_not_directory passive, passive_not_link passive⟩
  · rintro ⟨plain, unlinked⟩
    cases seen with
    | none => exact .inl rfl
    | some sight =>
      cases sight with
      | directory => exact absurd rfl plain
      | file content => exact .inr ⟨content, rfl⟩
      | link target => exact absurd rfl (unlinked target)

section Walk

variable {top other : Entry} {followLast : Bool} {links : Nat} {here : List String}

theorem walk_nil : walk top followLast links here [] = .ok (here, links) := by rw [walk]

/-- A step of a walk, by what stands here and at the next place. -/
theorem walk_cons (step : String) (rest : List String) :
    walk top followLast links here (step :: rest) =
      match top.look here with
      | some .directory =>
        if step = "." then walk top followLast links here rest
        else if step = ".." then walk top followLast links here.dropLast rest
        else if Path.nameLimit < Text.byteLength step then .error .nameTooLong
        else match top.look (here ++ [step]) with
          | none => .error .notFound
          | some (.link target) =>
            if rest.isEmpty && !followLast then .ok (here ++ [step], links)
            else match links with
              | 0 => .error .tooManyLinks
              | links + 1 =>
                walk top followLast links (if Path.isAbsolute target then [] else here)
                  (Path.steps target ++ rest)
          | some _ => walk top followLast links (here ++ [step]) rest
      | some _ => .error .notDirectory
      | none => .error .notFound := by
  rw [walk]
  cases stands : top.at? here with
  | none => simp [Entry.look, stands]
  | some e =>
    cases e with
    | file content => simp [Entry.look, stands, Entry.sight]
    | link target => simp [Entry.look, stands, Entry.sight]
    | dir entries =>
      have next : top.look (here ++ [step]) = ((Entry.dir entries).child? step).map Entry.sight := by
        rw [Entry.look, Entry.at_below stands]
      have directory := Entry.look_directory_iff.mpr ⟨entries, stands⟩
      simp only [directory, next]
      cases (Entry.dir entries).child? step with
      | none => rfl
      | some e => cases e <;> rfl

/-- By induction on the links that may be followed, then on the steps. The walk passes no place where
the two trees differ: what stands there in the first is nothing or a file, and neither leads on. -/
theorem walk_agrees {steps directory : List String} {left : Nat}
    (agree : ∀ place, other.look place = top.look place ∨ Passive (top.look place))
    (led : walk top followLast links here steps = .ok (directory, left))
    (stands : top.look directory = some .directory) :
    walk other followLast links here steps = .ok (directory, left) := by
  have kept : ∀ place, top.look place = some .directory → other.look place = some .directory :=
    fun place seen => ((agree place).resolve_right
      fun passive => passive_not_directory passive seen).trans seen
  have linked : ∀ place target, top.look place = some (.link target) →
      other.look place = some (.link target) := fun place target seen =>
    ((agree place).resolve_right fun passive => passive_not_link passive target seen).trans seen
  induction links using Nat.strongRecOn generalizing here steps with
  | _ links follow =>
  induction steps generalizing here with
  | nil => rw [walk_nil] at led ⊢; exact led
  | cons step rest ih =>
    rw [walk_cons] at led ⊢
    cases seen : top.look here with
    | none => rw [seen] at led; cases led
    | some sight =>
      cases sight with
      | file content => rw [seen] at led; cases led
      | link target => rw [seen] at led; cases led
      | directory =>
        rw [seen] at led
        rw [kept here seen]
        dsimp only at led ⊢
        by_cases stays : step = "."
        · rw [if_pos stays] at led ⊢; exact ih led
        rw [if_neg stays] at led ⊢
        by_cases leaves : step = ".."
        · rw [if_pos leaves] at led ⊢; exact ih led
        rw [if_neg leaves] at led ⊢
        by_cases long : Path.nameLimit < Text.byteLength step
        · rw [if_pos long] at led; cases led
        rw [if_neg long] at led ⊢
        cases next : top.look (here ++ [step]) with
        | none => rw [next] at led; cases led
        | some sight =>
          rw [next] at led
          cases sight with
          | directory => rw [kept _ next]; exact ih led
          | file content =>
            dsimp only at led
            cases rest with
            | nil =>
              rw [walk_nil] at led
              cases led
              rw [next] at stands
              cases stands
            | cons second rest =>
              rw [walk_cons, next] at led
              cases led
          | link target =>
            rw [linked _ target next]
            dsimp only at led ⊢
            by_cases ends : (rest.isEmpty && !followLast) = true
            · rw [if_pos ends] at led ⊢; exact led
            rw [if_neg ends] at led ⊢
            cases links with
            | zero => cases led
            | succ links => exact follow links (Nat.lt_succ_self links) led

/-- A walk goes on where the walk along its first steps ended. By induction as above. -/
theorem walk_append {last : List String} (more : last ≠ []) (front : List String) :
    walk top followLast links here (front ++ last) =
      (walk top true links here front).bind fun (directory, left) =>
        walk top followLast left directory last := by
  induction links using Nat.strongRecOn generalizing here front with
  | _ links follow =>
  induction front generalizing here with
  | nil => rw [List.nil_append, walk_nil]; rfl
  | cons step rest ih =>
    have filled : (rest ++ last).isEmpty = false := by
      rw [List.isEmpty_eq_false_iff]
      exact List.append_ne_nil_of_right_ne_nil rest more
    rw [List.cons_append, walk_cons, walk_cons]
    cases top.look here with
    | none => rfl
    | some sight =>
      cases sight with
      | file content => rfl
      | link target => rfl
      | directory =>
        dsimp only
        by_cases stays : step = "."
        · rw [if_pos stays, if_pos stays]; exact ih
        rw [if_neg stays, if_neg stays]
        by_cases leaves : step = ".."
        · rw [if_pos leaves, if_pos leaves]; exact ih
        rw [if_neg leaves, if_neg leaves]
        by_cases long : Path.nameLimit < Text.byteLength step
        · rw [if_pos long, if_pos long]; rfl
        rw [if_neg long, if_neg long]
        cases top.look (here ++ [step]) with
        | none => rfl
        | some sight =>
          cases sight with
          | directory => exact ih
          | file content => exact ih
          | link target =>
            rw [filled, Bool.false_and, Bool.not_true, Bool.and_false]
            cases links with
            | zero => rfl
            | succ links =>
              dsimp only
              rw [if_neg Bool.false_ne_true, if_neg Bool.false_ne_true, ← List.append_assoc]
              exact follow links (Nat.lt_succ_self links) _

end Walk

section Directory

variable {t u : FileTree} {path : String} {directory : List String}

/-- The directory that the names of a path lead to. -/
def directory? (t : FileTree) (path : String) : Option (List String) :=
  (t.directoryFrom linkLimit (t.start path) (Path.names path)).toOption.map (·.1)

theorem directory_from_iff {links left : Nat} {here before : List String}
    {entries : List (String × Entry)} :
    t.directoryFrom links here before = .ok (directory, entries, left) ↔
      walk t.top true links here before = .ok (directory, left) ∧
        t.top.at? directory = some (.dir entries) := by
  constructor
  · intro found
    obtain ⟨⟨place, left⟩, way, found⟩ := Outcome.bind_ok found
    dsimp only at found
    cases stands : t.top.at? place with
    | none => rw [stands] at found; cases found
    | some e =>
      rw [stands] at found
      cases e with
      | dir entries => cases found; exact ⟨way, stands⟩
      | file content => cases found
      | link target => cases found
  · rintro ⟨way, stands⟩
    rw [directoryFrom, way]
    simp only [bind, Except.bind, stands]

theorem directory_iff : t.directory? path = some directory ↔
    ∃ left, walk t.top true linkLimit (t.start path) (Path.names path) = .ok (directory, left) ∧
      t.look directory = some .directory := by
  rw [directory?, look, Entry.look_directory_iff]
  constructor
  · intro led
    cases found : t.directoryFrom linkLimit (t.start path) (Path.names path) with
    | error e => rw [found] at led; cases led
    | ok reached =>
      rw [found] at led
      obtain ⟨place, entries, left⟩ := reached
      cases led
      obtain ⟨way, stands⟩ := directory_from_iff.mp found
      exact ⟨left, way, entries, stands⟩
  · rintro ⟨left, way, entries, stands⟩
    rw [directory_from_iff.mpr ⟨way, stands⟩]
    rfl

theorem directory_agrees (seat : u.workingDirectory = t.workingDirectory)
    (agree : ∀ place, u.look place = t.look place ∨ Passive (t.look place))
    (led : t.directory? path = some directory) : u.directory? path = some directory := by
  obtain ⟨left, way, stands⟩ := directory_iff.mp led
  have start : u.start path = t.start path := by rw [start, start, seat]
  refine directory_iff.mpr ⟨left, start ▸ walk_agrees agree way stands, ?_⟩
  exact ((agree directory).resolve_right
    fun passive => passive_not_directory passive stands).trans stands

end Directory

section Grown

/-- Nothing differs, except that directories stand where nothing stood. -/
structure Grown (t u : FileTree) : Prop where
  seat : u.workingDirectory = t.workingDirectory
  places : ∀ place, u.look place = t.look place ∨
    (t.look place = none ∧ u.look place = some .directory)

variable {t u v : FileTree} {path : String}

theorem grown_refl (t : FileTree) : Grown t t := ⟨rfl, fun _ => .inl rfl⟩

theorem grown_trans (first : Grown t u) (second : Grown u v) : Grown t v := by
  refine ⟨second.seat.trans first.seat, fun place => ?_⟩
  rcases first.places place with same | ⟨nothing, made⟩ <;>
    rcases second.places place with same' | ⟨nothing', made'⟩
  · exact .inl (same'.trans same)
  · exact .inr ⟨same.symm.trans nothing', made'⟩
  · exact .inr ⟨nothing, same'.trans made⟩
  · exact .inr ⟨nothing, made'⟩

theorem grown_unlinked (grown : Grown t u) {place : List String}
    (unlinked : ∀ target, t.look place ≠ some (.link target)) (target : String) :
    u.look place ≠ some (.link target) := by
  rcases grown.places place with same | ⟨-, made⟩
  · rw [same]
    exact unlinked target
  · simp [made]

theorem make_dir_grown (done : t.makeDir path = .ok u) : Grown t u := by
  rw [makeDir] at done
  split at done
  · cases done
  · cases done
  · next name before text named =>
    obtain ⟨⟨directory, entries, left⟩, found, done⟩ := Outcome.bind_ok done
    have stands := (directory_from_iff.mp found).2
    dsimp only at done
    by_cases dots : isDots name = true
    · rw [if_pos dots] at done
      cases done
    by_cases long : Path.nameLimit < Text.byteLength name
    · rw [if_neg dots, if_pos long] at done
      cases done
    rw [if_neg dots, if_neg long] at done
    cases child : (Entry.dir entries).child? name with
    | some e => rw [child] at done; cases done
    | none =>
      rw [child] at done
      cases done
      have nothing : t.look (directory ++ [name]) = none := by
        rw [look, Entry.look, Entry.at_below stands, child]
        rfl
      refine ⟨rfl, fun place => ?_⟩
      rw [look_set (Entry.look_directory_iff.mpr ⟨entries, stands⟩) (by simp [nothing])
        (fun name => rfl)]
      by_cases here : place = directory ++ [name]
      · exact .inr ⟨here ▸ nothing, if_pos here⟩
      · exact .inl (if_neg here)

theorem ensure_dir_grown (t : FileTree) (path : String) : Grown t (t.ensureDir path).2 := by
  rw [ensureDir]
  cases made : t.makeDir path with
  | ok u => exact make_dir_grown made
  | error e => exact grown_refl t

/-- By induction on the number of directories that may be missing. -/
theorem make_dirs_from_grown (depth : Nat) (path : String) (t : FileTree) :
    Grown t (makeDirsFrom depth path t).2 := by
  induction depth generalizing path t with
  | zero => exact grown_refl t
  | succ depth ih =>
    rw [makeDirsFrom]
    split
    · exact grown_refl t
    split
    · next above _ _ =>
      have higher := ih above t
      split
      · next u made =>
        rw [made] at higher
        exact grown_trans higher (ensure_dir_grown u path)
      · exact higher
    · exact grown_refl t
    · exact ensure_dir_grown t path

theorem make_dirs_grown (t : FileTree) (path : String) : Grown t (t.makeDirs path).2 :=
  make_dirs_from_grown _ path t

end Grown

end StackSynth.FileTree
