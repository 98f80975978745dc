import StackSynth.Proofs.Assembly.Faults

/-!
What the publication of documents touches, whether it comes to its end or not: the file of each
document, which then holds all of it, and the temporary file that it was written to before.
-/
namespace StackSynth.Assembly

open FileTree

/-- What the file of a document holds. -/
def contentOf (text : String) : Bytes := (text ++ "\n").toUTF8.toList

/-- The changes that publish documents, listed with the names of their files, in a directory. -/
def publishAll (base : String) (documents : List (String × String)) : List Change :=
  documents.flatMap fun document => publish (Path.join base document.1) document.2

/-- Documents whose files, the temporary ones included, do not get in each other's way. -/
structure Separate (documents : List (String × String)) : Prop where
  named : ∀ document ∈ documents, EntryName document.1
  distinct : (documents.map (·.1)).Nodup
  final : ∀ one ∈ documents, ∀ other ∈ documents, one.1 ≠ temporary other.1

/-- What differs at a place after the publication of documents into a directory. -/
inductive Changed (home : List String) (documents : List (String × String)) (place : List String)
    (seen : Option Sight) : Prop
  | begun (document : String × String) (listed : document ∈ documents)
    (here : place = home ++ [temporary document.1]) (passive : Passive seen)
  | published (document : String × String) (listed : document ∈ documents)
    (here : place = home ++ [document.1])
    (whole : seen = some (.file (contentOf document.2)))

/-- From one tree to the other, only files of the documents differ, in the directory that the path
leads to, and none of them takes the place of a directory. -/
structure Touched (base : String) (documents : List (String × String)) (t u : FileTree) : Prop where
  seat : u.workingDirectory = t.workingDirectory
  places : ∀ place, u.look place = t.look place ∨
    (t.look place ≠ some .directory ∧
      ∃ home, t.directory? base = some home ∧ Changed home documents place (u.look place))

/-- No write to a temporary file of the documents follows a link. -/
def Unfollowed (base : String) (documents : List (String × String)) (t : FileTree) : Prop :=
  ∀ home, t.directory? base = some home → ∀ document ∈ documents,
    ∀ target, t.look (home ++ [temporary document.1]) ≠ some (.link target)

/-- The document stands in its file, its temporary file is gone, and the file can be asked for. -/
structure Published (base : String) (home : List String) (document : String × String)
    (u : FileTree) : Prop where
  stands : u.look (home ++ [document.1]) = some (.file (contentOf document.2))
  cleared : u.look (home ++ [temporary document.1]) = none
  text : textError? (Path.join base document.1) = none
  short : Text.byteLength document.1 ≤ Path.nameLimit

section Documents

variable {base : String} {home : List String} {documents more : List (String × String)}
  {document : String × String} {t u v : FileTree}

theorem publish_all_cons (base : String) (first : String × String)
    (rest : List (String × String)) : publishAll base (first :: rest) =
      publish (Path.join base first.1) first.2 ++ publishAll base rest := List.flatMap_cons

theorem temporary_length (name : String) :
    (temporary name).toList.length = name.toList.length + 4 := by simp [temporary]

theorem temporary_named {name : String} (named : EntryName name) : EntryName (temporary name) := by
  constructor
  case filled =>
    intro empty
    have length := temporary_length name
    simp [empty] at length
  case whole => simp [temporary, named.whole]
  case moves =>
    rw [isDots, Bool.or_eq_false_iff, decide_eq_false_iff_not, decide_eq_false_iff_not]
    constructor <;> intro dots <;> have length := temporary_length name
    · rw [dots, show ".".toList.length = 1 from rfl] at length
      omega
    · rw [dots, show "..".toList.length = 2 from rfl] at length
      omega

theorem temporary_join {name : String} (named : EntryName name) (base : String) :
    temporary (Path.join base name) = Path.join base (temporary name) := by
  simp only [Path.join, Path.relative_entry named, Path.relative_entry (temporary_named named)]
  split
  · rfl
  split
  · exact String.append_assoc
  · exact String.append_assoc

theorem temporary_ne (name : String) : name ≠ temporary name := by
  intro same
  have length := temporary_length name
  rw [← same] at length
  omega

theorem temporary_injective {one other : String} (same : temporary one = temporary other) :
    one = other := by
  have lists := congrArg String.toList same
  simp only [temporary, String.toList_append, List.append_left_inj] at lists
  exact String.toList_inj.mp lists

theorem separate_tail (separate : Separate (document :: more)) : Separate more where
  named := fun other listed => separate.named other (List.mem_cons_of_mem _ listed)
  distinct := (List.nodup_cons.mp separate.distinct).2
  final := fun one listed other listed' => separate.final one (List.mem_cons_of_mem _ listed) other
    (List.mem_cons_of_mem _ listed')

theorem changed_passive {place : List String} {seen : Option Sight}
    (changed : Changed home documents place seen) : Passive seen := by
  cases changed with
  | begun document listed here passive => exact passive
  | published document listed here whole => exact .inr ⟨_, whole⟩

theorem changed_mono {place : List String} {seen : Option Sight} (sub : documents ⊆ more)
    (changed : Changed home documents place seen) : Changed home more place seen := by
  cases changed with
  | begun document listed here passive => exact .begun document (sub listed) here passive
  | published document listed here whole => exact .published document (sub listed) here whole

theorem touched_refl (base : String) (documents : List (String × String)) (t : FileTree) :
    Touched base documents t t := ⟨rfl, fun _ => .inl rfl⟩

/-- Where the path leads to afterwards, it led to before. -/
theorem touched_led (touched : Touched base documents t u) (led : u.directory? base = some home) :
    t.directory? base = some home := by
  refine directory_agrees touched.seat.symm (fun place => ?_) led
  rcases touched.places place with same | ⟨-, directory, -, changed⟩
  · exact .inl same.symm
  · exact .inr (changed_passive changed)

theorem touched_unlinked (touched : Touched base documents t u) {place : List String}
    (unlinked : ∀ target, t.look place ≠ some (.link target)) (target : String) :
    u.look place ≠ some (.link target) := by
  rcases touched.places place with same | ⟨-, directory, -, changed⟩
  · rw [same]
    exact unlinked target
  · exact passive_not_link (changed_passive changed) target

theorem unfollowed_rest (touched : Touched base [document] t u)
    (unfollowed : Unfollowed base (document :: more) t) : Unfollowed base more u :=
  fun home led other listed => touched_unlinked touched
    (unfollowed home (touched_led touched led) other (List.mem_cons_of_mem _ listed))

/-- The path leads to the directory still, if no link stood where a file was written. -/
theorem touched_still_led (touched : Touched base documents t u)
    (led : t.directory? base = some home)
    (unlinked : ∀ document ∈ documents, ∀ target,
      t.look (home ++ [temporary document.1]) ≠ some (.link target) ∧
      t.look (home ++ [document.1]) ≠ some (.link target)) :
    u.directory? base = some home := by
  refine directory_agrees touched.seat (fun place => ?_) led
  rcases touched.places place with same | ⟨plain, again, led', changed⟩
  · exact .inl same
  cases led.symm.trans led'
  refine .inr (passive_iff.mpr ⟨plain, fun target => ?_⟩)
  cases changed with
  | begun document listed here passive => exact here ▸ (unlinked document listed target).1
  | published document listed here whole => exact here ▸ (unlinked document listed target).2

theorem touched_trans (first : Touched base documents t u) (second : Touched base more u v) :
    Touched base (documents ++ more) t v := by
  refine ⟨second.seat.trans first.seat, fun place => ?_⟩
  rcases second.places place with same | ⟨plain, home, led, changed⟩
  · rw [same]
    rcases first.places place with same | ⟨plain, home, led, changed⟩
    · exact .inl same
    · exact .inr ⟨plain, home, led, changed_mono (List.subset_append_left _ _) changed⟩
  · have plain : t.look place ≠ some .directory := by
      rcases first.places place with same | ⟨before, -⟩
      · exact same ▸ plain
      · exact before
    exact .inr ⟨plain, home, touched_led first led,
      changed_mono (List.subset_append_right _ _) changed⟩

/-- The publication of the documents that follow leaves a published one as it is. -/
theorem published_keeps (separate : Separate (document :: more)) (touched : Touched base more u v)
    (only : ∀ other, u.directory? base = some other → other = home)
    (published : Published base home document u) : Published base home document v := by
  have kept : ∀ name, (∀ other ∈ more, name ≠ other.1 ∧ name ≠ temporary other.1) →
      v.look (home ++ [name]) = u.look (home ++ [name]) := by
    intro name different
    refine (touched.places _).resolve_right fun ⟨_, again, led, changed⟩ => ?_
    cases only again led
    cases changed with
    | begun other listed here passive =>
      exact (different other listed).2 (Entry.place_injective here)
    | published other listed here whole =>
      exact (different other listed).1 (Entry.place_injective here)
  have fresh : ∀ other ∈ more, document.1 ≠ other.1 := fun other listed same =>
    (List.nodup_cons.mp separate.distinct).1 (List.mem_map.mpr ⟨other, listed, same.symm⟩)
  constructor
  case stands =>
    refine (kept _ fun other listed => ⟨fresh other listed, ?_⟩).trans published.stands
    exact separate.final document List.mem_cons_self other (List.mem_cons_of_mem _ listed)
  case cleared =>
    refine (kept _ fun other listed => ⟨?_, ?_⟩).trans published.cleared
    · exact (separate.final other (List.mem_cons_of_mem _ listed) document
        List.mem_cons_self).symm
    · exact fun same => fresh other listed (temporary_injective same)
  case text => exact published.text
  case short => exact published.short

section Steps

variable (led : t.directory? base = some home)

include led

theorem look_home : t.look home = some .directory := by
  obtain ⟨left, way, stands⟩ := directory_iff.mp led
  exact stands

theorem look_written {name : String} {content : Bytes}
    (plain : t.look (home ++ [name]) ≠ some .directory) (place : List String) :
    (t.set (home ++ [name]) (some (.file content))).look place =
      if place = home ++ [name] then some (.file content) else t.look place :=
  look_set (look_home led) plain (fun _ => rfl) place

theorem written_touched {part : Bytes}
    (plain : t.look (home ++ [temporary document.1]) ≠ some .directory) :
    Touched base [document] t
      (t.set (home ++ [temporary document.1]) (some (.file part))) := by
  refine ⟨rfl, fun place => ?_⟩
  rw [look_written led plain]
  by_cases here : place = home ++ [temporary document.1]
  · rw [if_pos here]
    exact .inr ⟨here ▸ plain, home, led,
      .begun document List.mem_cons_self here (.inr ⟨part, rfl⟩)⟩
  · exact .inl (if_neg here)

/-- What a renaming shows, once the temporary file is written. -/
theorem look_renamed {name : String} {content : Bytes} {w : FileTree}
    (named : EntryName name) (plain : t.look (home ++ [temporary name]) ≠ some .directory)
    (put : w = t.set (home ++ [temporary name]) (some (.file content)))
    (done : w.rename (Path.join base (temporary name)) (Path.join base name) = .ok u) :
    u.workingDirectory = t.workingDirectory ∧ t.look (home ++ [name]) ≠ some .directory ∧
      ∀ place, u.look place =
        if place = home ++ [name] then some (.file content)
        else if place = home ++ [temporary name] then none else t.look place := by
  have apart : home ++ [name] ≠ home ++ [temporary name] := fun same =>
    temporary_ne name (Entry.place_injective same)
  have outside : home ≠ home ++ [temporary name] := fun same =>
    absurd (congrArg List.length same) (by simp)
  have written : ∀ place, w.look place =
      if place = home ++ [temporary name] then some (.file content) else t.look place :=
    fun place => put ▸ look_written led plain place
  obtain ⟨-, -, -, again, moved, led', there, free, rfl⟩ :=
    (rename_joined named (temporary_named named)).mp done
  have touched : Touched base [(name, "")] t w := put ▸ written_touched led plain
  cases led.symm.trans (touched_led touched led')
  have source : w.look (home ++ [temporary name]) = some (.file content) := by
    rw [written, if_pos rfl]
  have file : moved = .file content := by
    rw [look, Entry.look, there] at source
    cases moved <;> cases source
    rfl
  have left : ∀ place, (w.set (home ++ [temporary name]) none).look place =
      if place = home ++ [temporary name] then none else w.look place :=
    look_set (look_home led') (by simp [source]) (fun _ => rfl)
  have above : (w.set (home ++ [temporary name]) none).look home = some .directory := by
    rw [left, if_neg outside]
    exact look_home led'
  have target : (w.set (home ++ [temporary name]) none).look (home ++ [name]) ≠
      some .directory := by
    rw [left, if_neg apart]
    exact free
  refine ⟨touched.seat, ?_, fun place => ?_⟩
  · rw [written, if_neg apart] at free
    exact free
  · rw [look_set above target (by subst file; exact fun _ => rfl), left, written, file]
    by_cases temp : place = home ++ [temporary name]
    · simp only [if_pos temp]
      rfl
    · simp only [if_neg temp]
      rfl

/-- The renaming puts the whole document into its file and takes the temporary one away. -/
theorem renamed_published {w : FileTree} (named : EntryName document.1)
    (plain : t.look (home ++ [temporary document.1]) ≠ some .directory)
    (put : w = t.set (home ++ [temporary document.1]) (some (.file (contentOf document.2))))
    (done : w.rename (Path.join base (temporary document.1)) (Path.join base document.1) = .ok u) :
    Touched base [document] t u ∧ Published base home document u := by
  obtain ⟨-, text, short, -⟩ := (rename_joined named (temporary_named named)).mp done
  obtain ⟨seat, free, seen⟩ := look_renamed led named plain put done
  constructor
  · refine ⟨seat, fun place => ?_⟩
    rw [seen]
    by_cases here : place = home ++ [document.1]
    · rw [if_pos here]
      exact .inr ⟨here ▸ free, home, led, .published document List.mem_cons_self here rfl⟩
    by_cases before : place = home ++ [temporary document.1]
    · rw [if_neg here, if_pos before]
      exact .inr ⟨before ▸ plain, home, led,
        .begun document List.mem_cons_self before (.inl rfl)⟩
    · rw [if_neg here, if_neg before]
      exact .inl rfl
  · have apart : home ++ [temporary document.1] ≠ home ++ [document.1] := fun same =>
      temporary_ne document.1 (Entry.place_injective same).symm
    have longer : Text.byteLength (temporary document.1) = Text.byteLength document.1 + 4 :=
      String.utf8ByteSize_append
    constructor
    case stands => rw [seen, if_pos rfl]
    case cleared => rw [seen, if_neg apart, if_pos rfl]
    case text => exact text
    case short => omega

end Steps

/-- The document is written to its temporary file and that is renamed; each may fail. -/
theorem publish_touched {faults : List (Option Fault)} {outcome : Outcome Unit}
    (named : EntryName document.1) (unlinked : ∀ home, t.directory? base = some home →
      ∀ target, t.look (home ++ [temporary document.1]) ≠ some (.link target))
    (done : performWith faults (publish (Path.join base document.1) document.2) t = (outcome, u)) :
    Touched base [document] t u ∧ (outcome = .ok () → ∃ home, t.directory? base = some home ∧
      Published base home document u) := by
  rw [publish, performWith, temporary_join named, ← contentOf] at done
  cases attempted : (Change.write (Path.join base (temporary document.1))
      (contentOf document.2)).attempt (faults.headD none) t with
  | mk written w =>
  rw [attempted] at done
  rcases attempt_write (temporary_named named) unlinked attempted with ⟨failed, rfl⟩ | begun
  · cases written with
    | ok _ => exact absurd rfl failed
    | error e =>
      cases done
      exact ⟨touched_refl base [document] _, fun ok => absurd ok failed_ne_ok⟩
  obtain ⟨home, part, led, plain, put, whole⟩ := begun
  have touched : Touched base [document] t w := put ▸ written_touched led plain
  cases written with
  | error e =>
    cases done
    exact ⟨touched, fun ok => absurd ok failed_ne_ok⟩
  | ok _ =>
    cases whole rfl
    dsimp only at done
    rw [performWith] at done
    cases attempted : (Change.rename (Path.join base (temporary document.1))
        (Path.join base document.1)).attempt (faults.tail.headD none) w with
    | mk renamed v =>
    rw [attempted] at done
    rcases attempt_rename attempted with ⟨failed, rfl⟩ | ⟨rfl, moved⟩
    · cases renamed with
      | ok _ => exact absurd rfl failed
      | error e =>
        cases done
        exact ⟨touched, fun ok => absurd ok failed_ne_ok⟩
    · cases done
      obtain ⟨touched, published⟩ := renamed_published led named plain put moved
      exact ⟨touched, fun _ => ⟨home, led, published⟩⟩

/-- By induction on the documents: what the first one leaves is where the others start. -/
theorem publish_all_touched {faults : List (Option Fault)} {outcome : Outcome Unit}
    (separate : Separate documents) (unfollowed : Unfollowed base documents t)
    (done : performWith faults (publishAll base documents) t = (outcome, u)) :
    Touched base documents t u ∧ (outcome = .ok () → ∀ document ∈ documents,
      ∃ home, t.directory? base = some home ∧ Published base home document u) := by
  induction documents generalizing faults t with
  | nil =>
    cases done
    exact ⟨touched_refl base [] _, fun _ document listed => absurd listed List.not_mem_nil⟩
  | cons first rest ih =>
    rw [publish_all_cons, perform_with_append] at done
    cases begun : performWith faults (publish (Path.join base first.1) first.2) t with
    | mk published w =>
    obtain ⟨touched, complete⟩ := publish_touched (separate.named first List.mem_cons_self)
      (fun home led => unfollowed home led first List.mem_cons_self) begun
    rw [begun] at done
    cases published with
    | error e =>
      cases done
      exact ⟨touched_trans touched (touched_refl base rest _),
        fun ok => absurd ok failed_ne_ok⟩
    | ok _ =>
      obtain ⟨touched', complete'⟩ :=
        ih (separate_tail separate) (unfollowed_rest touched unfollowed) done
      refine ⟨touched_trans touched touched', fun succeeded document listed => ?_⟩
      rcases List.mem_cons.mp listed with rfl | later
      · obtain ⟨home, led, whole⟩ := complete rfl
        have only : ∀ other, w.directory? base = some other → other = home := fun other led' =>
          Option.some.inj ((touched_led touched led').symm.trans led)
        exact ⟨home, led, published_keeps separate touched' only whole⟩
      · obtain ⟨home, led, whole⟩ := complete' succeeded document later
        exact ⟨home, touched_led touched led, whole⟩

/-- By induction on the documents. Only the last file can take the place of a link that the path
follows: nothing could be written after it. -/
theorem published_led {faults : List (Option Fault)} (separate : Separate documents)
    (unfollowed : Unfollowed base documents t)
    (done : performWith faults (publishAll base documents) t = (.ok (), u))
    (led : t.directory? base = some home)
    (last : ∀ document ∈ documents.getLast?, ∀ target,
      t.look (home ++ [document.1]) ≠ some (.link target)) :
    u.directory? base = some home := by
  induction documents generalizing faults t with
  | nil =>
    cases done
    exact led
  | cons first rest ih =>
    rw [publish_all_cons, perform_with_append] at done
    cases begun : performWith faults (publish (Path.join base first.1) first.2) t with
    | mk published w =>
    obtain ⟨touched, -⟩ := publish_touched (separate.named first List.mem_cons_self)
      (fun home led => unfollowed home led first List.mem_cons_self) begun
    rw [begun] at done
    cases published with
    | error e => cases done
    | ok _ =>
      cases rest with
      | nil =>
        cases done
        refine touched_still_led touched led fun document listed target => ?_
        cases List.mem_singleton.mp listed
        exact ⟨unfollowed home led first List.mem_cons_self target, last first rfl target⟩
      | cons second more =>
        have unfollowed' := unfollowed_rest touched unfollowed
        obtain ⟨-, complete⟩ := publish_all_touched (separate_tail separate) unfollowed' done
        obtain ⟨again, led', -⟩ := complete rfl second List.mem_cons_self
        cases led.symm.trans (touched_led touched led')
        refine ih (separate_tail separate) unfollowed' done led' fun document listed => ?_
        exact touched_unlinked touched (last document listed)

end Documents

end StackSynth.Assembly
