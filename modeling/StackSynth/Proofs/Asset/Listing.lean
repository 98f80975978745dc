import Mathlib.Data.List.Nodup
import StackSynth.Asset.Fingerprint
import StackSynth.Proofs.Outcome

/-!
What is listed of a build context. The files that a fingerprint covers are the regular files of the
directory tree that no pattern excludes, neither themselves nor by a directory above them.
-/
namespace StackSynth

/-- A name that a file system can give to an entry of a directory. -/
structure IsEntryName (name : String) : Prop where
  nonempty : name.toList ≠ []
  no_slash : '/' ∉ name.toList
  no_zero : '\x00' ∉ name.toList

instance (name : String) : Decidable (IsEntryName name) :=
  decidable_of_iff (name.toList ≠ [] ∧ '/' ∉ name.toList ∧ '\x00' ∉ name.toList)
    ⟨fun ⟨nonempty, no_slash, no_zero⟩ => ⟨nonempty, no_slash, no_zero⟩,
      fun ⟨nonempty, no_slash, no_zero⟩ => ⟨nonempty, no_slash, no_zero⟩⟩

/-- The names that lead from a directory to something below it. -/
def IsEntryPath (names : List String) : Prop := names ≠ [] ∧ ∀ name ∈ names, IsEntryName name

/-- The names in each directory are legal and differ from one another. -/
inductive Entry.WellNamed : Entry → Prop
  | file (content : Bytes) : WellNamed (.file content)
  | link (target : String) : WellNamed (.link target)
  | dir {entries : List (String × Entry)} (distinct : (entries.map Prod.fst).Nodup)
    (legal : ∀ entry ∈ entries, IsEntryName entry.1)
    (inside : ∀ entry ∈ entries, WellNamed entry.2) : WellNamed (.dir entries)

namespace Entry

theorem child_mem {entries : List (String × Entry)} {name : String} {e : Entry}
    (child : (dir entries).child? name = some e) : (name, e) ∈ entries := by
  obtain ⟨⟨k, e'⟩, found, same⟩ := Option.map_eq_some_iff.mp child
  cases same
  have named : k = name := by simpa using List.find?_some found
  exact named ▸ List.mem_of_find?_eq_some found

theorem child_of_mem {entries : List (String × Entry)} {name : String} {e : Entry}
    (distinct : (entries.map Prod.fst).Nodup) (member : (name, e) ∈ entries) :
    (dir entries).child? name = some e := by
  induction entries with
  | nil => cases member
  | cons first rest ih =>
    obtain ⟨fresh, distinct⟩ := List.nodup_cons.mp distinct
    rcases List.mem_cons.mp member with rfl | later
    · simp [child?]
    · have other : first.1 ≠ name := by
        intro same
        exact fresh (List.mem_map.mpr ⟨(name, e), later, same.symm⟩)
      have skipped : (dir (first :: rest)).child? name = (dir rest).child? name := by
        simp [child?, other]
      rw [skipped]
      exact ih distinct later

theorem WellNamed.at? {names : List String} {e below : Entry} (named : e.WellNamed)
    (found : e.at? names = some below) : below.WellNamed := by
  induction names generalizing e with
  | nil => cases found; exact named
  | cons name rest ih =>
    obtain ⟨child, first, deeper⟩ := Option.bind_eq_some_iff.mp found
    cases named with
    | file content => cases first
    | link target => cases first
    | dir _ _ inside => exact ih (inside _ (child_mem first)) deeper

/-- The names that lead to an entry are names of entries themselves. -/
theorem WellNamed.names {names : List String} {e below : Entry} (named : e.WellNamed)
    (found : e.at? names = some below) : ∀ name ∈ names, IsEntryName name := by
  induction names generalizing e with
  | nil => simp
  | cons name rest ih =>
    obtain ⟨child, first, deeper⟩ := Option.bind_eq_some_iff.mp found
    cases named with
    | file content => cases first
    | link target => cases first
    | dir _ legal inside =>
      have member := child_mem first
      exact List.forall_mem_cons.mpr ⟨legal _ member, ih (inside _ member) deeper⟩

end Entry

theorem FileTree.entry_well_named {t : FileTree} {path : String} {e : Entry}
    (named : t.top.WellNamed) (found : t.entry path = .ok e) : e.WellNamed := by
  rw [FileTree.entry] at found
  obtain ⟨names, _, found⟩ := Outcome.bind_ok found
  split at found
  · next there =>
    cases found
    exact named.at? there
  · cases found

namespace Fingerprint

theorem files_of_entries_eq (v : Visit) (path : String) (names : List String)
    (entries : List (String × Entry)) :
    filesOfEntries v path names entries = entries.map fun entry =>
      (entry.1, if v.excluded (names ++ [entry.1]) then .ok []
        else filesOf v (Path.join path entry.1) (names ++ [entry.1]) entry.2) := by
  induction entries with
  | nil => rfl
  | cons entry rest ih => rw [filesOfEntries, ih]; rfl

/-- The files of a directory are those of the entries in it that are not excluded. -/
theorem files_of_dir {v : Visit} {path : String} {names : List String}
    {entries : List (String × Entry)} {found : List ContextFile}
    (done : filesOf v path names (.dir entries) = .ok found) :
    (∀ entry ∈ entries, v.excluded (names ++ [entry.1]) = false → ∃ files,
      filesOf v (Path.join path entry.1) (names ++ [entry.1]) entry.2 = .ok files ∧
        files ⊆ found) ∧
    ∀ f ∈ found, ∃ entry ∈ entries, v.excluded (names ++ [entry.1]) = false ∧ ∃ files,
      filesOf v (Path.join path entry.1) (names ++ [entry.1]) entry.2 = .ok files ∧ f ∈ files := by
  rw [filesOf] at done
  split at done
  · cases done
  · rw [files_of_entries_eq] at done
    generalize sorted : List.mergeSort _ _ = outcomes at done
    dsimp only at done
    obtain ⟨lists, each, done⟩ := Outcome.bind_ok done
    cases done
    obtain ⟨complete, sound⟩ := Outcome.outcomes_of_mapM each
    simp only [← sorted, List.mem_mergeSort, List.mem_map] at complete sound
    constructor
    · intro entry member kept
      obtain ⟨files, listed, outcome⟩ := complete _ ⟨entry, member, rfl⟩
      rw [kept] at outcome
      exact ⟨files, outcome, fun f inside => List.mem_flatten.mpr ⟨files, listed, inside⟩⟩
    · intro f member
      obtain ⟨files, listed, inside⟩ := List.mem_flatten.mp member
      obtain ⟨_, ⟨entry, member, rfl⟩, outcome⟩ := sound files listed
      by_cases excluded : v.excluded (names ++ [entry.1]) = true
      · rw [if_pos excluded] at outcome
        cases outcome
        cases inside
      · rw [if_neg excluded] at outcome
        exact ⟨entry, member, Bool.eq_false_iff.mpr excluded, files, outcome, inside⟩

/-- Neither the entry at the end of the names nor a directory above it is excluded. -/
def Spared (v : Visit) (names below : List String) : Prop :=
  ∀ above, above ≠ [] → above <+: below → v.excluded (names ++ above) = false

theorem spared_cons {v : Visit} {names rest : List String} {name : String} :
    Spared v names (name :: rest) ↔
      v.excluded (names ++ [name]) = false ∧ Spared v (names ++ [name]) rest := by
  constructor
  · intro spared
    refine ⟨spared [name] (List.cons_ne_nil _ _) ⟨rest, rfl⟩, ?_⟩
    intro above _ within
    have longer : name :: above <+: name :: rest := List.cons_prefix_cons.mpr ⟨rfl, within⟩
    simpa using spared (name :: above) (List.cons_ne_nil _ _) longer
  · rintro ⟨own, spared⟩ above nonempty within
    cases above with
    | nil => exact absurd rfl nonempty
    | cons first above =>
      obtain ⟨rfl, deeper⟩ := List.cons_prefix_cons.mp within
      by_cases last : above = []
      · subst last
        exact own
      · simpa using spared above last deeper

theorem spared_nil (v : Visit) (names : List String) : Spared v names [] := by
  intro above nonempty within
  exact absurd (List.prefix_nil.mp within) nonempty

/-- A regular file below an entry, with the names that lead to it from where the walk has got to,
none of which is excluded. -/
def Listed (v : Visit) (names : List String) (e : Entry) (f : ContextFile) : Prop :=
  ∃ below, f.1 = names ++ below ∧ e.at? below = some (.file f.2) ∧
    ∀ above, above ≠ [] → above <+: below → v.excluded (names ++ above) = false

theorem listed_file {v : Visit} {names : List String} {content : Bytes} {f : ContextFile} :
    Listed v names (.file content) f ↔ f = (names, content) := by
  constructor
  · rintro ⟨below, same, found, _⟩
    cases below with
    | nil =>
      cases found
      exact Prod.ext (same.trans (List.append_nil names)) rfl
    | cons name rest => cases found
  · rintro rfl
    exact ⟨[], (List.append_nil names).symm, rfl, spared_nil v names⟩

theorem not_listed_link {v : Visit} {names : List String} {target : String} {f : ContextFile} :
    ¬ Listed v names (.link target) f := by
  rintro ⟨below, _, found, _⟩
  cases below with
  | nil => cases found
  | cons name rest => cases found

/-- What is listed of a directory is listed of one of its entries, whose name is not excluded. -/
theorem listed_dir {v : Visit} {names : List String} {entries : List (String × Entry)}
    (distinct : (entries.map Prod.fst).Nodup) {f : ContextFile} :
    Listed v names (.dir entries) f ↔ ∃ entry ∈ entries,
      v.excluded (names ++ [entry.1]) = false ∧ Listed v (names ++ [entry.1]) entry.2 f := by
  constructor
  · rintro ⟨below, same, found, kept⟩
    cases below with
    | nil => cases found
    | cons name rest =>
      obtain ⟨child, first, deeper⟩ := Option.bind_eq_some_iff.mp found
      obtain ⟨own, spared⟩ := spared_cons.mp kept
      exact ⟨(name, child), Entry.child_mem first, own, rest, by simpa using same, deeper, spared⟩
  · rintro ⟨⟨name, child⟩, member, own, below, same, found, kept⟩
    refine ⟨name :: below, by simpa using same, ?_, spared_cons.mpr ⟨own, kept⟩⟩
    exact Option.bind_eq_some_iff.mpr ⟨child, Entry.child_of_mem distinct member, found⟩

/-- The walk lists what there is to be listed. -/
theorem mem_files_of {v : Visit} {e : Entry} (named : e.WellNamed) {path : String}
    {names : List String} {found : List ContextFile} (done : filesOf v path names e = .ok found)
    (f : ContextFile) : f ∈ found ↔ Listed v names e f := by
  induction named generalizing path names found with
  | file content =>
    rw [filesOf] at done
    split at done
    · cases done
    · cases done
      rw [List.mem_singleton, listed_file]
  | link target =>
    rw [filesOf] at done
    cases done
    simp [not_listed_link]
  | dir distinct _ _ ih =>
    obtain ⟨complete, sound⟩ := files_of_dir done
    rw [listed_dir distinct]
    constructor
    · intro member
      obtain ⟨entry, there, kept, files, below, inside⟩ := sound f member
      exact ⟨entry, there, kept, (ih entry there below).mp inside⟩
    · rintro ⟨entry, there, kept, inside⟩
      obtain ⟨files, below, listed⟩ := complete entry there kept
      exact listed ((ih entry there below).mpr inside)

/-- A regular file of a build context that is not excluded. -/
def Covers (t : FileTree) (directory : String) (exclude : List String) (f : ContextFile) : Prop :=
  ∃ entries patterns, t.entry directory = .ok (.dir entries) ∧
    Fingerprint.patterns directory exclude = .ok patterns ∧
    Listed ⟨directory, isExcluded patterns⟩ [] (.dir entries) f

theorem files_cases {t : FileTree} {directory : String} {exclude : List String}
    {found : List ContextFile} (done : files t directory exclude = .ok found) :
    ∃ entries patterns, t.entry directory = .ok (.dir entries) ∧
      Fingerprint.patterns directory exclude = .ok patterns ∧
      filesOf ⟨directory, isExcluded patterns⟩ directory [] (.dir entries) = .ok found := by
  rw [files] at done
  split at done
  · next entries there =>
    obtain ⟨patterns, read, done⟩ := Outcome.bind_ok done
    exact ⟨entries, patterns, there, read, done⟩
  · cases done

theorem mem_files_iff {t : FileTree} (named : t.top.WellNamed) {directory : String}
    {exclude : List String} {found : List ContextFile}
    (done : files t directory exclude = .ok found) (f : ContextFile) :
    f ∈ found ↔ Covers t directory exclude f := by
  obtain ⟨entries, patterns, there, read, walked⟩ := files_cases done
  rw [mem_files_of (FileTree.entry_well_named named there) walked]
  constructor
  · intro listed
    exact ⟨entries, patterns, there, read, listed⟩
  · rintro ⟨entries', patterns', there', read', listed⟩
    rw [there] at there'
    rw [read] at read'
    cases there'
    cases read'
    exact listed

theorem path_of_covered {t : FileTree} (named : t.top.WellNamed) {directory : String}
    {exclude : List String} {f : ContextFile} (covered : Covers t directory exclude f) :
    IsEntryPath f.1 := by
  obtain ⟨entries, patterns, there, _, below, same, leads, _⟩ := covered
  have same : f.1 = below := same
  rw [same]
  constructor
  · rintro rfl
    cases leads
  · exact (FileTree.entry_well_named named there).names leads

end Fingerprint

end StackSynth
