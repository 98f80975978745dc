import StackSynth.Proofs.Asset.Stream

/-!
What a fingerprint depends on. The files that it covers are put in the order of the names that lead
to them, compared as bytes one name after the other, so that the digest is told by the files alone:
neither the order in which directories are listed counts, nor what is excluded, nor a directory
without files, nor a link.
-/
namespace StackSynth

theorem Outcome.mapM_succeeds {ε α β : Type} {act : α → Except ε β} {items : List α}
    (each : ∀ item ∈ items, ∃ b, act item = .ok b) : ∃ results, items.mapM act = .ok results := by
  induction items with
  | nil => exact ⟨[], rfl⟩
  | cons item rest ih =>
    obtain ⟨here, later⟩ := List.forall_mem_cons.mp each
    obtain ⟨b, first⟩ := here
    obtain ⟨results, others⟩ := ih later
    refine ⟨b :: results, ?_⟩
    rw [List.mapM_cons, first, others]
    rfl

/-- Where the items are apart from one another in order, so are all things that come of them. -/
theorem Outcome.pairwise_of_mapM {ε α β : Type} {R : β → β → Prop} {act : α → Except ε (List β)}
    {items : List α} {lists : List (List β)} (done : items.mapM act = .ok lists)
    (each : ∀ a ∈ items, ∀ bs, act a = .ok bs → bs.Pairwise R)
    (apart : items.Pairwise fun a a' => ∀ bs bs', act a = .ok bs → act a' = .ok bs' →
      ∀ b ∈ bs, ∀ b' ∈ bs', R b b') : lists.flatten.Pairwise R := by
  induction items generalizing lists with
  | nil =>
    cases done
    exact List.Pairwise.nil
  | cons item rest ih =>
    rw [List.mapM_cons] at done
    obtain ⟨bs, first, done⟩ := Outcome.bind_ok done
    obtain ⟨more, others, done⟩ := Outcome.bind_ok done
    cases done
    obtain ⟨here, later⟩ := List.forall_mem_cons.mp each
    obtain ⟨after, apart⟩ := List.pairwise_cons.mp apart
    rw [List.flatten_cons, List.pairwise_append]
    refine ⟨here bs first, ih others later apart, ?_⟩
    intro b inside b' listed
    obtain ⟨bs', among, inside'⟩ := List.mem_flatten.mp listed
    obtain ⟨a', member, made⟩ := (Outcome.outcomes_of_mapM others).2 bs' among
    exact after a' member bs bs' first made b inside b' inside'

namespace Fingerprint

/-- The bytes of the names that lead to a file. -/
def nameBytes (f : ContextFile) : List Bytes := f.1.map fun name => name.toUTF8.toList

/-- The names are compared one after the other, each as its bytes. -/
def Before (f g : ContextFile) : Prop := nameBytes f < nameBytes g

instance : Std.Irrefl Before where
  irrefl f := List.lt_irrefl (nameBytes f)

instance : Std.Antisymm Before where
  antisymm f _ less more := absurd (List.lt_trans less more) (List.lt_irrefl (nameBytes f))

theorem before_of_names {f g : ContextFile} {names : List String} {name other : String}
    (less : name < other) (own : names ++ [name] <+: f.1) (own' : names ++ [other] <+: g.1) :
    Before f g := by
  obtain ⟨below, same⟩ := own
  obtain ⟨below', same'⟩ := own'
  rw [Before, nameBytes, nameBytes, ← same, ← same']
  simp only [List.append_assoc, List.singleton_append, List.map_append, List.map_cons]
  apply List.append_left_lt
  exact List.cons_lt_cons_iff.mpr (.inl (utf8_lt less))

/-- The outcomes for the entries of a directory, by name. -/
def sortedOutcomes (v : Visit) (path : String) (names : List String)
    (entries : List (String × Entry)) : List (String × Outcome (List ContextFile)) :=
  (filesOfEntries v path names entries).mergeSort fun a b => decide (a.1 ≤ b.1)

theorem sorted_outcomes {v : Visit} {path : String} {names : List String}
    {entries : List (String × Entry)} (distinct : (entries.map Prod.fst).Nodup) :
    (sortedOutcomes v path names entries).Pairwise fun a b => a.1 < b.1 := by
  have ascending : (sortedOutcomes v path names entries).Pairwise fun a b => a.1 ≤ b.1 := by
    let before (a b : String × Outcome (List ContextFile)) : Bool := decide (a.1 ≤ b.1)
    have trans (a b c) (first : before a b = true) (second : before b c = true) :
        before a c = true := by
      simp only [before, decide_eq_true_eq] at *
      exact String.le_trans first second
    have total (a b) : (before a b || before b a) = true := by
      simpa [before] using String.le_total a.1 b.1
    have sorted := List.pairwise_mergeSort trans total (filesOfEntries v path names entries)
    exact sorted.imp fun le => by simpa [before] using le
  have apart : (sortedOutcomes v path names entries).Pairwise fun a b => a.1 ≠ b.1 := by
    have same : (sortedOutcomes v path names entries).Perm (filesOfEntries v path names entries) :=
      List.mergeSort_perm _ _
    rw [← List.pairwise_map (f := Prod.fst) (R := (· ≠ ·))]
    refine (same.map Prod.fst).nodup_iff.mpr ?_
    rw [files_of_entries_eq, List.map_map]
    exact distinct
  exact (ascending.and apart).imp fun ⟨le, differ⟩ => lt_of_le_of_ne le differ

theorem mem_sorted_outcomes {v : Visit} {path : String} {names : List String}
    {entries : List (String × Entry)} {a : String × Outcome (List ContextFile)} :
    a ∈ sortedOutcomes v path names entries ↔ ∃ entry ∈ entries,
      (entry.1, if v.excluded (names ++ [entry.1]) then .ok []
        else filesOf v (Path.join path entry.1) (names ++ [entry.1]) entry.2) = a := by
  rw [sortedOutcomes, List.mem_mergeSort, files_of_entries_eq, List.mem_map]

theorem files_of_dir_eq (v : Visit) (path : String) (names : List String)
    (entries : List (String × Entry)) (short : isTooLong path = false) :
    filesOf v path names (.dir entries) =
      (do return (← (sortedOutcomes v path names entries).mapM (·.2)).flatten) := by
  rw [filesOf, if_neg (by rw [short]; exact Bool.false_ne_true)]
  rfl

/-- The walk finds files in order. -/
theorem files_of_sorted {v : Visit} {e : Entry} (named : e.WellNamed) {path : String}
    {names : List String} {found : List ContextFile} (done : filesOf v path names e = .ok found) :
    found.Pairwise Before := by
  induction named generalizing path names found with
  | file content =>
    rw [filesOf] at done
    split at done
    · cases done
    · cases done
      exact List.pairwise_singleton _ _
  | link target =>
    rw [filesOf] at done
    cases done
    exact List.Pairwise.nil
  | @dir entries distinct legal inside ih =>
    have short : isTooLong path = false := by
      by_contra long
      rw [filesOf, if_pos (by simpa using long)] at done
      cases done
    rw [files_of_dir_eq v path names entries short] at done
    obtain ⟨lists, each, done⟩ := Outcome.bind_ok done
    cases done
    -- what is found below an entry has the name of that entry in its path
    have below : ∀ a ∈ sortedOutcomes v path names entries, ∀ fs, a.2 = .ok fs →
        fs.Pairwise Before ∧ ∀ f ∈ fs, names ++ [a.1] <+: f.1 := by
      intro a member fs made
      obtain ⟨entry, there, rfl⟩ := mem_sorted_outcomes.mp member
      dsimp only at made
      split at made
      · cases made
        exact ⟨List.Pairwise.nil, by simp⟩
      · refine ⟨ih entry there made, ?_⟩
        intro f listed
        obtain ⟨below, same, -⟩ := (mem_files_of (inside entry there) made f).mp listed
        exact ⟨below, same.symm⟩
    apply Outcome.pairwise_of_mapM each
    · intro a member fs made
      exact (below a member fs made).1
    · refine (sorted_outcomes distinct).imp_of_mem ?_
      intro a b member member' less fs gs made made' f inside g inside'
      exact before_of_names less ((below a member fs made).2 f inside)
        ((below b member' gs made').2 g inside')

/-! Reading without failures. -/

/-- The system takes the paths of all files and directories that the walk comes to. -/
def Readable (v : Visit) (path : String) (names : List String) (e : Entry) : Prop :=
  ∀ below inner, e.at? below = some inner → (∀ target, inner ≠ .link target) →
    Spared v names below → isTooLong (below.foldl Path.join path) = false

theorem Readable.own {v : Visit} {path : String} {names : List String} {e : Entry}
    (readable : Readable v path names e) (direct : ∀ target, e ≠ .link target) :
    isTooLong path = false :=
  readable [] e rfl direct (spared_nil v names)

theorem Readable.entry {v : Visit} {path : String} {names : List String}
    {entries : List (String × Entry)} {entry : String × Entry}
    (readable : Readable v path names (.dir entries)) (distinct : (entries.map Prod.fst).Nodup)
    (there : entry ∈ entries) (kept : v.excluded (names ++ [entry.1]) = false) :
    Readable v (Path.join path entry.1) (names ++ [entry.1]) entry.2 := by
  intro below inner found direct spared
  refine readable (entry.1 :: below) inner ?_ direct (spared_cons.mpr ⟨kept, spared⟩)
  exact Option.bind_eq_some_iff.mpr ⟨entry.2, Entry.child_of_mem distinct there, found⟩

theorem files_of_readable {v : Visit} {e : Entry} (named : e.WellNamed) {path : String}
    {names : List String} (readable : Readable v path names e) :
    ∃ found, filesOf v path names e = .ok found := by
  induction named generalizing path names with
  | file content =>
    have short := readable.own (by simp)
    exact ⟨[(names, content)], by rw [filesOf, if_neg (by simp [short])]⟩
  | link target => exact ⟨[], by rw [filesOf]⟩
  | @dir entries distinct legal inside ih =>
    have short := readable.own (by simp)
    have each : ∀ a ∈ sortedOutcomes v path names entries, ∃ fs, a.2 = .ok fs := by
      intro a member
      obtain ⟨entry, there, rfl⟩ := mem_sorted_outcomes.mp member
      by_cases excluded : v.excluded (names ++ [entry.1]) = true
      · exact ⟨[], if_pos excluded⟩
      · have kept : v.excluded (names ++ [entry.1]) = false := Bool.eq_false_iff.mpr excluded
        obtain ⟨fs, made⟩ := ih entry there (readable.entry distinct there kept)
        exact ⟨fs, (if_neg excluded).trans made⟩
    obtain ⟨lists, done⟩ := Outcome.mapM_succeeds each
    exact ⟨lists.flatten, by rw [files_of_dir_eq v path names entries short, done]; rfl⟩

/-! What is excluded. -/

/-- A pattern of the list, without the slashes at its end and possibly followed by all that is below,
fits the path. -/
def Excluded (exclude : List String) (names : List String) : Prop :=
  ∃ pattern ∈ exclude, ∃ candidate ∈ candidates pattern, ∃ tokens,
    Glob.parse candidate = .ok tokens ∧ Glob.accepts tokens (pathBytes names) = true

theorem is_excluded_iff {directory : String} {exclude : List String}
    {read : List (List Glob.Token)} (compiled : patterns directory exclude = .ok read)
    (names : List String) : isExcluded read names = true ↔ Excluded exclude names := by
  rw [patterns] at compiled
  obtain ⟨tokens, each, compiled⟩ := Outcome.bind_ok compiled
  split at compiled
  · cases compiled
  cases compiled
  obtain ⟨complete, sound⟩ := Outcome.outcomes_of_mapM each
  rw [isExcluded, List.any_eq_true]
  constructor
  · rintro ⟨one, listed, fits⟩
    obtain ⟨⟨pattern, candidate⟩, member, parsed⟩ := sound one listed
    obtain ⟨pattern', there, member⟩ := List.mem_flatMap.mp member
    obtain ⟨candidate', among, same⟩ := List.mem_map.mp member
    cases same
    dsimp only at parsed
    split at parsed
    · next own =>
      cases parsed
      exact ⟨pattern, there, candidate, among, one, own, fits⟩
    · cases parsed
  · rintro ⟨pattern, there, candidate, among, one, parsed, fits⟩
    obtain ⟨two, listed, own⟩ := complete (pattern, candidate)
      (List.mem_flatMap.mpr ⟨pattern, there, List.mem_map.mpr ⟨candidate, among, rfl⟩⟩)
    dsimp only at own
    rw [parsed] at own
    cases own
    exact ⟨one, listed, fits⟩

/-- A regular file that is not excluded, neither itself nor by a directory that leads to it. -/
structure Kept (exclude : List String) (context : Entry) (f : ContextFile) : Prop where
  file : context.at? f.1 = some (.file f.2)
  included : ∀ above, above ≠ [] → above <+: f.1 → ¬ Excluded exclude above

/-- The directory is a build context that is read without failures: it is there, the patterns compile,
and the system takes the path of each file and directory that is not excluded. -/
structure Reads (t : FileTree) (directory : String) (exclude : List String)
    (entries : List (String × Entry)) : Prop where
  there : t.entry directory = .ok (.dir entries)
  named : (Entry.dir entries).WellNamed
  compiled : ∃ read, patterns directory exclude = .ok read
  short : ∀ below inner, (Entry.dir entries).at? below = some inner →
    (∀ target, inner ≠ .link target) →
    (∀ above, above ≠ [] → above <+: below → ¬ Excluded exclude above) →
    isTooLong (below.foldl Path.join directory) = false

/-- The files are the kept ones, in order. -/
structure InOrder (exclude : List String) (entries : List (String × Entry))
    (found : List ContextFile) : Prop where
  sorted : found.Pairwise Before
  complete : ∀ f, f ∈ found ↔ Kept exclude (.dir entries) f

theorem InOrder.unique {exclude : List String} {entries entries' : List (String × Entry)}
    {found found' : List ContextFile} (own : InOrder exclude entries found)
    (other : InOrder exclude entries' found')
    (same : ∀ f, Kept exclude (.dir entries') f ↔ Kept exclude (.dir entries) f) :
    found' = found := by
  apply other.sorted.eq_of_mem_iff own.sorted
  intro f
  rw [other.complete, own.complete, same]

theorem spared_iff {directory : String} {exclude : List String} {read : List (List Glob.Token)}
    (compiled : patterns directory exclude = .ok read) (below : List String) :
    Spared ⟨directory, isExcluded read⟩ [] below ↔
      ∀ above, above ≠ [] → above <+: below → ¬ Excluded exclude above := by
  simp only [Spared, List.nil_append, ← is_excluded_iff compiled, Bool.not_eq_true]

/-- A context that can be read is read, and gives the files that are kept in order. -/
theorem files_in_order {t : FileTree} {directory : String} {exclude : List String}
    {entries : List (String × Entry)} (reads : Reads t directory exclude entries) :
    ∃ found, files t directory exclude = .ok found ∧ InOrder exclude entries found := by
  obtain ⟨there, named, ⟨read, compiled⟩, short⟩ := reads
  have readable : Readable ⟨directory, isExcluded read⟩ directory [] (.dir entries) := by
    intro below inner found direct spared
    exact short below inner found direct ((spared_iff compiled below).mp spared)
  obtain ⟨found, walked⟩ := files_of_readable named readable
  have done : files t directory exclude = .ok found := by
    simp only [files, there, compiled, bind, Except.bind]
    exact walked
  refine ⟨found, done, files_of_sorted named walked, ?_⟩
  intro f
  rw [mem_files_of named walked]
  constructor
  · rintro ⟨below, same, file, spared⟩
    rw [List.nil_append] at same
    subst same
    exact ⟨file, (spared_iff compiled f.1).mp spared⟩
  · rintro ⟨file, included⟩
    exact ⟨f.1, rfl, file, (spared_iff compiled f.1).mpr included⟩

/-- The fingerprint is the digest of the kept files in order, with the options after them, and it is
the same wherever the same files are kept. -/
theorem fingerprint_of_kept {t : FileTree} {directory : String} {o : BuildOptions}
    {entries : List (String × Entry)} (reads : Reads t directory o.exclude entries) :
    ∃ found, InOrder o.exclude entries found ∧
      (∀ others, InOrder o.exclude entries others → others = found) ∧
      fingerprint t directory o = .ok (Digest.hex (Digest.Sha256.digest (
        (found.flatMap fun f => (Text.join "/" f.1).toUTF8.toList ++ [0] ++ f.2 ++ [0])
          ++ ("target:" ++ o.target.getD "").toUTF8.toList ++ [0]
          ++ ("file:" ++ o.file.getD "").toUTF8.toList ++ [0]
          ++ ("exclude:" ++ Text.join "," o.exclude).toUTF8.toList ++ [0]))) ∧
      ∀ t' directory' entries', Reads t' directory' o.exclude entries' →
        (∀ f, Kept o.exclude (.dir entries') f ↔ Kept o.exclude (.dir entries) f) →
        fingerprint t' directory' o = fingerprint t directory o := by
  obtain ⟨found, done, order⟩ := files_in_order reads
  refine ⟨found, order, ?_, ?_, ?_⟩
  · intro others other
    exact order.unique other fun f => Iff.rfl
  · have bytes : stream found o =
        (found.flatMap fun f => (Text.join "/" f.1).toUTF8.toList ++ [0] ++ f.2 ++ [0])
          ++ ("target:" ++ o.target.getD "").toUTF8.toList ++ [0]
          ++ ("file:" ++ o.file.getD "").toUTF8.toList ++ [0]
          ++ ("exclude:" ++ Text.join "," o.exclude).toUTF8.toList ++ [0] := by
      have file : fileBytes = fun f =>
          (Text.join "/" f.1).toUTF8.toList ++ [0] ++ f.2 ++ [0] := by
        funext f
        simp [fileBytes, pathBytes, pathText]
      simp only [stream, closed, file, List.append_assoc]
    rw [fingerprint_eq done, bytes]
  · intro t' directory' entries' reads' same
    obtain ⟨found', done', order'⟩ := files_in_order reads'
    rw [fingerprint_eq done, fingerprint_eq done', order.unique order' same]

/-- A file, and another one in a directory whose name the name of the first starts with, among what
does not count. -/
def scattered : List (String × Entry) :=
  [("a.b", .file [1]), ("log", .file [3]), ("now", .link "log"), ("tmp", .dir []),
    ("a", .dir [("b", .file [2])])]

/-- The two files alone, listed the other way round. -/
def gathered : List (String × Entry) := [("a", .dir [("b", .file [2])]), ("a.b", .file [1])]

def twice : FileTree := ⟨.dir [("one", .dir scattered), ("two", .dir gathered)], []⟩

theorem at_dir_cases {entries : List (String × Entry)} {below : List String} {inner : Entry}
    (found : (Entry.dir entries).at? below = some inner) :
    below = [] ∨ ∃ entry ∈ entries, ∃ rest, below = entry.1 :: rest ∧
      entry.2.at? rest = some inner := by
  cases below with
  | nil => exact .inl rfl
  | cons name rest =>
    obtain ⟨child, first, deeper⟩ := Option.bind_eq_some_iff.mp found
    exact .inr ⟨(name, child), Entry.child_mem first, rest, rfl, deeper⟩

theorem at_leaf {e inner : Entry} {below : List String} (leaf : ∀ name, e.child? name = none)
    (found : e.at? below = some inner) : below = [] := by
  cases below with
  | nil => rfl
  | cons name rest =>
    obtain ⟨child, first, _⟩ := Option.bind_eq_some_iff.mp found
    rw [leaf name] at first
    cases first

theorem paths_among {entries : List (String × Entry)} (among : entries ⊆ scattered)
    {below : List String} {inner : Entry} (found : (Entry.dir entries).at? below = some inner) :
    below ∈ [[], ["a.b"], ["log"], ["now"], ["tmp"], ["a"], ["a", "b"]] := by
  rcases at_dir_cases found with rfl | ⟨entry, member, rest, rfl, deeper⟩
  · simp
  · have there := among member
    simp only [scattered, List.mem_cons, List.not_mem_nil, or_false] at there
    rcases there with rfl | rfl | rfl | rfl | rfl
    · cases at_leaf (fun _ => rfl) deeper
      simp
    · cases at_leaf (fun _ => rfl) deeper
      simp
    · cases at_leaf (fun _ => rfl) deeper
      simp
    · rcases at_dir_cases deeper with rfl | ⟨_, none, _⟩
      · simp
      · cases none
    · rcases at_dir_cases deeper with rfl | ⟨entry, one, rest, rfl, last⟩
      · simp
      · cases List.mem_singleton.mp one
        cases at_leaf (fun _ => rfl) last
        simp

theorem named_among {entries : List (String × Entry)} (among : entries ⊆ scattered)
    (distinct : (entries.map Prod.fst).Nodup) : (Entry.dir entries).WellNamed := by
  have legal : ∀ entry ∈ scattered, IsEntryName entry.1 := by decide
  have inner : (Entry.dir [("b", .file [2])]).WellNamed :=
    .dir (by decide) (by decide) (by simpa using Entry.WellNamed.file [2])
  have inside : ∀ entry ∈ scattered, entry.2.WellNamed := by
    simp only [scattered, List.forall_mem_cons]
    exact ⟨.file [1], .file [3], .link "log", .dir (by decide) (by decide) (by simp), inner,
      by simp⟩
  exact .dir distinct (fun entry member => legal entry (among member))
    fun entry member => inside entry (among member)

theorem patterns_log (directory : String) : patterns directory ["log"] = .ok [
    [.literal 'l', .literal 'o', .literal 'g'],
    [.literal 'l', .literal 'o', .literal 'g', .trailing]] := rfl

theorem reads_among {directory : String} {entries : List (String × Entry)}
    (there : twice.entry directory = .ok (.dir entries)) (root : directory ∈ ["/one", "/two"])
    (among : entries ⊆ scattered) (distinct : (entries.map Prod.fst).Nodup) :
    Reads twice directory ["log"] entries := by
  refine ⟨there, named_among among distinct, ⟨_, patterns_log directory⟩, ?_⟩
  intro below inner found _ _
  have short : ∀ directory ∈ ["/one", "/two"],
      ∀ below ∈ [[], ["a.b"], ["log"], ["now"], ["tmp"], ["a"], ["a", "b"]],
      isTooLong (below.foldl Path.join directory) = false := by decide
  exact short directory root below (paths_among among found)

theorem Reads.in_order {t : FileTree} {directory : String} {exclude : List String}
    {entries : List (String × Entry)} {found : List ContextFile}
    (reads : Reads t directory exclude entries) (done : files t directory exclude = .ok found) :
    InOrder exclude entries found := by
  obtain ⟨all, made, order⟩ := files_in_order reads
  cases made.symm.trans done
  exact order

/-- By its names, the file in the directory comes first; by its whole path it would come last. -/
theorem scattered_fingerprint :
    Reads twice "/one" ["log"] scattered ∧
      InOrder ["log"] scattered [(["a", "b"], [2]), (["a.b"], [1])] ∧
      Reads twice "/two" ["log"] gathered ∧
      (∀ f, Kept ["log"] (.dir gathered) f ↔ Kept ["log"] (.dir scattered) f) ∧
      fingerprint twice "/two" { exclude := ["log"] } =
        fingerprint twice "/one" { exclude := ["log"] } := by
  have one : Reads twice "/one" ["log"] scattered :=
    reads_among (by cbv) (by simp) (by simp) (by decide)
  have two : Reads twice "/two" ["log"] gathered :=
    reads_among (by cbv) (by simp) (by simp [scattered, gathered]) (by decide)
  have order : InOrder ["log"] scattered [(["a", "b"], [2]), (["a.b"], [1])] := by
    apply one.in_order
    simp only [files, one.there, patterns_log, bind, Except.bind]
    cbv
  have order' : InOrder ["log"] gathered [(["a", "b"], [2]), (["a.b"], [1])] := by
    apply two.in_order
    simp only [files, two.there, patterns_log, bind, Except.bind]
    cbv
  have same : ∀ f, Kept ["log"] (.dir gathered) f ↔ Kept ["log"] (.dir scattered) f := by
    intro f
    rw [← order.complete, ← order'.complete]
  obtain ⟨_, _, _, _, alike⟩ := fingerprint_of_kept (o := { exclude := ["log"] }) one
  exact ⟨one, order, two, same, alike twice "/two" gathered two same⟩

end Fingerprint

end StackSynth
