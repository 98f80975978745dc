import Mathlib
import StackSynth.Proofs.Asset.Listing
import StackSynth.Proofs.Text.Utf8

/-!
What the bytes that are digested tell about a build context. Every file is its path and its content
with a zero byte after each, so a path can be read back from the bytes, and so can a content without
zero bytes. A content that holds one can be taken for a shorter content and further files.
-/
namespace StackSynth

namespace Fingerprint

theorem path_text_chars (names : List String) :
    (pathText names).toList = ['/'].intercalate (names.map String.toList) :=
  String.toList_intercalate

theorem mem_path_text {names : List String} {c : Char} (member : c ∈ (pathText names).toList) :
    c = '/' ∨ ∃ name ∈ names, c ∈ name.toList := by
  rw [path_text_chars] at member
  induction names with
  | nil => cases member
  | cons name rest ih =>
    cases rest with
    | nil =>
      rw [List.map_singleton, List.intercalate_singleton] at member
      exact .inr ⟨name, List.mem_singleton_self name, member⟩
    | cons next rest =>
      rw [List.map_cons, List.map_cons, List.intercalate_cons_cons] at member
      simp only [List.mem_append, List.mem_singleton] at member
      rcases member with (here | slash) | later
      · exact .inr ⟨name, List.mem_cons_self, here⟩
      · exact .inl slash
      · rcases ih later with slash | ⟨other, listed, inside⟩
        · exact .inl slash
        · exact .inr ⟨other, List.mem_cons_of_mem name listed, inside⟩

theorem zero_not_mem_path_bytes {names : List String} (legal : IsEntryPath names) :
    0 ∉ pathBytes names := by
  intro zero
  rcases mem_path_text (zero_mem_utf8 zero) with slash | ⟨name, listed, inside⟩
  · exact absurd slash (by decide)
  · exact (legal.2 name listed).no_zero inside

/-- The names of a path are the pieces of its text. -/
theorem split_path_text {names : List String} (legal : IsEntryPath names) :
    (pathText names).toList.splitOn '/' = names.map String.toList := by
  rw [path_text_chars]
  apply List.splitOn_intercalate
  · intro piece member
    obtain ⟨name, listed, rfl⟩ := List.mem_map.mp member
    exact (legal.2 name listed).no_slash
  · simpa using legal.1

theorem path_bytes_injective {names others : List String} (legal : IsEntryPath names)
    (legal' : IsEntryPath others) (same : pathBytes names = pathBytes others) : names = others := by
  have texts : pathText names = pathText others := utf8_injective same
  apply List.map_injective_iff.mpr fun _ _ => String.toList_inj.mp
  rw [← split_path_text legal, ← split_path_text legal', texts]

/-- Where the same bytes are cut at two zero bytes, the cuts agree or one of the first parts goes on
after a zero byte. -/
theorem zero_cut_cases {before before' rest rest' : Bytes}
    (same : before ++ 0 :: rest = before' ++ 0 :: rest') :
    (before = before' ∧ rest = rest') ∨
    (∃ more, before' = before ++ 0 :: more ∧ rest = more ++ 0 :: rest') ∨
    ∃ more, before = before' ++ 0 :: more ∧ rest' = more ++ 0 :: rest := by
  rcases List.append_eq_append_iff.mp same with ⟨added, longer, tail⟩ | ⟨added, longer, tail⟩
  · cases added with
    | nil => simp_all
    | cons b more =>
      obtain ⟨rfl, shorter⟩ := List.cons.inj tail
      exact .inr (.inl ⟨more, longer, shorter⟩)
  · cases added with
    | nil => simp_all
    | cons b more =>
      obtain ⟨rfl, shorter⟩ := List.cons.inj tail
      exact .inr (.inr ⟨more, longer, shorter⟩)

/-- A file is read back from the bytes up to the end of its path. -/
theorem file_bytes_split {path path' : List String} {content content' rest rest' : Bytes}
    (legal : IsEntryPath path) (legal' : IsEntryPath path')
    (same : fileBytes (path, content) ++ rest = fileBytes (path', content') ++ rest') :
    path = path' ∧ content ++ 0 :: rest = content' ++ 0 :: rest' := by
  have cut : pathBytes path ++ 0 :: (content ++ 0 :: rest) =
      pathBytes path' ++ 0 :: (content' ++ 0 :: rest') := by
    simpa [fileBytes] using same
  rcases zero_cut_cases cut with ⟨paths, contents⟩ | ⟨more, longer, _⟩ | ⟨more, longer, _⟩
  · exact ⟨path_bytes_injective legal legal' paths, contents⟩
  · exact absurd (by simp [longer]) (zero_not_mem_path_bytes legal')
  · exact absurd (by simp [longer]) (zero_not_mem_path_bytes legal)

/-- Up to some file the lists agree; there, the content of the second goes on after a zero byte with
what the first has as further files. -/
def Imitates (files others : List ContextFile) : Prop :=
  ∃ common path content more rest after,
    files = common ++ (path, content) :: rest ∧
    others = common ++ (path, content ++ 0 :: more) :: after ∧
    rest.flatMap fileBytes = more ++ 0 :: after.flatMap fileBytes

theorem imitates_cons {files others : List ContextFile} (f : ContextFile)
    (imitates : Imitates files others) : Imitates (f :: files) (f :: others) := by
  obtain ⟨common, path, content, more, rest, after, rfl, rfl, same⟩ := imitates
  exact ⟨f :: common, path, content, more, rest, after, rfl, rfl, same⟩

theorem Imitates.same_bytes {files others : List ContextFile} (imitates : Imitates files others) :
    files.flatMap fileBytes = others.flatMap fileBytes := by
  obtain ⟨common, path, content, more, rest, after, rfl, rfl, same⟩ := imitates
  simp [fileBytes, same]

theorem Imitates.zero_mem {files others : List ContextFile} (imitates : Imitates files others) :
    ∃ f ∈ others, 0 ∈ f.2 := by
  obtain ⟨common, path, content, more, rest, after, -, rfl, -⟩ := imitates
  exact ⟨(path, content ++ 0 :: more), by simp, by simp⟩

theorem file_bytes_ne_nil (f : ContextFile) (rest : Bytes) : fileBytes f ++ rest ≠ [] := by
  simp [fileBytes]

theorem same_bytes_iff {files others : List ContextFile} (legal : ∀ f ∈ files, IsEntryPath f.1)
    (legal' : ∀ f ∈ others, IsEntryPath f.1) :
    files.flatMap fileBytes = others.flatMap fileBytes ↔
      files = others ∨ Imitates files others ∨ Imitates others files := by
  constructor
  · intro same
    induction files generalizing others with
    | nil =>
      cases others with
      | nil => exact .inl rfl
      | cons g after => exact absurd same.symm (file_bytes_ne_nil g _)
    | cons f rest ih =>
      cases others with
      | nil => exact absurd same (file_bytes_ne_nil f _)
      | cons g after =>
        obtain ⟨here, later⟩ := List.forall_mem_cons.mp legal
        obtain ⟨here', later'⟩ := List.forall_mem_cons.mp legal'
        obtain ⟨path, content⟩ := f
        obtain ⟨path', content'⟩ := g
        obtain ⟨rfl, tail⟩ := file_bytes_split here here' same
        rcases zero_cut_cases tail with ⟨rfl, tails⟩ | ⟨more, rfl, tails⟩ | ⟨more, rfl, tails⟩
        · rcases ih later later' tails with rfl | imitates | imitates
          · exact .inl rfl
          · exact .inr (.inl (imitates_cons _ imitates))
          · exact .inr (.inr (imitates_cons _ imitates))
        · exact .inr (.inl ⟨[], path, content, more, rest, after, rfl, rfl, tails⟩)
        · exact .inr (.inr ⟨[], path, content', more, after, rest, rfl, rfl, tails⟩)
  · rintro (rfl | imitates | imitates)
    · rfl
    · exact imitates.same_bytes
    · exact imitates.same_bytes.symm

theorem same_stream_iff (files others : List ContextFile) (o : BuildOptions) :
    stream files o = stream others o ↔ files.flatMap fileBytes = others.flatMap fileBytes := by
  simp [stream]

theorem fingerprint_eq {t : FileTree} {directory : String} {o : BuildOptions}
    {found : List ContextFile} (context : files t directory o.exclude = .ok found) :
    fingerprint t directory o = .ok (Digest.hex (Digest.Sha256.digest (stream found o))) := by
  simp [fingerprint, context, bind, Except.bind, pure, Except.pure]

def ZeroFree (files : List ContextFile) : Prop := ∀ f ∈ files, 0 ∉ f.2

/-- The same bytes come from the same files, unless the content of one file imitates others; for
that it has to hold a zero byte. -/
theorem same_stream_same_files {t t' : FileTree} {directory directory' : String} {o : BuildOptions}
    {found found' : List ContextFile} (named : t.top.WellNamed) (named' : t'.top.WellNamed)
    (context : files t directory o.exclude = .ok found)
    (context' : files t' directory' o.exclude = .ok found') :
    (stream found o = stream found' o ↔
      found = found' ∨ Imitates found found' ∨ Imitates found' found) ∧
    (ZeroFree found → ZeroFree found' → stream found o = stream found' o →
      found = found' ∧
        ∀ f, Covers t directory o.exclude f ↔ Covers t' directory' o.exclude f) := by
  have covered := mem_files_iff named context
  have covered' := mem_files_iff named' context'
  have streams : stream found o = stream found' o ↔
      found = found' ∨ Imitates found found' ∨ Imitates found' found := by
    rw [same_stream_iff]
    apply same_bytes_iff
    · exact fun f member => path_of_covered named ((covered f).mp member)
    · exact fun f member => path_of_covered named' ((covered' f).mp member)
  refine ⟨streams, ?_⟩
  intro free free' same
  have equal : found = found' := by
    rcases streams.mp same with equal | imitates | imitates
    · exact equal
    · obtain ⟨f, member, zero⟩ := imitates.zero_mem
      exact absurd zero (free' f member)
    · obtain ⟨f, member, zero⟩ := imitates.zero_mem
      exact absurd zero (free f member)
  refine ⟨equal, fun f => ?_⟩
  rw [← covered, ← covered', equal]

/-- Two build contexts in one tree, each a directory of regular files. -/
def sideBySide (one two : List (String × Bytes)) : FileTree where
  top := .dir [("one", .dir (one.map fun f => (f.1, .file f.2))),
    ("two", .dir (two.map fun f => (f.1, .file f.2)))]
  workingDirectory := []

theorem side_by_side_well_named {one two : List (String × Bytes)}
    (distinct : (one.map Prod.fst).Nodup) (legal : ∀ f ∈ one, IsEntryName f.1)
    (distinct' : (two.map Prod.fst).Nodup) (legal' : ∀ f ∈ two, IsEntryName f.1) :
    (sideBySide one two).top.WellNamed := by
  have flat : ∀ {files : List (String × Bytes)}, (files.map Prod.fst).Nodup →
      (∀ f ∈ files, IsEntryName f.1) →
      (Entry.dir (files.map fun f => (f.1, Entry.file f.2))).WellNamed := by
    intro files distinct legal
    refine .dir (by simpa [Function.comp_def] using distinct) ?_ ?_
    · exact List.forall_mem_map.mpr legal
    · exact List.forall_mem_map.mpr fun f _ => .file f.2
  have apart : ["one", "two"].Nodup := by decide
  refine .dir apart ?_ ?_
  · simp only [List.forall_mem_cons]
    exact ⟨by decide, by decide, by simp⟩
  · simp only [List.forall_mem_cons]
    exact ⟨flat distinct legal, flat distinct' legal', by simp⟩

/-- The contexts differ only in a file that is not for the image. -/
def copies : FileTree := sideBySide [("a", [120]), ("log", [49])] [("log", [50]), ("a", [120])]

theorem copies_share_stream :
    copies.top.WellNamed ∧ files copies "/one" ["log"] = .ok [(["a"], [120])] ∧
      files copies "/two" ["log"] = .ok [(["a"], [120])] ∧
      ∀ f, Covers copies "/one" ["log"] f ↔ Covers copies "/two" ["log"] f := by
  have named : copies.top.WellNamed :=
    side_by_side_well_named (by decide) (by decide) (by decide) (by decide)
  have read : ∀ directory, patterns directory ["log"] = .ok [
      [.literal 'l', .literal 'o', .literal 'g'],
      [.literal 'l', .literal 'o', .literal 'g', .trailing]] := fun _ => rfl
  have one : files copies "/one" ["log"] = .ok [(["a"], [120])] := by
    have there : copies.entry "/one" = .ok (.dir [("a", .file [120]), ("log", .file [49])]) := by
      cbv
    simp only [files, there, read, bind, Except.bind]
    cbv
  have two : files copies "/two" ["log"] = .ok [(["a"], [120])] := by
    have there : copies.entry "/two" = .ok (.dir [("log", .file [50]), ("a", .file [120])]) := by
      cbv
    simp only [files, there, read, bind, Except.bind]
    cbv
  have free : ZeroFree [(["a"], [120])] := by simp [ZeroFree]
  have shared := same_stream_same_files (o := { exclude := ["log"] }) named named one two
  exact ⟨named, one, two, (shared.2 free free rfl).2⟩

/-- The first context has one file, which holds zero bytes, and the second has two files. -/
def imitation : FileTree := sideBySide [("a", [120, 0, 98, 0, 121])] [("a", [120]), ("b", [121])]

theorem zero_bytes_imitate_a_file :
    imitation.top.WellNamed ∧ ∃ found found', files imitation "/one" [] = .ok found ∧
      files imitation "/two" [] = .ok found' ∧ stream found {} = stream found' {} ∧
      fingerprint imitation "/one" {} = fingerprint imitation "/two" {} ∧ found ≠ found' := by
  have named : imitation.top.WellNamed :=
    side_by_side_well_named (by decide) (by decide) (by decide) (by decide)
  have one : files imitation "/one" [] = .ok [(["a"], [120, 0, 98, 0, 121])] := by cbv
  have two : files imitation "/two" [] = .ok [(["a"], [120]), (["b"], [121])] := by cbv
  have name : pathBytes ["b"] = [98] := by cbv
  have same : stream [(["a"], [120, 0, 98, 0, 121])] {} =
      stream [(["a"], [120]), (["b"], [121])] {} := by
    simp [stream, fileBytes, name]
  refine ⟨named, _, _, one, two, same, ?_, by decide⟩
  rw [fingerprint_eq one, fingerprint_eq two, same]

end Fingerprint

end StackSynth
