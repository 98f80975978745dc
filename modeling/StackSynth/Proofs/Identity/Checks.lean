import Mathlib.Data.List.Infix
import StackSynth.Identity.Certificate
import StackSynth.Identity.SignInClient
import StackSynth.Identity.SignInDomain

/-!
What the checks of names, domains and addresses let through, by the characters of a text.
-/
namespace StackSynth

namespace Text

theorem is_infix_iff {word text : List Char} : isInfix word text = true ↔ word <:+: text := by
  induction text with
  | nil => simp [isInfix]
  | cons c rest ih => simp [isInfix, ih, List.infix_cons_iff]

theorem contains_iff {word text : String} :
    contains word text = true ↔ word.toList <:+: text.toList :=
  is_infix_iff

theorem starts_with_iff {word text : String} :
    startsWith word text = true ↔ word.toList <+: text.toList :=
  List.isPrefixOf_iff_prefix

theorem ends_with_iff {word text : String} :
    endsWith word text = true ↔ word.toList <:+ text.toList :=
  List.isSuffixOf_iff_suffix

theorem ascii_of_lower {c : Char} (lower : isAsciiLower c = true) : c.toNat < 128 := by
  rw [isAsciiLower, Bool.and_eq_true, decide_eq_true_eq, decide_eq_true_eq] at lower
  exact Nat.lt_of_le_of_lt lower.2 (by decide)

theorem ascii_of_digit {c : Char} (digit : isAsciiDigit c = true) : c.toNat < 128 := by
  rw [isAsciiDigit, Bool.and_eq_true, decide_eq_true_eq, decide_eq_true_eq] at digit
  exact Nat.lt_of_le_of_lt digit.2 (by decide)

/-- Characters of the ASCII alphabet take one byte each. -/
theorem byte_length_of_ascii {text : String} (ascii : ∀ c ∈ text.toList, c.toNat < 128) :
    byteLength text = text.toList.length := by
  have spelled : ∀ cs : List Char, (∀ c ∈ cs, c.toNat < 128) →
      (String.ofList cs).utf8ByteSize = cs.length := by
    intro cs
    induction cs with
    | nil => intro _; rfl
    | cons c rest ih =>
      intro all
      have small : c.val ≤ 127 := UInt32.le_iff_toNat_le.mpr (Nat.le_of_lt_succ
        (all c List.mem_cons_self))
      have one : c.utf8Size = 1 := if_pos small
      rw [String.ofList_cons, String.utf8ByteSize_append, String.utf8ByteSize_singleton, one,
        ih fun d member => all d (List.mem_cons_of_mem _ member), List.length_cons, Nat.add_comm]
  have whole := spelled text.toList ascii
  rwa [String.ofList_toList] at whole

end Text

namespace Certificate

theorem is_domain_name_iff {domain : String} : isDomainName domain = true ↔
    '.' ∈ domain.toList ∧ Text.byteLength domain ≤ 253 := by
  have dotted : Text.contains "." domain = true ↔ '.' ∈ domain.toList :=
    Text.contains_iff.trans (List.singleton_infix_iff _ _)
  have empty : domain = "" → '.' ∉ domain.toList := by rintro rfl; decide
  simp only [isDomainName, Bool.and_eq_true, dotted, decide_eq_true_eq, Bool.not_eq_true',
    String.isEmpty_eq_false_iff]
  exact ⟨fun ⟨⟨_, dot⟩, short⟩ => ⟨dot, short⟩, fun ⟨dot, short⟩ =>
    ⟨⟨fun none => empty none dot, dot⟩, short⟩⟩

end Certificate

namespace Secret

theorem is_name_iff {name : String} : isName name = true ↔
    (1 ≤ Text.byteLength name ∧ Text.byteLength name ≤ 512) ∧
      ∀ c ∈ name.toList, Text.isAsciiAlphanumeric c = true ∨ c ∈ "/_+=.@-".toList := by
  have named : name.isEmpty = false ↔ 1 ≤ Text.byteLength name := by
    simp [String.isEmpty, Text.byteLength, Nat.one_le_iff_ne_zero]
  simp only [isName, Bool.and_eq_true, Bool.not_eq_true', named, decide_eq_true_eq,
    List.all_eq_true, isNameChar, Bool.or_eq_true, List.contains_iff_mem]
  rfl

end Secret

namespace SignInDomain

theorem is_label_iff {label : String} : isLabel label = true ↔
    (1 ≤ label.toList.length ∧ label.toList.length ≤ 63) ∧
    (∀ c ∈ label.toList, Text.isAsciiLower c = true ∨ Text.isAsciiDigit c = true ∨ c = '-') ∧
    label.toList.head? ≠ some '-' ∧ label.toList.getLast? ≠ some '-' := by
  have named : label.isEmpty = false ↔ 1 ≤ label.toList.length := by
    rw [String.isEmpty_eq_false_iff, Nat.one_le_iff_ne_zero, ne_eq, ne_eq, List.length_eq_zero_iff,
      String.toList_eq_nil_iff]
  have starts : Text.startsWith "-" label = true ↔ label.toList.head? = some '-' := by
    rw [Text.starts_with_iff, List.head?_eq_some_iff]
    exact ⟨fun ⟨rest, same⟩ => ⟨rest, same.symm⟩, fun ⟨rest, same⟩ => ⟨rest, same.symm⟩⟩
  have ends : Text.endsWith "-" label = true ↔ label.toList.getLast? = some '-' := by
    rw [Text.ends_with_iff, List.getLast?_eq_some_iff]
    exact ⟨fun ⟨front, same⟩ => ⟨front, same.symm⟩, fun ⟨front, same⟩ => ⟨front, same.symm⟩⟩
  have short : (∀ c ∈ label.toList,
      Text.isAsciiLower c = true ∨ Text.isAsciiDigit c = true ∨ c = '-') →
      Text.byteLength label = label.toList.length := by
    refine fun letters => Text.byte_length_of_ascii fun c member => ?_
    rcases letters c member with lower | digit | rfl
    · exact Text.ascii_of_lower lower
    · exact Text.ascii_of_digit digit
    · decide
  simp only [isLabel, Bool.and_eq_true, Bool.not_eq_true', named, decide_eq_true_eq,
    List.all_eq_true, Bool.or_eq_true, beq_iff_eq, or_assoc, ← Bool.not_eq_true, starts, ends]
  constructor
  · rintro ⟨⟨⟨⟨some, bound⟩, first⟩, last⟩, letters⟩
    exact ⟨⟨some, short letters ▸ bound⟩, letters, first, last⟩
  · rintro ⟨⟨some, bound⟩, letters, first, last⟩
    exact ⟨⟨⟨⟨some, (short letters).symm ▸ bound⟩, first⟩, last⟩, letters⟩

end SignInDomain

namespace SignInClient

theorem is_safe_url_iff {url : String} : isSafeUrl url = true ↔
    "https://".toList <+: url.toList ∨ "http://localhost".toList <+: url.toList := by
  rw [isSafeUrl, Bool.or_eq_true, Text.starts_with_iff, Text.starts_with_iff]

/-- From five minutes to a day. -/
theorem is_token_validity_of_minutes {minutes : UInt64} (least : 5 ≤ minutes.toNat)
    (most : minutes.toNat ≤ 1440) : isTokenValidity (.ofMinutes minutes) = true := by
  have seconds : (Duration.ofMinutes minutes).seconds.toNat = minutes.toNat * 60 := by
    have small : minutes.toNat * 60 ≤ largestWord := by unfold largestWord; omega
    rw [Duration.ofMinutes, saturatingMul]
    simp only [UInt64.reduceToNat, if_pos small, UInt64.toNat_ofNat']
    omega
  have short : (Duration.ofMinutes 5).seconds.toNat = 300 := by decide
  have long : (Duration.ofDays 1).seconds.toNat = 86400 := by decide
  simp only [isTokenValidity, Duration.Longer, Bool.and_eq_true, decide_eq_true_eq,
    UInt64.lt_iff_toNat_lt, seconds, short, long]
  omega

theorem check_ok_iff {id : String} {settings : SignInClientSettings}
    (valid : (settings.tokenValidity.map isTokenValidity).getD true = true) :
    check id settings = .ok () ↔ (flows settings ≠ [] → settings.callbackUrls ≠ []) ∧
      ∀ url ∈ settings.callbackUrls, isSafeUrl url = true := by
  have safe : settings.callbackUrls.find? (!isSafeUrl ·) = none ↔
      ∀ url ∈ settings.callbackUrls, isSafeUrl url = true := by simp
  have listed : ((!(flows settings).isEmpty && settings.callbackUrls.isEmpty) = true) ↔
      ¬ (flows settings ≠ [] → settings.callbackUrls ≠ []) := by simp
  unfold check
  rw [← safe, valid]
  by_cases given : flows settings ≠ [] → settings.callbackUrls ≠ []
  · rw [if_neg (mt listed.mp (not_not.mpr given))]
    cases settings.callbackUrls.find? (!isSafeUrl ·) with
    | none => simpa [bind, Except.bind, pure, Except.pure] using given
    | some url => simp [bind, Except.bind, throw, throwThe, MonadExceptOf.throw]
  · rw [if_pos (listed.mpr given)]
    simp [given, bind, Except.bind, throw, throwThe, MonadExceptOf.throw]

end SignInClient

end StackSynth
