import Mathlib.Data.List.Chain
import SignIn.Proofs.SchemaRows

/-!
# The rules of registration

A request to register is held to six rules in a fixed order, and the first one that is broken
is reported. The rules are grammars here: a username is words with separators between them, an
email has two sides. Nothing is drawn for a request that breaks a rule, so no password is
hashed for it and no user is made.
-/
namespace SignIn

namespace Validation

/-! ## Rules in order -/

/-- A rule, and the failures that may be reported where it is broken. -/
structure Rule where
  holds : Prop
  failure : IdentityError → Prop

/-- A check that passes where the rule holds, and else fails in its way. -/
structure Rule.Decides (rule : Rule) (result : Except IdentityError Unit) : Prop where
  ok : result = .ok () ↔ rule.holds
  error : ∀ e, result = .error e → rule.failure e

/-- The first rule that is broken is reported. -/
inductive Reports : List Rule → Except IdentityError Unit → Prop where
  | fine : Reports [] (.ok ())
  | broken {rule : Rule} {rest : List Rule} {e : IdentityError} : ¬rule.holds → rule.failure e →
      Reports (rule :: rest) (.error e)
  | kept {rule : Rule} {rest : List Rule} {result : Except IdentityError Unit} : rule.holds →
      Reports rest result → Reports (rule :: rest) result

variable {rule : Rule} {rules : List Rule} {check : Except IdentityError Unit}
  {next : Unit → Except IdentityError Unit} {P Q : Prop} {F : IdentityError → Prop}

theorem decides_require {b : Bool} {e : IdentityError} (hb : b = true ↔ P) (he : F e) :
    Rule.Decides ⟨P, F⟩ (require b e) := by
  cases b with
  | true => exact ⟨iff_of_true rfl (hb.mp rfl), fun _ h => (by cases h)⟩
  | false =>
    refine ⟨iff_of_false (fun h => by cases h) fun h => absurd (hb.mpr h) (by decide), ?_⟩
    rintro _ ⟨⟩
    exact he

/-- The second of two checks may count on the first. -/
theorem Rule.Decides.bind (hfirst : Decides ⟨P, F⟩ check)
    (hsecond : P → Decides ⟨Q, F⟩ (next ())) : Decides ⟨P ∧ Q, F⟩ (check >>= next) := by
  cases check with
  | ok u =>
    have hp : P := hfirst.ok.mp rfl
    have hq := hsecond hp
    exact ⟨hq.ok.trans (and_iff_right hp).symm, hq.error⟩
  | error e =>
    have hp : ¬P := fun h => nomatch hfirst.ok.mpr h
    refine ⟨iff_of_false (fun h => by cases h) fun h => hp h.1, ?_⟩
    rintro _ ⟨⟩
    exact hfirst.error e rfl

theorem Rule.Decides.congr (h : Decides ⟨P, F⟩ check) (hpq : P ↔ Q) : Decides ⟨Q, F⟩ check :=
  ⟨h.ok.trans hpq, h.error⟩

theorem Rule.Decides.reports (h : rule.Decides check) (hnext : Reports rules (next ())) :
    Reports (rule :: rules) (check >>= next) := by
  cases check with
  | ok u => exact .kept (h.ok.mp rfl) hnext
  | error e => exact .broken (fun hr => nomatch h.ok.mpr hr) (h.error e rfl)

theorem Rule.Decides.reports_last (h : rule.Decides check) : Reports [rule] check := by
  cases check with
  | ok u => exact .kept (h.ok.mp rfl) .fine
  | error e => exact .broken (fun hr => nomatch h.ok.mpr hr) (h.error e rfl)

theorem Reports.ok_iff (h : Reports rules check) :
    check = .ok () ↔ ∀ rule ∈ rules, rule.holds := by
  induction h with
  | fine => simp
  | broken hrule _ => simp [hrule]
  | kept hrule _ ih => simpa [hrule] using ih

/-! ## Usernames -/

def IsLetterOrDigit (c : Char) : Prop :=
  ('a' ≤ c ∧ c ≤ 'z') ∨ ('A' ≤ c ∧ c ≤ 'Z') ∨ ('0' ≤ c ∧ c ≤ '9')

def IsWord (cs : List Char) : Prop := cs ≠ [] ∧ ∀ c ∈ cs, IsLetterOrDigit c

/-- Separators of which no two neighbours are equal. -/
def IsGap (cs : List Char) : Prop :=
  cs ≠ [] ∧ (∀ c ∈ cs, c = '_' ∨ c = '-') ∧ cs.IsChain (· ≠ ·)

/-- Words with gaps between them. -/
inductive Segmented : List Char → Prop where
  | word {w : List Char} : IsWord w → Segmented w
  | more {w gap rest : List Char} : IsWord w → IsGap gap → Segmented rest →
      Segmented (w ++ (gap ++ rest))

def IsUsername (s : String) : Prop := 3 ≤ s.length ∧ s.length ≤ 30 ∧ Segmented s.toList

theorem isSeparator_iff {c : Char} : isSeparator c = true ↔ c = '_' ∨ c = '-' := by
  simp [isSeparator]

theorem isUsernameChar_iff {c : Char} :
    isUsernameChar c = true ↔ IsLetterOrDigit c ∨ isSeparator c = true := by
  simp [isUsernameChar, isAsciiLetter, isAsciiDigit, IsLetterOrDigit, or_assoc]

theorem IsLetterOrDigit.not_separator {c : Char} (h : IsLetterOrDigit c) :
    isSeparator c = false := by
  rw [Bool.eq_false_iff, ne_eq, isSeparator_iff]
  rintro (rfl | rfl) <;> exact absurd h (by unfold IsLetterOrDigit; decide)

/-- Two neighbours that may stand side by side. -/
def MayMeet (a b : Char) : Prop := ¬(a = b ∧ isSeparator a = true)

theorem hasDouble_eq_false_iff {cs : List Char} : hasDouble cs = false ↔ cs.IsChain MayMeet := by
  induction cs with
  | nil => simp [hasDouble]
  | cons a cs ih =>
    cases cs with
    | nil => simp [hasDouble]
    | cons b rest => simp [hasDouble, MayMeet, ih]

theorem isChain_mayMeet {cs : List Char} (h : ∀ c ∈ cs, IsLetterOrDigit c) : cs.IsChain MayMeet := by
  induction cs with
  | nil => exact .nil
  | cons a cs ih =>
    have hrest := ih fun c hc => h c (List.mem_cons_of_mem a hc)
    refine List.isChain_cons.mpr ⟨fun b _ hab => ?_, hrest⟩
    rw [(h a List.mem_cons_self).not_separator] at hab
    exact Bool.noConfusion hab.2

/-- The three rules of usernames that look at single characters and at neighbours. -/
structure Regular (cs : List Char) : Prop where
  chars : ∀ c ∈ cs, IsLetterOrDigit c ∨ isSeparator c = true
  head : ∀ c ∈ cs.head?, IsLetterOrDigit c
  last : ∀ c ∈ cs.getLast?, IsLetterOrDigit c
  apart : cs.IsChain MayMeet

theorem Segmented.regular {cs : List Char} (h : Segmented cs) : cs ≠ [] ∧ Regular cs := by
  induction h with
  | word hw =>
    exact ⟨hw.1, fun c hc => .inl (hw.2 c hc), fun c hc => hw.2 c (List.mem_of_mem_head? hc),
      fun c hc => hw.2 c (List.mem_of_mem_getLast? hc), isChain_mayMeet hw.2⟩
  | @more w gap rest hw hgap hrest ih =>
    obtain ⟨hne, hregular⟩ := ih
    have hword : ∀ c ∈ w.getLast?, IsLetterOrDigit c :=
      fun c hc => hw.2 c (List.mem_of_mem_getLast? hc)
    have hgapApart : gap.IsChain MayMeet := hgap.2.2.imp fun a b hab h => hab h.1
    have htail : (gap ++ rest).IsChain MayMeet := by
      refine List.isChain_append.mpr ⟨hgapApart, hregular.apart, ?_⟩
      rintro a - b hb ⟨rfl, hsep⟩
      rw [(hregular.head a hb).not_separator] at hsep
      cases hsep
    refine ⟨by simp [hw.1], ⟨fun c hc => ?_, fun c hc => ?_, fun c hc => ?_, ?_⟩⟩
    · simp only [List.mem_append] at hc
      rcases hc with hc | hc | hc
      · exact .inl (hw.2 c hc)
      · exact .inr (isSeparator_iff.mpr (hgap.2.1 c hc))
      · exact hregular.chars c hc
    · rw [List.head?_append_of_ne_nil _ hw.1] at hc
      exact hw.2 c (List.mem_of_mem_head? hc)
    · rw [← List.append_assoc, List.getLast?_append_of_ne_nil _ hne] at hc
      exact hregular.last c hc
    · refine List.isChain_append.mpr ⟨isChain_mayMeet hw.2, htail, ?_⟩
      rintro a ha b - ⟨-, hsep⟩
      rw [(hword a ha).not_separator] at hsep
      cases hsep

/-- One more letter in front of the first word. -/
theorem Segmented.cons {c : Char} {cs : List Char} (hc : IsLetterOrDigit c) (h : Segmented cs) :
    Segmented (c :: cs) := by
  have hword {w : List Char} (hw : IsWord w) : IsWord (c :: w) := by
    refine ⟨List.cons_ne_nil c w, fun x hx => ?_⟩
    rcases List.mem_cons.mp hx with rfl | hx
    · exact hc
    · exact hw.2 x hx
  cases h with
  | word hw => exact .word (hword hw)
  | more hw hgap hrest => exact .more (hword hw) hgap hrest

theorem isWord_singleton {c : Char} (hc : IsLetterOrDigit c) : IsWord [c] :=
  ⟨List.cons_ne_nil c [], fun _ hx => List.mem_singleton.mp hx ▸ hc⟩

theorem isGap_singleton {c : Char} (hc : isSeparator c = true) : IsGap [c] :=
  ⟨List.cons_ne_nil c [], fun _ hx => List.mem_singleton.mp hx ▸ isSeparator_iff.mp hc,
    .singleton c⟩

/-- One more separator in front of a gap. -/
theorem IsGap.cons {c d : Char} {cs : List Char} (hc : isSeparator c = true) (hne : c ≠ d)
    (h : IsGap (d :: cs)) : IsGap (c :: d :: cs) := by
  refine ⟨List.cons_ne_nil _ _, fun x hx => ?_, List.isChain_cons_cons.mpr ⟨hne, h.2.2⟩⟩
  rcases List.mem_cons.mp hx with rfl | hx
  · exact isSeparator_iff.mp hc
  · exact h.2.1 x hx

/-- What a text is cut into from its first character on: words and gaps, or a gap in front of
them. This is what is proved of the rest of a text, which may start with either. -/
def Cut : List Char → Prop
  | [] => True
  | c :: cs =>
    (IsLetterOrDigit c ∧ Segmented (c :: cs)) ∨
      ∃ gap rest, c :: cs = gap ++ rest ∧ IsGap gap ∧ Segmented rest

theorem cut_of_regular {cs : List Char}
    (hchars : ∀ c ∈ cs, IsLetterOrDigit c ∨ isSeparator c = true)
    (hlast : ∀ c ∈ cs.getLast?, IsLetterOrDigit c) (hapart : cs.IsChain MayMeet) : Cut cs := by
  induction cs with
  | nil => trivial
  | cons c cs ih =>
    have hc := hchars c List.mem_cons_self
    cases cs with
    | nil =>
      have hletter := hlast c rfl
      exact .inl ⟨hletter, .word (isWord_singleton hletter)⟩
    | cons d cs =>
      have hcut := ih (fun x hx => hchars x (List.mem_cons_of_mem c hx))
        (fun x hx => hlast x (by rwa [List.getLast?_cons_cons])) hapart.tail
      have hmeet : MayMeet c d := (List.isChain_cons_cons.mp hapart).1
      rcases hc with hletter | hsep
      · rcases hcut with ⟨-, hsegmented⟩ | ⟨gap, rest, heq, hgap, hrest⟩
        · exact .inl ⟨hletter, hsegmented.cons hletter⟩
        · refine .inl ⟨hletter, ?_⟩
          rw [heq]
          exact .more (isWord_singleton hletter) hgap hrest
      · rcases hcut with ⟨-, hsegmented⟩ | ⟨gap, rest, heq, hgap, hrest⟩
        · exact .inr ⟨[c], d :: cs, rfl, isGap_singleton hsep, hsegmented⟩
        · obtain ⟨x, gap, rfl⟩ := List.exists_cons_of_ne_nil hgap.1
          obtain ⟨rfl, htail⟩ := List.cons.inj heq
          have hne : c ≠ d := fun h => hmeet ⟨h, hsep⟩
          exact .inr ⟨c :: d :: gap, rest, by rw [htail]; rfl, hgap.cons hsep hne, hrest⟩

theorem segmented_iff {cs : List Char} : Segmented cs ↔ cs ≠ [] ∧ Regular cs := by
  refine ⟨Segmented.regular, fun ⟨hne, hregular⟩ => ?_⟩
  obtain ⟨c, cs, rfl⟩ := List.exists_cons_of_ne_nil hne
  have hletter : IsLetterOrDigit c := hregular.head c rfl
  rcases cut_of_regular hregular.chars hregular.last hregular.apart with
    ⟨-, h⟩ | ⟨gap, rest, heq, hgap, -⟩
  · exact h
  · obtain ⟨x, gap, rfl⟩ := List.exists_cons_of_ne_nil hgap.1
    obtain ⟨rfl, -⟩ := List.cons.inj heq
    have hsep := isSeparator_iff.mpr (hgap.2.1 c List.mem_cons_self)
    rw [hletter.not_separator] at hsep
    cases hsep

/-- No separator stands at this end. -/
theorem not_any_isSeparator {c? : Option Char} :
    (!c?.any isSeparator) = true ↔ ∀ c ∈ c?, isSeparator c = false := by
  cases c? <;> simp

def usernameRule (s : String) : Rule :=
  ⟨IsUsername s, fun e => ∃ reason, e = .invalidUsername reason⟩

theorem username_decides (s : String) : (usernameRule s).Decides (username s) := by
  have hshape : (3 ≤ s.toList.length && s.toList.length ≤ 30 &&
        s.toList.all isUsernameChar) = true ↔
      (3 ≤ s.length ∧ s.length ≤ 30) ∧
        ∀ c ∈ s.toList, IsLetterOrDigit c ∨ isSeparator c = true := by
    simp only [Bool.and_eq_true, decide_eq_true_eq, List.all_eq_true, isUsernameChar_iff,
      String.length_toList]
  have hends : (!s.toList.head?.any isSeparator && !s.toList.getLast?.any isSeparator) = true ↔
      (∀ c ∈ s.toList.head?, isSeparator c = false) ∧
        ∀ c ∈ s.toList.getLast?, isSeparator c = false := by
    rw [Bool.and_eq_true, not_any_isSeparator, not_any_isSeparator]
  have hapart : (!hasDouble s.toList) = true ↔ s.toList.IsChain MayMeet := by
    rw [Bool.not_eq_true', hasDouble_eq_false_iff]
  have hfailure (reason : String) : (usernameRule s).failure (.invalidUsername reason) :=
    ⟨reason, rfl⟩
  refine Rule.Decides.congr ((decides_require hshape (hfailure _)).bind fun _ =>
    (decides_require hends (hfailure _)).bind fun _ => decides_require hapart (hfailure _)) ⟨?_, ?_⟩
  · rintro ⟨⟨⟨hmin, hmax⟩, hchars⟩, ⟨hhead, hlast⟩, hchain⟩
    have hletter {c : Char} (hc : c ∈ s.toList) (hsep : isSeparator c = false) :
        IsLetterOrDigit c :=
      (hchars c hc).resolve_right (by simp [hsep])
    refine ⟨hmin, hmax, segmented_iff.mpr ⟨?_, hchars, fun c hc => ?_, fun c hc => ?_, hchain⟩⟩
    · intro hnil
      rw [← String.length_toList, hnil] at hmin
      exact absurd hmin (by decide)
    · exact hletter (List.mem_of_mem_head? hc) (hhead c hc)
    · exact hletter (List.mem_of_mem_getLast? hc) (hlast c hc)
  · rintro ⟨hmin, hmax, hsegmented⟩
    have hregular := (segmented_iff.mp hsegmented).2
    exact ⟨⟨⟨hmin, hmax⟩, hregular.chars⟩, ⟨fun c hc => (hregular.head c hc).not_separator,
      fun c hc => (hregular.last c hc).not_separator⟩, hregular.apart⟩

/-! ## Passwords -/

/-- The classes of characters that make a password strong. -/
inductive CharClass where
  | upper
  | lower
  | digit
  | special

def CharClass.Has : CharClass → Char → Prop
  | .upper, c => 'A' ≤ c ∧ c ≤ 'Z'
  | .lower, c => 'a' ≤ c ∧ c ≤ 'z'
  | .digit, c => '0' ≤ c ∧ c ≤ '9'
  | .special, c => Alphanumeric.isAlphanumeric c = false

theorem CharClass.exists_missing_iff {P : CharClass → Prop} :
    (∃ missing, ∀ cl, cl ≠ missing → P cl) ↔
      (P .lower ∧ P .digit ∧ P .special) ∨ (P .upper ∧ P .digit ∧ P .special) ∨
        (P .upper ∧ P .lower ∧ P .special) ∨ (P .upper ∧ P .lower ∧ P .digit) := by
  constructor
  · rintro ⟨missing, h⟩
    cases missing <;> simp [h]
  · rintro (⟨h, h', h''⟩ | ⟨h, h', h''⟩ | ⟨h, h', h''⟩ | ⟨h, h', h''⟩)
    · exact ⟨.upper, fun cl hcl => by cases cl <;> first | contradiction | assumption⟩
    · exact ⟨.lower, fun cl hcl => by cases cl <;> first | contradiction | assumption⟩
    · exact ⟨.digit, fun cl hcl => by cases cl <;> first | contradiction | assumption⟩
    · exact ⟨.special, fun cl hcl => by cases cl <;> first | contradiction | assumption⟩

/-- At most one of the classes is missing. -/
def IsPassword (s : String) : Prop :=
  8 ≤ s.length ∧ s.length ≤ 32 ∧
    ∃ missing : CharClass, ∀ cl, cl ≠ missing → ∃ c ∈ s.toList, cl.Has c

def passwordRule (s : String) : Rule :=
  ⟨IsPassword s, fun e => ∃ reason, e = .invalidPassword reason⟩

theorem three_le_countP_id_iff (a b c d : Bool) : 3 ≤ [a, b, c, d].countP id ↔
    (b = true ∧ c = true ∧ d = true) ∨ (a = true ∧ c = true ∧ d = true) ∨
      (a = true ∧ b = true ∧ d = true) ∨ (a = true ∧ b = true ∧ c = true) := by
  revert a b c d
  decide

/-- Three classes are shown exactly if one of the four may be left out. -/
theorem three_le_countP_classes {cs : List Char} :
    3 ≤ classes.countP (fun inClass => cs.any inClass) ↔
      ∃ missing : CharClass, ∀ cl, cl ≠ missing → ∃ c ∈ cs, cl.Has c := by
  have hupper : (cs.any fun c => 'A' ≤ c && c ≤ 'Z') = true ↔ ∃ c ∈ cs, CharClass.upper.Has c := by
    simp [CharClass.Has]
  have hlower : (cs.any fun c => 'a' ≤ c && c ≤ 'z') = true ↔ ∃ c ∈ cs, CharClass.lower.Has c := by
    simp [CharClass.Has]
  have hdigit : cs.any isAsciiDigit = true ↔ ∃ c ∈ cs, CharClass.digit.Has c := by
    simp [CharClass.Has, isAsciiDigit]
  have hspecial : (cs.any fun c => !Alphanumeric.isAlphanumeric c) = true ↔
      ∃ c ∈ cs, CharClass.special.Has c := by
    simp [CharClass.Has]
  rw [CharClass.exists_missing_iff, ← hupper, ← hlower, ← hdigit, ← hspecial,
    ← three_le_countP_id_iff]
  rfl

theorem password_decides (s : String) : (passwordRule s).Decides (password s) := by
  have hlength : (8 ≤ s.toList.length && s.toList.length ≤ 32) = true ↔
      8 ≤ s.length ∧ s.length ≤ 32 := by
    simp only [Bool.and_eq_true, decide_eq_true_eq, String.length_toList]
  have hfailure (reason : String) : (passwordRule s).failure (.invalidPassword reason) :=
    ⟨reason, rfl⟩
  exact Rule.Decides.congr ((decides_require hlength (hfailure _)).bind fun _ =>
    decides_require (decide_eq_true_iff.trans three_le_countP_classes) (hfailure _)) and_assoc

/-! ## Emails -/

/-- Two sides of one sign. The second has a dot, but none at its ends. -/
structure Sides (localPart domain : List Char) : Prop where
  alone : '@' ∉ localPart ∧ '@' ∉ domain
  some : localPart ≠ []
  dotted : '.' ∈ domain
  ends : domain.head? ≠ .some '.' ∧ domain.getLast? ≠ .some '.'

def IsEmail (s : String) : Prop :=
  5 ≤ s.utf8ByteSize ∧ s.utf8ByteSize ≤ 254 ∧
    ∃ localPart domain, s.toList = localPart ++ '@' :: domain ∧ Sides localPart domain

def emailRule (s : String) : Rule := ⟨IsEmail s, fun e => ∃ reason, e = .invalidEmail reason⟩

theorem takeWhile_of_sides {l d : List Char} (hl : '@' ∉ l) :
    (l ++ '@' :: d).takeWhile (· != '@') = l ∧
      ((l ++ '@' :: d).dropWhile (· != '@')).drop 1 = d := by
  have hall : ∀ c ∈ l, (c != '@') = true := fun c hc => bne_iff_ne.mpr fun h => hl (h ▸ hc)
  rw [List.takeWhile_append_of_pos hall, List.dropWhile_append_of_pos hall]
  simp

theorem count_eq_one_iff {cs : List Char} : cs.count '@' = 1 ↔
    ∃ l d, cs = l ++ '@' :: d ∧ '@' ∉ l ∧ '@' ∉ d := by
  constructor
  · intro h
    have hmem : '@' ∈ cs := List.count_pos_iff.mp (by omega)
    obtain ⟨l, d, rfl, hl⟩ := List.eq_append_cons_of_mem hmem
    have hl0 : l.count '@' = 0 := List.count_eq_zero.mpr hl
    rw [List.count_append, List.count_cons_self, hl0] at h
    exact ⟨l, d, rfl, hl, List.count_eq_zero.mp (by omega)⟩
  · rintro ⟨l, d, rfl, hl, hd⟩
    rw [List.count_append, List.count_cons_self, List.count_eq_zero.mpr hl,
      List.count_eq_zero.mpr hd]

theorem utf8ByteSize_of_sides {s : String} {l d : List Char} (h : s.toList = l ++ '@' :: d) :
    s.utf8ByteSize = (String.ofList l).utf8ByteSize + 1 + (String.ofList d).utf8ByteSize := by
  have hsign : '@'.utf8Size = 1 := by decide
  rw [← String.ofList_toList (s := s), h, String.ofList_append, String.ofList_cons,
    String.utf8ByteSize_append, String.utf8ByteSize_append, String.utf8ByteSize_singleton, hsign]
  omega

/-- A dot that is not at the front has something before it. -/
theorem two_le_length_of_dotted {d : List Char} (hdot : '.' ∈ d) (hhead : d.head? ≠ some '.') :
    2 ≤ d.length := by
  cases d with
  | nil => cases hdot
  | cons c d =>
    have hne : '.' ≠ c := fun h => hhead (h ▸ rfl)
    have hmem : '.' ∈ d := (List.mem_cons.mp hdot).resolve_left hne
    have := List.length_pos_of_mem hmem
    rw [List.length_cons]
    omega

/-- The limits of the whole text leave the domain within its own. -/
theorem domainOk_iff {s : String} {l d : List Char} (h : s.toList = l ++ '@' :: d)
    (hsize : s.utf8ByteSize ≤ 254) :
    domainOk d = true ↔ '.' ∈ d ∧ d.head? ≠ some '.' ∧ d.getLast? ≠ some '.' := by
  have hbytes := utf8ByteSize_of_sides h
  have hlength : d.length ≤ (String.ofList d).utf8ByteSize := by
    simpa using Text.length_le_utf8ByteSize (String.ofList d)
  simp only [domainOk, Bool.and_eq_true, decide_eq_true_eq, List.contains_iff_mem, bne_iff_ne]
  constructor
  · rintro ⟨⟨⟨-, hdot⟩, hhead⟩, hlast⟩
    exact ⟨hdot, hhead, hlast⟩
  · rintro ⟨hdot, hhead, hlast⟩
    have := two_le_length_of_dotted hdot hhead
    exact ⟨⟨⟨⟨by omega, by omega⟩, hdot⟩, hhead⟩, hlast⟩

theorem email_decides (s : String) : (emailRule s).Decides (email s) := by
  let l := s.toList.takeWhile (· != '@')
  let d := (s.toList.dropWhile (· != '@')).drop 1
  have hlimits : (5 ≤ s.utf8ByteSize && s.utf8ByteSize ≤ 254) = true ↔
      5 ≤ s.utf8ByteSize ∧ s.utf8ByteSize ≤ 254 := by
    simp only [Bool.and_eq_true, decide_eq_true_eq]
  -- wherever the text is cut at a sign, the sides are these two
  have hsides {l' d' : List Char} (hs : s.toList = l' ++ '@' :: d') (hl : '@' ∉ l') :
      l = l' ∧ d = d' := by
    simp only [l, d, hs]
    exact takeWhile_of_sides hl
  have hsplit : (s.toList.count '@' == 1) = true ↔
      s.toList = l ++ '@' :: d ∧ '@' ∉ l ∧ '@' ∉ d := by
    rw [beq_iff_eq, count_eq_one_iff]
    constructor
    · rintro ⟨l', d', hs, hl, hd⟩
      rw [(hsides hs hl).1, (hsides hs hl).2]
      exact ⟨hs, hl, hd⟩
    · exact fun h => ⟨l, d, h⟩
  have hsome : (!l.isEmpty && !d.isEmpty) = true ↔ l ≠ [] ∧ d ≠ [] := by
    simp only [Bool.and_eq_true, Bool.not_eq_true', List.isEmpty_eq_false_iff]
  have hdomain (hsize : s.utf8ByteSize ≤ 254) (hs : s.toList = l ++ '@' :: d) :
      domainOk d = true ↔ '.' ∈ d ∧ d.head? ≠ some '.' ∧ d.getLast? ≠ some '.' :=
    domainOk_iff hs hsize
  have hfailure (reason : String) : (emailRule s).failure (.invalidEmail reason) := ⟨reason, rfl⟩
  refine Rule.Decides.congr ((decides_require hlimits (hfailure _)).bind fun hsize =>
    (decides_require hsplit (hfailure _)).bind fun hs =>
    (decides_require hsome (hfailure _)).bind fun _ =>
    decides_require (hdomain hsize.2 hs.1) (hfailure _)) ⟨?_, ?_⟩
  · rintro ⟨⟨hmin, hmax⟩, ⟨hs, hl, hd⟩, ⟨hsome, -⟩, hdot, hends⟩
    exact ⟨hmin, hmax, l, d, hs, ⟨hl, hd⟩, hsome, hdot, hends⟩
  · rintro ⟨hmin, hmax, l', d', hs, ⟨hl, hd⟩, hsome, hdot, hends⟩
    rw [(hsides hs hl).1, (hsides hs hl).2]
    exact ⟨⟨hmin, hmax⟩, ⟨hs, hl, hd⟩, ⟨hsome, List.ne_nil_of_mem hdot⟩, hdot, hends⟩

end Validation

/-! ## Requests -/

namespace RegisterRequest

open Validation

/-- The part is there, and not empty. -/
def Given (part : Option String) (s : String) : Prop := part = some s ∧ s ≠ ""

def contactRule (r : RegisterRequest) : Rule where
  holds := (∃ s, Given r.email s) ∨ (∃ s, Given r.countryCode s) ∧ ∃ s, Given r.phoneNumber s
  failure e := e = .emailOrPhoneRequired

/-- The rule of a part, if the part is given. -/
def partRule (part : Option String) (rule : String → Rule) : Rule where
  holds := ∀ s, Given part s → (rule s).holds
  failure e := ∃ s, Given part s ∧ (rule s).failure e

/-- To be accepted by a validator. -/
def ownRule (check : String → Except IdentityError Unit) (s : String) : Rule where
  holds := check s = .ok ()
  failure e := check s = .error e

/-- The rules of a request, in the order in which they are looked at. -/
def rules (r : RegisterRequest) : List Rule :=
  [r.contactRule, usernameRule r.username, passwordRule r.password, partRule r.email emailRule,
    partRule r.countryCode (ownRule Validation.countryCode),
    partRule r.phoneNumber (ownRule Validation.phoneNumber)]

theorem nonEmpty_eq_some_iff {part : Option String} {s : String} :
    nonEmpty part = some s ↔ Given part s :=
  ⟨nonEmpty_eq_some, fun ⟨hpart, hne⟩ => hpart ▸ nonEmpty_some hne⟩

theorem isSome_nonEmpty_iff {part : Option String} :
    (nonEmpty part).isSome = true ↔ ∃ s, Given part s := by
  simp only [Option.isSome_iff_exists, nonEmpty_eq_some_iff]

theorem contactRule_decides (r : RegisterRequest) :
    r.contactRule.Decides (require r.hasContact .emailOrPhoneRequired) := by
  refine decides_require ?_ rfl
  simp only [hasContact, Bool.or_eq_true, Bool.and_eq_true, isSome_nonEmpty_iff]

theorem ownRule_decides (check : String → Except IdentityError Unit) (s : String) :
    (ownRule check s).Decides (check s) := ⟨Iff.rfl, fun _ => id⟩

theorem partRule_decides {part : Option String} {rule : String → Rule}
    {check : String → Except IdentityError Unit} (h : ∀ s, (rule s).Decides (check s)) :
    (partRule part rule).Decides (checkPart part check) := by
  unfold checkPart
  cases hpart : nonEmpty part with
  | none =>
    refine ⟨iff_of_true rfl fun s hs => ?_, fun _ he => by cases he⟩
    rw [nonEmpty_eq_some_iff.mpr hs] at hpart
    cases hpart
  | some s =>
    have hgiven := nonEmpty_eq_some_iff.mp hpart
    have honly : ∀ s', Given part s' → s' = s := fun s' hs' =>
      Option.some.inj (hs'.1.symm.trans hgiven.1)
    refine ⟨(h s).ok.trans ⟨fun hs s' hs' => honly s' hs' ▸ hs, fun hall => hall s hgiven⟩,
      fun e he => ⟨s, hgiven, (h s).error e he⟩⟩

theorem validate_reports (r : RegisterRequest) : Reports r.rules r.validate :=
  r.contactRule_decides.reports <| (username_decides _).reports <|
    (password_decides _).reports <| (partRule_decides email_decides).reports <|
    (partRule_decides (ownRule_decides Validation.countryCode)).reports <|
    (partRule_decides (ownRule_decides Validation.phoneNumber)).reports_last

/-- The first rule that a request breaks is reported, and a request that breaks none is accepted.
For a request that is refused nothing is drawn, so no password is hashed and no user is made. -/
theorem validate_by_rules (r : RegisterRequest) :
    Reports r.rules r.validate ∧
    (r.validate = .ok () ↔ ∀ rule ∈ r.rules, rule.holds) ∧
    ∀ e, r.validate = .error e →
      (∀ salt id now, User.register r salt id now = .error e) ∧
      Service.Issuer.newUser r = .fail e ∧
      ∀ issuer : Service.Issuer, issuer.register r = .fail e := by
  refine ⟨r.validate_reports, r.validate_reports.ok_iff, fun e he => ?_⟩
  have hnew : Service.Issuer.newUser r = .fail e := by
    rw [Service.Issuer.newUser, he]
    rfl
  refine ⟨fun salt id now => ?_, hnew, fun issuer => ?_⟩
  · rw [User.register, he]
    rfl
  · rw [Service.Issuer.register, hnew]
    rfl

end RegisterRequest

end SignIn
