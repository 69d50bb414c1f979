import SignIn.Json.Parser
import SignIn.Json.Printer

/-!
# JSON strings read back

A string is written in characters and read in bytes. A character that is escaped is
written in ASCII, where both are the same. Any other one stands as its bytes, and no
byte of a character beyond ASCII is a quote, a backslash or a control character.
-/
namespace SignIn

namespace Bytes

theorem ofString_ofList (cs : List Char) :
    ofString (String.ofList cs) = cs.flatMap String.utf8EncodeChar := by
  simp [ofString, List.utf8Encode]

theorem ofString_eq (s : String) : ofString s = s.toList.flatMap String.utf8EncodeChar := by
  rw [← ofString_ofList, String.ofList_toList]

/-- Bytes, each as the character of the same number. -/
def toChars (bytes : Bytes) : List Char := bytes.map fun b => Char.ofNat b.toNat

@[simp] theorem toChars_append (a b : Bytes) : toChars (a ++ b) = toChars a ++ toChars b :=
  List.map_append

theorem toNat_ofNat_byte (b : UInt8) : (Char.ofNat b.toNat).toNat = b.toNat := by
  have hb := b.toNat_lt
  have hvalid : b.toNat.isValidChar := .inl (by omega)
  rw [Char.ofNat, dif_pos hvalid]
  rfl

end Bytes

namespace Json

/-- The bytes of a text as characters. -/
def raw (cs : List Char) : List Char := Bytes.toChars (cs.flatMap String.utf8EncodeChar)

@[simp] theorem raw_nil : raw [] = [] := rfl

@[simp] theorem raw_append (cs ds : List Char) : raw (cs ++ ds) = raw cs ++ raw ds := by
  simp [raw]

theorem utf8EncodeChar_of_ascii {c : Char} (h : c.toNat < 128) :
    String.utf8EncodeChar c = [UInt8.ofNat c.toNat] := by
  have hval : c.val.toNat ≤ 127 := by
    have heq : c.val.toNat = c.toNat := rfl
    omega
  simp only [String.utf8EncodeChar, if_pos hval]
  rfl

theorem raw_cons_of_ascii {c : Char} (h : c.toNat < 128) (cs : List Char) :
    raw (c :: cs) = c :: raw cs := by
  have hbyte : (UInt8.ofNat c.toNat).toNat = c.toNat := by
    simp
    omega
  rw [raw, List.flatMap_cons, utf8EncodeChar_of_ascii h, Bytes.toChars_append]
  simp only [Bytes.toChars, List.map_cons, List.map_nil, hbyte, Char.ofNat_toNat]
  rfl

theorem raw_of_ascii {cs : List Char} (h : ∀ c ∈ cs, c.toNat < 128) : raw cs = cs := by
  induction cs with
  | nil => rfl
  | cons c cs ih =>
    rw [raw_cons_of_ascii (h c List.mem_cons_self), ih fun x hx => h x (List.mem_cons_of_mem c hx)]

/-- A text has as many bytes as characters, at least. -/
theorem length_le_length_raw (cs : List Char) : cs.length ≤ (raw cs).length := by
  induction cs with
  | nil => exact Nat.le_refl 0
  | cons c cs ih =>
    have hpos : 0 < (String.utf8EncodeChar c).length :=
      List.length_pos_iff.mpr String.utf8EncodeChar_ne_nil
    simp only [raw, Bytes.toChars, List.flatMap_cons, List.map_append, List.length_append,
      List.length_map, List.length_cons] at ih ⊢
    omega

/-- Beyond ASCII, no byte of a character is in ASCII. -/
theorem le_of_mem_utf8EncodeChar {c : Char} (h : 128 ≤ c.toNat) {b : UInt8}
    (hb : b ∈ String.utf8EncodeChar c) : 128 ≤ b.toNat := by
  have hval : ¬c.val.toNat ≤ 127 := by
    have heq : c.val.toNat = c.toNat := rfl
    omega
  simp only [String.utf8EncodeChar, if_neg hval] at hb
  split at hb
  · simp only [List.mem_cons, List.not_mem_nil, or_false] at hb
    rcases hb with rfl | rfl <;> simp only [UInt8.toNat_ofNat'] <;> omega
  · split at hb
    · simp only [List.mem_cons, List.not_mem_nil, or_false] at hb
      rcases hb with rfl | rfl | rfl <;> simp only [UInt8.toNat_ofNat'] <;> omega
    · simp only [List.mem_cons, List.not_mem_nil, or_false] at hb
      rcases hb with rfl | rfl | rfl | rfl <;> simp only [UInt8.toNat_ofNat'] <;> omega

/-! ## Three ways to write a character -/

/-- A character that stands for itself in a string. -/
def IsPlain (c : Char) : Prop := c ≠ '"' ∧ c ≠ '\\' ∧ 32 ≤ c.toNat

theorem isPlain_of_le {c : Char} (h : 128 ≤ c.toNat) : IsPlain c := by
  refine ⟨?_, ?_, by omega⟩
  · rintro rfl
    exact absurd h (by decide)
  · rintro rfl
    exact absurd h (by decide)

/-- A character is written as a letter behind a backslash, as four digits, or as it is. -/
theorem escape_cases (c : Char) :
    (∃ letter, escape c = ['\\', letter] ∧ letter.toNat < 128 ∧ letter ≠ 'u' ∧
      unescape? letter = some c) ∨
    (c.toNat < 32 ∧ escape c = '\\' :: 'u' :: Hex.fixed 4 c.toNat) ∨
    (IsPlain c ∧ escape c = [c]) := by
  by_cases hshort : c ∈ ['"', '\\', '\n', '\r', '\t', '\x08', '\x0c']
  · left
    simp only [List.mem_cons, List.not_mem_nil, or_false] at hshort
    rcases hshort with rfl | rfl | rfl | rfl | rfl | rfl | rfl
    all_goals exact ⟨_, rfl, by decide, by decide, rfl⟩
  · right
    simp only [List.mem_cons, List.not_mem_nil, or_false, not_or] at hshort
    obtain ⟨hquote, hback, hn, hr, ht, hb, hf⟩ := hshort
    have hnone : shortEscape? c = none := by
      simp [shortEscape?, hquote, hback, hn, hr, ht, hb, hf]
    unfold escape
    rw [hnone]
    by_cases hlt : c.toNat < 32
    · exact .inl ⟨hlt, if_pos hlt⟩
    · exact .inr ⟨⟨hquote, hback, by omega⟩, if_neg hlt⟩

theorem toNat_lt_of_mem_fixed {width n : Nat} {c : Char} (hc : c ∈ Hex.fixed width n) :
    c.toNat < 128 := by
  have hdigit : ∀ v < 16, (Hex.digit v).toNat < 128 := by decide
  induction width generalizing n with
  | zero => simp [Hex.fixed] at hc
  | succ width ih =>
    rw [Hex.fixed, List.mem_append, List.mem_singleton] at hc
    rcases hc with hmem | rfl
    · exact ih hmem
    · exact hdigit _ (Nat.mod_lt n (by decide))

/-- Four digits, and the number that they are read as. -/
theorem exists_fixed_four {n : Nat} (h : n < 32) :
    ∃ a b c d, Hex.fixed 4 n = [a, b, c, d] ∧ hex4? a b c d = some n := by
  have hread : Hex.number? (Hex.fixed 4 n) = some n :=
    Hex.number?_fixed 4 n (Nat.lt_trans h (by decide))
  have hlength := Hex.length_fixed 4 n
  match hfixed : Hex.fixed 4 n, hlength with
  | [a, b, c, d], _ =>
    rw [hfixed] at hread
    exact ⟨a, b, c, d, rfl, hread⟩

/-- A character as it is written, in bytes. -/
theorem raw_escape_cases (c : Char) :
    (∃ letter, raw (escape c) = ['\\', letter] ∧ letter ≠ 'u' ∧ unescape? letter = some c) ∨
    (c.toNat < 32 ∧ ∃ a b d e, raw (escape c) = ['\\', 'u', a, b, d, e] ∧
      hex4? a b d e = some c.toNat) ∨
    ((∀ x ∈ raw (escape c), IsPlain x) ∧
      (raw (escape c)).map (fun x => UInt8.ofNat x.toNat) = String.utf8EncodeChar c) := by
  rcases escape_cases c with ⟨letter, hesc, hascii, hu, hl⟩ | ⟨hlt, hesc⟩ | ⟨hplain, hesc⟩
  · have hraw : raw ['\\', letter] = ['\\', letter] := by
      refine raw_of_ascii fun x hx => ?_
      simp only [List.mem_cons, List.not_mem_nil, or_false] at hx
      rcases hx with rfl | rfl
      · decide
      · exact hascii
    exact .inl ⟨letter, by rw [hesc, hraw], hu, hl⟩
  · obtain ⟨a, b, d, e, hfixed, hread⟩ := exists_fixed_four hlt
    have hraw : raw ('\\' :: 'u' :: Hex.fixed 4 c.toNat) = '\\' :: 'u' :: Hex.fixed 4 c.toNat := by
      refine raw_of_ascii fun x hx => ?_
      simp only [List.mem_cons] at hx
      rcases hx with rfl | rfl | hx
      · decide
      · decide
      · exact toNat_lt_of_mem_fixed hx
    exact .inr (.inl ⟨hlt, a, b, d, e, by rw [hesc, hraw, hfixed], hread⟩)
  · right
    right
    rw [hesc]
    constructor
    · intro x hx
      by_cases hascii : c.toNat < 128
      · rw [raw_cons_of_ascii hascii, raw_nil, List.mem_singleton] at hx
        rwa [hx]
      · obtain ⟨b, hb, rfl⟩ := List.mem_map.mp hx
        rw [List.flatMap_singleton] at hb
        refine isPlain_of_le ?_
        rw [Bytes.toNat_ofNat_byte]
        exact le_of_mem_utf8EncodeChar (by omega) hb
    · simp only [raw, Bytes.toChars, List.flatMap_singleton, List.map_map]
      refine (List.map_congr_left fun b _ => ?_).trans (List.map_id _)
      simp only [Function.comp_apply, Bytes.toNat_ofNat_byte, UInt8.ofNat_toNat, id_eq]

/-! ## Up to the closing quote -/

variable {t body rest : List Char}

theorem cutString_plain {x : Char} (hx : IsPlain x) (h : cutString t = some (body, rest)) :
    cutString (x :: t) = some (x :: body, rest) := by
  obtain ⟨hquote, hback, hle⟩ := hx
  have hstop : ¬(x.toNat < 32 ∨ x = '\\') := by
    rintro (hlt | rfl)
    · omega
    · exact hback rfl
  rw [cutString.eq_def]
  split
  · next heq => simp at heq
  · next heq => simp_all
  · next heq => simp_all
  · next heq => simp_all
  · next heq =>
    obtain ⟨rfl, rfl⟩ := List.cons.inj heq
    rw [if_neg hstop, h]
    rfl

theorem cutString_letter {letter c : Char} (hu : letter ≠ 'u') (hl : unescape? letter = some c)
    (h : cutString t = some (body, rest)) :
    cutString ('\\' :: letter :: t) = some ('\\' :: letter :: body, rest) := by
  rw [cutString.eq_def]
  split
  · next heq => simp at heq
  · next heq => simp at heq
  · next heq => simp_all
  · next heq =>
    obtain ⟨-, heq⟩ := List.cons.inj heq
    obtain ⟨rfl, rfl⟩ := List.cons.inj heq
    rw [hl, h]
    rfl
  · next hno heq =>
    obtain ⟨rfl, rfl⟩ := List.cons.inj heq
    exact absurd rfl (hno letter t rfl)

theorem cutString_digits {a b c d : Char} {n : Nat} (hn : hex4? a b c d = some n)
    (h : cutString t = some (body, rest)) :
    cutString ('\\' :: 'u' :: a :: b :: c :: d :: t) =
      some ('\\' :: 'u' :: a :: b :: c :: d :: body, rest) := by
  simp only [cutString, hn, h]
  rfl

theorem cutString_append_plain {xs : List Char} (hxs : ∀ x ∈ xs, IsPlain x)
    (h : cutString t = some (body, rest)) : cutString (xs ++ t) = some (xs ++ body, rest) := by
  induction xs with
  | nil => exact h
  | cons x xs ih =>
    exact cutString_plain (hxs x List.mem_cons_self)
      (ih fun y hy => hxs y (List.mem_cons_of_mem x hy))

theorem cutString_raw_escape (c : Char) (h : cutString t = some (body, rest)) :
    cutString (raw (escape c) ++ t) = some (raw (escape c) ++ body, rest) := by
  rcases raw_escape_cases c with ⟨letter, hraw, hu, hl⟩ | ⟨-, a, b, d, e, hraw, hn⟩ | ⟨hplain, -⟩
  · rw [hraw]
    exact cutString_letter hu hl h
  · rw [hraw]
    exact cutString_digits hn h
  · exact cutString_append_plain hplain h

/-- A string ends where it was closed. -/
theorem cutString_closeString (cs rest : List Char) :
    cutString (raw (closeString cs) ++ rest) = some (raw (cs.flatMap escape), rest) := by
  induction cs with
  | nil => rfl
  | cons c cs ih =>
    have hclose : closeString (c :: cs) = escape c ++ closeString cs := by simp [closeString]
    rw [hclose, raw_append, List.append_assoc, List.flatMap_cons, raw_append]
    exact cutString_raw_escape c ih

/-! ## The text between the quotes -/

namespace Draft

theorem unquote_plain {x : Char} (hx : x ≠ '\\') (t : List Char) :
    unquote (x :: t) = (unquote t).map (UInt8.ofNat x.toNat :: ·) := by
  rw [unquote.eq_def]
  split
  · next heq => simp at heq
  · next heq => simp_all
  · next heq => simp_all
  · next heq =>
    obtain ⟨rfl, rfl⟩ := List.cons.inj heq
    rfl

theorem unquote_letter {letter : Char} (hu : letter ≠ 'u') (t : List Char) :
    unquote ('\\' :: letter :: t) = pushChar ((unescape? letter).getD letter) (unquote t) := by
  rw [unquote.eq_def]
  split
  · next heq => simp at heq
  · next heq => simp_all
  · next heq =>
    obtain ⟨-, heq⟩ := List.cons.inj heq
    obtain ⟨rfl, rfl⟩ := List.cons.inj heq
    rfl
  · next hno heq =>
    obtain ⟨rfl, rfl⟩ := List.cons.inj heq
    exact absurd rfl (hno letter t rfl)

theorem unquote_digits {a b c d : Char} {n : Nat} (hn : hex4? a b c d = some n) (hlt : n < 32)
    (t : List Char) :
    unquote ('\\' :: 'u' :: a :: b :: c :: d :: t) = pushChar (Char.ofNat n) (unquote t) := by
  have hunit : n < 0xD800 ∨ 0xE000 ≤ n := .inl (by omega)
  rw [unquote.eq_def]
  simp only [hn, Option.getD_some, if_pos hunit]

theorem pushChar_read (c : Char) (bytes : Bytes) :
    pushChar c (.read bytes) = .read (String.utf8EncodeChar c ++ bytes) := by
  have hbytes : Bytes.ofString (String.singleton c) = String.utf8EncodeChar c := by
    rw [Bytes.ofString_eq]
    simp
  simp only [pushChar, Reading.map, hbytes]

theorem unquote_append_plain {xs : List Char} (hxs : ∀ x ∈ xs, IsPlain x) {t : List Char}
    {bytes : Bytes} (h : unquote t = .read bytes) :
    unquote (xs ++ t) = .read (xs.map (fun x => UInt8.ofNat x.toNat) ++ bytes) := by
  induction xs with
  | nil => exact h
  | cons x xs ih =>
    have hrest := ih fun y hy => hxs y (List.mem_cons_of_mem x hy)
    rw [List.cons_append, unquote_plain (hxs x List.mem_cons_self).2.1, hrest]
    rfl

theorem unquote_raw_escape (c : Char) {t : List Char} {bytes : Bytes}
    (h : unquote t = .read bytes) :
    unquote (raw (escape c) ++ t) = .read (String.utf8EncodeChar c ++ bytes) := by
  rcases raw_escape_cases c with ⟨letter, hraw, hu, hl⟩ | ⟨hlt, a, b, d, e, hraw, hn⟩ |
    ⟨hplain, hbytes⟩
  · rw [hraw]
    refine (unquote_letter hu t).trans ?_
    rw [hl, h, Option.getD_some, pushChar_read]
  · rw [hraw]
    refine (unquote_digits hn hlt t).trans ?_
    rw [h, pushChar_read, Char.ofNat_toNat]
  · rw [unquote_append_plain hplain h, hbytes]

theorem unquote_raw (cs : List Char) :
    unquote (raw (cs.flatMap escape)) = .read (cs.flatMap String.utf8EncodeChar) := by
  induction cs with
  | nil => rfl
  | cons c cs ih =>
    rw [List.flatMap_cons, raw_append, List.flatMap_cons]
    exact unquote_raw_escape c ih

/-- The body of a string that was written. -/
def bodyOf (s : String) : List Char := raw (s.toList.flatMap escape)

/-- A string is read as the text that was written. -/
@[simp] theorem text_bodyOf (s : String) : text (bodyOf s) = .read s := by
  unfold text bodyOf
  rw [unquote_raw, ← Bytes.ofString_eq]
  simp only [Bytes.toString?_ofString]

@[simp] theorem text?_bodyOf (s : String) : text? (bodyOf s) = some s := by
  simp [text?, Reading.toOption]

end Draft

end Json

end SignIn
