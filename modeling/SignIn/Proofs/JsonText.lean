import Mathlib.Data.List.TakeWhile
import SignIn.Json.Record
import SignIn.Proofs.DecimalText
import SignIn.Proofs.JsonStrings

/-!
# JSON text read back

What is written for a value is read as the draft of that value, whatever follows, as
long as that does not go on with a number. The draft holds the value: of its members
those that a record asks for, and the whole of it if its numbers are in range and its
levels are few enough.
-/
namespace SignIn

namespace Decimal

theorem isDigit_of_mem_ofNat {n : Nat} {c : Char} (hc : c ∈ ofNat n) :
    Json.isDigit c = true :=
  isSome_of_more? (number?_ofNat n) c hc

/-- Only zero starts with a zero. -/
theorem head?_ofNat_ne {n : Nat} (hn : n ≠ 0) : (ofNat n).head? ≠ some '0' := by
  have hdigit : ∀ v < 10, v ≠ 0 → digit v ≠ '0' := by decide
  fun_induction ofNat n with
  | case1 n h =>
    intro heq
    exact hdigit n h hn (Option.some.inj heq)
  | case2 n h ih =>
    obtain ⟨c, cs, hcs⟩ := List.exists_cons_of_ne_nil (ofNat_ne_nil (n / 10))
    have hhead := ih (by omega)
    rw [hcs] at hhead ⊢
    exact hhead

theorem length_ofNat_of_lt {n : Nat} (h : n < 10) : (ofNat n).length = 1 := by
  rw [ofNat, if_pos h]
  rfl

end Decimal

namespace Json

/-! ## Numbers -/

/-- The parts of digits without a sign. -/
theorem ofChars_digits {cs : List Char} (h : ∀ c ∈ cs, isDigit c = true) :
    NumberParts.ofChars cs = (⟨false, cs, [], none, []⟩, false, false) := by
  have htake : cs.takeWhile isDigit = cs := List.takeWhile_eq_self_iff.mpr h
  have hdrop : cs.dropWhile isDigit = [] := List.dropWhile_eq_nil_iff.mpr h
  have hminus : ∀ t, cs ≠ '-' :: t := by
    rintro t rfl
    exact absurd (h '-' List.mem_cons_self) (by decide)
  unfold NumberParts.ofChars
  split
  next negative rest heq =>
    split at heq
    · exact absurd rfl (hminus _)
    · obtain ⟨rfl, rfl⟩ := Prod.mk.inj heq
      simp [htake, hdrop]

theorem ofChars_minus_digits {cs : List Char} (h : ∀ c ∈ cs, isDigit c = true) :
    NumberParts.ofChars ('-' :: cs) = (⟨true, cs, [], none, []⟩, false, false) := by
  have htake : cs.takeWhile isDigit = cs := List.takeWhile_eq_self_iff.mpr h
  have hdrop : cs.dropWhile isDigit = [] := List.dropWhile_eq_nil_iff.mpr h
  simp [NumberParts.ofChars, htake, hdrop]

theorem wellFormed_ofNat (negative : Bool) (n : Nat) :
    NumberParts.wellFormed (⟨negative, Decimal.ofNat n, [], none, []⟩, false, false) = true := by
  have hne : (Decimal.ofNat n).isEmpty = false := by simp [Decimal.ofNat_ne_nil]
  have hzeros : ((Decimal.ofNat n).length == 1 || (Decimal.ofNat n).head? != some '0') = true := by
    by_cases hlt : n < 10
    · simp [Decimal.length_ofNat_of_lt hlt]
    · simp [Decimal.head?_ofNat_ne (show n ≠ 0 by omega)]
  simp only [NumberParts.wellFormed, hne, hzeros]
  rfl

/-- An integer is written in the grammar of numbers. -/
theorem isNumber_ofInt (n : Int) : isNumber (Decimal.ofInt n) = true := by
  cases n with
  | ofNat n =>
    rw [isNumber, Decimal.ofInt, ofChars_digits fun c => Decimal.isDigit_of_mem_ofNat]
    exact wellFormed_ofNat false n
  | negSucc n =>
    rw [isNumber, Decimal.ofInt, ofChars_minus_digits fun c => Decimal.isDigit_of_mem_ofNat]
    exact wellFormed_ofNat true (n + 1)

theorem integer?_ofInt {n : Int} (h : inIntegerRange n = true) :
    integer? (Decimal.ofInt n) = some n := by
  unfold integer?
  rw [if_pos (isNumber_ofInt n)]
  cases n with
  | ofNat n =>
    have hminus : ∀ t, Decimal.ofNat n ≠ '-' :: t := by
      intro t heq
      have hdigit := Decimal.isDigit_of_mem_ofNat (n := n) (heq ▸ List.mem_cons_self)
      exact absurd hdigit (by decide)
    rw [Int.ofNat_eq_natCast] at h
    rw [Decimal.ofInt]
    split
    · next heq => exact absurd heq (hminus _)
    · simp [Decimal.number?_ofNat, h]
  | negSucc n =>
    have hneg : -((n + 1 : Nat) : Int) = Int.negSucc n := by omega
    rw [← hneg] at h
    rw [Decimal.ofInt]
    split
    · next heq =>
      obtain ⟨-, rfl⟩ := List.cons.inj heq
      rw [Decimal.number?_ofNat, Option.bind_eq_bind, Option.bind_some,
        if_pos ⟨Nat.succ_ne_zero n, h⟩, hneg]
    · next hno => exact absurd rfl (hno _)

/-- A number starts with its sign or a digit. -/
def IsNumberHead (c : Char) : Prop := isDigit c = true ∨ c = '-'

theorem exists_cons_of_isNumber {cs : List Char} (h : isNumber cs = true) :
    ∃ c t, cs = c :: t ∧ IsNumberHead c := by
  cases cs with
  | nil => exact absurd h (by decide)
  | cons c t =>
    refine ⟨c, t, rfl, ?_⟩
    by_cases hc : c = '-'
    · exact .inr hc
    · left
      by_contra hdigit
      have hwhole : (NumberParts.ofChars (c :: t)).1.whole = [] := by
        simp [NumberParts.ofChars, hc, hdigit]
      simp [isNumber, NumberParts.wellFormed, hwhole] at h

theorem mem_dropWhile {p : Char → Bool} {cs : List Char} {c : Char} (hp : p c = false)
    (hc : c ∈ cs) : c ∈ cs.dropWhile p := by
  rw [← List.takeWhile_append_dropWhile (p := p) (l := cs), List.mem_append] at hc
  rcases hc with htake | hdrop
  · rw [List.mem_takeWhile_imp htake] at hp
    cases hp
  · exact hdrop

/-- A character that has no place in numbers can stand in the exponent only. -/
theorem mem_exponent {cs : List Char} {c : Char} (hchar : isNumberChar c = false) (hc : c ∈ cs) :
    c ∈ (NumberParts.ofChars cs).1.exponent := by
  simp only [isNumberChar, Bool.or_eq_false_iff, beq_eq_false_iff_ne] at hchar
  obtain ⟨⟨⟨⟨⟨hdigit, hminus⟩, hplus⟩, hpoint⟩, hsmall⟩, hlarge⟩ := hchar
  unfold NumberParts.ofChars
  split
  next negative unsigned hsign =>
  have hunsigned : c ∈ unsigned := by
    split at hsign <;> cases hsign
    · exact (List.mem_cons.mp hc).resolve_left hminus
    · exact hc
  extract_lets whole
  split
  next point tail hmark =>
  have htail : c ∈ tail := by
    have hdrop := mem_dropWhile hdigit hunsigned
    split at hmark <;> cases hmark
    · next heq =>
      rw [heq] at hdrop
      exact (List.mem_cons.mp hdrop).resolve_left hpoint
    · exact hdrop
  extract_lets fraction scaled
  have hscaled : c ∈ scaled := by
    by_cases h : point = true
    · simp only [scaled, if_pos h]
      exact mem_dropWhile hdigit htail
    · simp only [scaled, if_neg h]
      exact htail
  clear_value scaled
  split
  next mark power hmark =>
  have hpower : c ∈ power := by
    split at hmark <;> cases hmark
    · exact (List.mem_cons.mp hscaled).resolve_left hsmall
    · exact (List.mem_cons.mp hscaled).resolve_left hlarge
    · exact hscaled
  split
  next sign digits hsign =>
  split at hsign <;> cases hsign
  · exact (List.mem_cons.mp hpower).resolve_left hplus
  · exact (List.mem_cons.mp hpower).resolve_left hminus
  · exact hpower

theorem isNumberChar_of_isNumber {cs : List Char} (h : isNumber cs = true) :
    ∀ c ∈ cs, isNumberChar c = true := by
  intro c hc
  by_contra hchar
  rw [Bool.not_eq_true] at hchar
  have hmem := mem_exponent hchar hc
  simp only [isNumber, NumberParts.wellFormed, Bool.and_eq_true] at h
  have hexponent := h.2
  split at hexponent
  · have hdigit := List.all_eq_true.mp (Bool.and_eq_true_iff.mp hexponent).2 c hmem
    simp [isNumberChar, hdigit] at hchar
  · rw [List.isEmpty_iff.mp hexponent] at hmem
    exact absurd hmem List.not_mem_nil

/-- What does not go on with a number. -/
def EndsNumber (rest : List Char) : Prop := ∀ c ∈ rest.head?, isNumberChar c = false

theorem endsNumber_nil : EndsNumber [] := by
  intro c hc
  cases hc

theorem endsNumber_cons {c : Char} (h : isNumberChar c = false) (t : List Char) :
    EndsNumber (c :: t) := by
  intro x hx
  cases hx
  exact h

theorem cutNumber_append {cs rest : List Char} (h : isNumber cs = true) (hrest : EndsNumber rest) :
    cutNumber (cs ++ rest) = some (.number cs, rest) := by
  have hall := isNumberChar_of_isNumber h
  have htake : (cs ++ rest).takeWhile isNumberChar = cs := by
    rw [List.takeWhile_append_of_pos hall]
    cases rest with
    | nil => simp
    | cons c t => simp [hrest c rfl]
  have hdrop : (cs ++ rest).dropWhile isNumberChar = rest := by
    rw [List.dropWhile_append_of_pos hall]
    cases rest with
    | nil => rfl
    | cons c t => simp [hrest c rfl]
  simp only [cutNumber, htake, hdrop, if_pos h]

theorem toNat_lt_of_isNumberChar {c : Char} (h : isNumberChar c = true) : c.toNat < 128 := by
  simp only [isNumberChar, Bool.or_eq_true, beq_iff_eq] at h
  rcases h with ((((hdigit | rfl) | rfl) | rfl) | rfl) | rfl
  · have hc := Decimal.toNat_of_value? hdigit
    omega
  all_goals decide

/-! ## Values -/

namespace Draft

mutual

/-- The draft that a value is written as. -/
def ofJson : Json → Draft
  | .null => .null
  | .bool b => .bool b
  | .int n => .number (Decimal.ofInt n)
  | .real token => .number token.chars
  | .str s => .str (bodyOf s)
  | .arr items => .arr (ofItems items)
  | .obj members => .obj (ofMembers members)

def ofItems : List Json → List Draft
  | [] => []
  | item :: rest => ofJson item :: ofItems rest

def ofMembers : List (String × Json) → List (List Char × Draft)
  | [] => []
  | (name, value) :: rest => (bodyOf name, ofJson value) :: ofMembers rest

end

end Draft

/-- A character that a value may start with. It holds up no reader of lists. -/
def IsHead (c : Char) : Prop := isBlank c = false ∧ c ≠ ']'

theorem IsNumberHead.isHead {c : Char} (h : IsNumberHead c) : IsHead c := by
  rcases h with hdigit | rfl
  · have hc := Decimal.toNat_of_value? hdigit
    constructor
    · simp only [isBlank, Bool.or_eq_false_iff, beq_eq_false_iff_ne]
      refine ⟨⟨⟨?_, ?_⟩, ?_⟩, ?_⟩ <;> rintro rfl <;> exact absurd hc (by decide)
    · rintro rfl
      exact absurd hc (by decide)
  · exact ⟨by decide, by decide⟩

theorem skipBlanks_cons {c : Char} (h : isBlank c = false) (t : List Char) :
    skipBlanks (c :: t) = c :: t := by
  simp [skipBlanks, h]

variable {fuel : Nat} {rest : List Char}

/-- A number is read up to where it ends. -/
theorem readValue_number {cs : List Char} (h : isNumber cs = true) (hrest : EndsNumber rest) :
    readValue (fuel + 1) (cs ++ rest) = some (.number cs, rest) := by
  obtain ⟨c, t, rfl, hc⟩ := exists_cons_of_isNumber h
  have hletter : ∀ x, isDigit x = false → x ≠ '-' → c ≠ x := by
    rintro x hx hminus rfl
    rcases hc with hdigit | rfl
    · rw [hx] at hdigit
      cases hdigit
    · exact hminus rfl
  unfold readValue
  rw [List.cons_append, skipBlanks_cons hc.isHead.1]
  split
  next heq => exact absurd (List.cons.inj heq).1 (hletter 'n' (by decide) (by decide))
  next heq => exact absurd (List.cons.inj heq).1 (hletter 't' (by decide) (by decide))
  next heq => exact absurd (List.cons.inj heq).1 (hletter 'f' (by decide) (by decide))
  next heq => exact absurd (List.cons.inj heq).1 (hletter '"' (by decide) (by decide))
  next heq => exact absurd (List.cons.inj heq).1 (hletter '[' (by decide) (by decide))
  next heq => exact absurd (List.cons.inj heq).1 (hletter '\x7b' (by decide) (by decide))
  next =>
    rw [← List.cons_append]
    exact cutNumber_append h hrest

theorem raw_number {cs : List Char} (h : isNumber cs = true) : raw cs = cs :=
  raw_of_ascii fun c hc => toNat_lt_of_isNumberChar (isNumberChar_of_isNumber h c hc)

/-- A value starts with a character of its own. -/
theorem exists_raw_write_eq_cons (j : Json) : ∃ c t, raw (write j) = c :: t ∧ IsHead c := by
  have hnumber : ∀ cs, isNumber cs = true → ∃ c t, raw cs = c :: t ∧ IsHead c := by
    intro cs hcs
    obtain ⟨c, t, heq, hc⟩ := exists_cons_of_isNumber hcs
    exact ⟨c, t, (raw_number hcs).trans heq, hc.isHead⟩
  cases j with
  | null => exact ⟨_, _, rfl, by decide, by decide⟩
  | bool b => cases b <;> exact ⟨_, _, rfl, by decide, by decide⟩
  | int n => exact hnumber _ (isNumber_ofInt n)
  | real token => exact hnumber _ (Bool.and_eq_true_iff.mp token.isReal_chars).1
  | str s => exact ⟨_, _, raw_cons_of_ascii (by decide) _, by decide, by decide⟩
  | arr items => cases items <;> exact ⟨_, _, raw_cons_of_ascii (by decide) _, by decide, by decide⟩
  | obj members =>
    cases members <;> exact ⟨_, _, raw_cons_of_ascii (by decide) _, by decide, by decide⟩

theorem endsNumber_writeItems (items : List Json) (rest : List Char) :
    EndsNumber (raw (writeItems items) ++ rest) := by
  cases items with
  | nil => exact endsNumber_cons (by decide) _
  | cons item items =>
    rw [writeItems, List.cons_append, raw_cons_of_ascii (by decide)]
    exact endsNumber_cons (by decide) _

theorem endsNumber_writeMembers (members : List (String × Json)) (rest : List Char) :
    EndsNumber (raw (writeMembers members) ++ rest) := by
  rcases members with _ | ⟨⟨name, value⟩, members⟩
  · exact endsNumber_cons (by decide) _
  · rw [writeMembers, List.cons_append, List.cons_append, raw_cons_of_ascii (by decide)]
    exact endsNumber_cons (by decide) _

theorem write_ne_nil (j : Json) : write j ≠ [] := by
  intro hnil
  obtain ⟨c, t, heq, -⟩ := exists_raw_write_eq_cons j
  rw [hnil] at heq
  cases heq

theorem length_write_pos (j : Json) : 0 < (write j).length :=
  List.length_pos_iff.mpr (write_ne_nil j)

/-- The first item of a list is no closing bracket. -/
theorem readValue_arr {item : Json} {d : Draft} {ds : List Draft} {t t' : List Char}
    (hitem : readValue fuel (raw (write item) ++ t) = some (d, t'))
    (hitems : readItems fuel t' = some (ds, rest)) :
    readValue (fuel + 1) ('[' :: (raw (write item) ++ t)) = some (.arr (d :: ds), rest) := by
  obtain ⟨c, s, heq, hblank, hclose⟩ := exists_raw_write_eq_cons item
  rw [heq] at hitem ⊢
  simp only [readValue, skipBlanks_cons (show isBlank '[' = false by decide), List.cons_append,
    skipBlanks_cons hblank]
  split
  · next hcons => exact absurd (List.cons.inj hcons).1 hclose
  · rw [← List.cons_append, hitem]
    simp only [Option.bind_eq_bind, Option.bind_some, hitems]
    rfl

theorem readItems_cons {d : Draft} {ds : List Draft} {t t' : List Char}
    (hitem : readValue fuel t = some (d, t')) (hitems : readItems fuel t' = some (ds, rest)) :
    readItems (fuel + 1) (',' :: t) = some (d :: ds, rest) := by
  simp only [readItems, skipBlanks_cons (show isBlank ',' = false by decide), hitem, hitems,
    Option.bind_eq_bind, Option.bind_some]
  rfl

theorem readValue_obj {m : List Char × Draft} {ms : List (List Char × Draft)} {t t' : List Char}
    (hmember : readMember fuel ('"' :: t) = some (m, t'))
    (hmembers : readMembers fuel t' = some (ms, rest)) :
    readValue (fuel + 1) ('\x7b' :: '"' :: t) = some (.obj (m :: ms), rest) := by
  simp only [readValue, skipBlanks_cons (show isBlank '\x7b' = false by decide),
    skipBlanks_cons (show isBlank '"' = false by decide)]
  split
  · next hcons => exact absurd (List.cons.inj hcons).1 (by decide)
  · simp only [hmember, hmembers, Option.bind_eq_bind, Option.bind_some]
    rfl

theorem readMembers_cons {m : List Char × Draft} {ms : List (List Char × Draft)} {t t' : List Char}
    (hmember : readMember fuel t = some (m, t')) (hmembers : readMembers fuel t' = some (ms, rest)) :
    readMembers (fuel + 1) (',' :: t) = some (m :: ms, rest) := by
  simp only [readMembers, skipBlanks_cons (show isBlank ',' = false by decide), hmember, hmembers,
    Option.bind_eq_bind, Option.bind_some]
  rfl

/-- A member is read if its value is. -/
theorem readMember_write {name : String} {d : Draft} {t : List Char}
    (hvalue : readValue fuel t = some (d, rest)) :
    readMember (fuel + 1) ('"' :: (raw (closeString name.toList) ++ ':' :: t)) =
      some ((Draft.bodyOf name, d), rest) := by
  simp only [readMember, skipBlanks_cons (show isBlank '"' = false by decide),
    cutString_closeString, Option.bind_eq_bind, Option.bind_some,
    skipBlanks_cons (show isBlank ':' = false by decide), hvalue]
  rfl

theorem raw_member (name : String) (value : Json) (t : List Char) :
    raw ('"' :: closeString name.toList ++ ':' :: write value ++ t) =
      '"' :: (raw (closeString name.toList) ++ ':' :: (raw (write value) ++ raw t)) := by
  simp only [List.cons_append, List.append_assoc, raw_append,
    raw_cons_of_ascii (show '"'.toNat < 128 by decide),
    raw_cons_of_ascii (show ':'.toNat < 128 by decide)]

mutual

/-- What is written for a value is read as its draft. -/
theorem readValue_write : ∀ (j : Json) (fuel : Nat) (rest : List Char),
    (write j).length ≤ fuel → EndsNumber rest →
    readValue fuel (raw (write j) ++ rest) = some (Draft.ofJson j, rest)
  | j, 0, _, hfuel, _ => absurd hfuel (Nat.not_le_of_lt (length_write_pos j))
  | .null, fuel + 1, rest, _, _ => rfl
  | .bool true, fuel + 1, rest, _, _ => rfl
  | .bool false, fuel + 1, rest, _, _ => rfl
  | .int n, fuel + 1, rest, _, hrest => by
    rw [write, raw_number (isNumber_ofInt n)]
    exact readValue_number (isNumber_ofInt n) hrest
  | .real token, fuel + 1, rest, _, hrest => by
    have hnumber := (Bool.and_eq_true_iff.mp token.isReal_chars).1
    rw [write, raw_number hnumber]
    exact readValue_number hnumber hrest
  | .str s, fuel + 1, rest, _, _ => by
    rw [write, raw_cons_of_ascii (by decide), List.cons_append]
    simp only [readValue, skipBlanks_cons (show isBlank '"' = false by decide),
      cutString_closeString]
    rfl
  | .arr [], fuel + 1, rest, _, _ => rfl
  | .arr (item :: items), fuel + 1, rest, hfuel, _ => by
    rw [write, List.cons_append, List.length_cons, List.length_append] at hfuel
    have hitem := readValue_write item fuel (raw (writeItems items) ++ rest) (by omega)
      (endsNumber_writeItems items rest)
    have hitems := readItems_write items fuel rest (by omega)
    rw [write, List.cons_append, raw_cons_of_ascii (by decide), raw_append, List.cons_append,
      List.append_assoc]
    exact readValue_arr hitem hitems
  | .obj [], fuel + 1, rest, _, _ => rfl
  | .obj ((name, value) :: members), fuel + 1, rest, hfuel, _ => by
    simp only [write, List.cons_append, List.length_cons, List.length_append] at hfuel
    obtain ⟨less, rfl⟩ : ∃ less, fuel = less + 1 := Nat.exists_eq_succ_of_ne_zero (by omega)
    have hvalue := readValue_write value less (raw (writeMembers members) ++ rest) (by omega)
      (endsNumber_writeMembers members rest)
    have hmembers := readMembers_write members (less + 1) rest (by omega)
    have hraw : raw (write (.obj ((name, value) :: members))) =
        '\x7b' :: raw ('"' :: closeString name.toList ++ ':' :: write value ++ writeMembers members) :=
      raw_cons_of_ascii (by decide) _
    rw [hraw, raw_member]
    simp only [List.cons_append, List.append_assoc]
    exact readValue_obj (readMember_write hvalue) hmembers

theorem readItems_write : ∀ (items : List Json) (fuel : Nat) (rest : List Char),
    (writeItems items).length ≤ fuel →
    readItems fuel (raw (writeItems items) ++ rest) = some (Draft.ofItems items, rest)
  | [], 0, _, hfuel => absurd hfuel (Nat.not_succ_le_zero 0)
  | [], fuel + 1, rest, _ => rfl
  | item :: items, 0, _, hfuel => absurd hfuel (Nat.not_succ_le_zero _)
  | item :: items, fuel + 1, rest, hfuel => by
    rw [writeItems, List.cons_append, List.length_cons, List.length_append] at hfuel
    have hitem := readValue_write item fuel (raw (writeItems items) ++ rest) (by omega)
      (endsNumber_writeItems items rest)
    have hitems := readItems_write items fuel rest (by omega)
    rw [writeItems, List.cons_append, raw_cons_of_ascii (by decide), raw_append, List.cons_append,
      List.append_assoc]
    exact readItems_cons hitem hitems

theorem readMembers_write : ∀ (members : List (String × Json)) (fuel : Nat) (rest : List Char),
    (writeMembers members).length ≤ fuel →
    readMembers fuel (raw (writeMembers members) ++ rest) = some (Draft.ofMembers members, rest)
  | [], 0, _, hfuel => absurd hfuel (Nat.not_succ_le_zero 0)
  | [], fuel + 1, rest, _ => rfl
  | (_, _) :: _, 0, _, hfuel => absurd hfuel (Nat.not_succ_le_zero _)
  | (name, value) :: members, fuel + 1, rest, hfuel => by
    simp only [writeMembers, List.cons_append, List.length_cons, List.length_append] at hfuel
    obtain ⟨less, rfl⟩ : ∃ less, fuel = less + 1 := Nat.exists_eq_succ_of_ne_zero (by omega)
    have hvalue := readValue_write value less (raw (writeMembers members) ++ rest) (by omega)
      (endsNumber_writeMembers members rest)
    have hmembers := readMembers_write members (less + 1) rest (by omega)
    have hraw : raw (writeMembers ((name, value) :: members)) =
        ',' :: raw ('"' :: closeString name.toList ++ ':' :: write value ++ writeMembers members) :=
      raw_cons_of_ascii (by decide) _
    rw [hraw, raw_member]
    simp only [List.cons_append, List.append_assoc]
    exact readMembers_cons (readMember_write hvalue) hmembers

end

theorem ofBytes?_text (j : Json) :
    Draft.ofBytes? (Bytes.ofString j.text) = some (Draft.ofJson j) := by
  have hchars : (Bytes.ofString j.text).map (fun b => Char.ofNat b.toNat) = raw (write j) := by
    rw [text, Bytes.ofString_ofList]
    rfl
  have hlength := length_le_length_raw (write j)
  have hread := readValue_write j (2 * (raw (write j)).length + 1) [] (by omega) endsNumber_nil
  rw [List.append_nil] at hread
  simp only [Draft.ofBytes?, hchars, hread, Option.bind_eq_bind, Option.bind_some]
  rfl

/-! ## What a draft holds -/

mutual

/-- Does a value read back in full? Its integers are known by value, its real numbers are not too
large, and it has at most so many levels of lists and objects. -/
def isLegible (depth : Nat) : Json → Bool
  | .int n => inIntegerRange n
  | .real token => token.value?.isSome
  | .arr items => depth != 0 && areLegible (depth - 1) items
  | .obj members => depth != 0 && membersAreLegible (depth - 1) members
  | .null | .bool _ | .str _ => true

def areLegible (depth : Nat) : List Json → Bool
  | [] => true
  | item :: rest => isLegible depth item && areLegible depth rest

def membersAreLegible (depth : Nat) : List (String × Json) → Bool
  | [] => true
  | (_, value) :: rest => isLegible depth value && membersAreLegible depth rest

end

theorem inIntegerRange_of_i64 {n : Int} (h : Decimal.Range.i64.contains n = true) :
    inIntegerRange n = true := by
  rw [Decimal.Range.contains_iff] at h
  simp only [Decimal.Range.i64] at h
  simp only [inIntegerRange, Bool.and_eq_true, decide_eq_true_eq]
  omega

/-- A record takes every member of its names. -/
theorem fields?_obj {names : List String} {members : Fields} (h : ∀ m ∈ members, m.1 ∈ names)
    (hnodup : (members.map (·.1)).Nodup) : (Json.obj members).fields? names = some members := by
  have hknown : members.filter (fun m => names.contains m.1) = members :=
    List.filter_eq_self.mpr fun m hm => List.contains_iff_mem.mpr (h m hm)
  simp only [fields?, hknown, if_pos hnodup]

/-- A record passes over every other member. -/
theorem fields?_obj_of_notMem {names : List String} {members : Fields}
    (h : ∀ m ∈ members, m.1 ∉ names) : (Json.obj members).fields? names = some [] := by
  have hknown : members.filter (fun m => names.contains m.1) = [] := by
    rw [List.filter_eq_nil_iff]
    intro m hm hin
    exact h m hm (List.contains_iff_mem.mp hin)
  simp only [fields?, hknown]
  exact if_pos List.nodup_nil

namespace Draft

theorem numberValue_ofInt {n : Int} (h : inIntegerRange n = true) :
    numberValue (Decimal.ofInt n) = .read (.int n) := by
  simp only [numberValue, integer?_ofInt h]

theorem numberValue_real {token : Real} (h : token.value?.isSome = true) :
    numberValue token.chars = .read (.real token) := by
  have hreal := token.isReal_chars
  have hinteger : integer? token.chars = none := by
    simp only [Json.isReal, Bool.and_eq_true, Option.isNone_iff_eq_none] at hreal
    exact hreal.2
  simp only [numberValue, hinteger, dif_pos hreal, h, if_true]

mutual

/-- A draft holds the value that it was written for. -/
theorem value_ofJson : ∀ (depth : Nat) (j : Json), isLegible depth j = true →
    value depth (ofJson j) = .read j
  | _, .null, _ => rfl
  | _, .bool _, _ => rfl
  | _, .int n, h => numberValue_ofInt h
  | _, .real token, h => numberValue_real h
  | _, .str s, _ => by simp only [ofJson, value, text_bodyOf, Reading.map]
  | depth, .arr items, h => by
    simp only [isLegible, Bool.and_eq_true, bne_iff_ne] at h
    rw [ofJson, value, if_neg h.1, values_ofItems (depth - 1) items h.2]
    rfl
  | depth, .obj members, h => by
    simp only [isLegible, Bool.and_eq_true, bne_iff_ne] at h
    rw [ofJson, value, if_neg h.1, valueMembers_ofMembers (depth - 1) members h.2]
    rfl

theorem values_ofItems : ∀ (depth : Nat) (items : List Json), areLegible depth items = true →
    values depth (ofItems items) = .read items
  | _, [], _ => rfl
  | depth, item :: items, h => by
    rw [areLegible, Bool.and_eq_true] at h
    rw [ofItems, values, value_ofJson depth item h.1, values_ofItems depth items h.2]
    rfl

theorem valueMembers_ofMembers : ∀ (depth : Nat) (members : List (String × Json)),
    membersAreLegible depth members = true →
    valueMembers depth (ofMembers members) = .read members
  | _, [], _ => rfl
  | depth, (name, j) :: members, h => by
    rw [membersAreLegible, Bool.and_eq_true] at h
    rw [ofMembers, valueMembers, text_bodyOf, value_ofJson depth j h.1,
      valueMembers_ofMembers depth members h.2]
    rfl

end

theorem json?_ofJson {above : Nat} {j : Json} (h : isLegible (greatestDepth - above) j = true) :
    (ofJson j).json? above = some j := by
  rw [json?, value_ofJson _ j h]
  rfl

/-! ### Records -/

/-- A member that stands as a draft. -/
def ofMember (m : String × Json) : String × Draft := (m.1, ofJson m.2)

theorem mapM_text?_ofMembers (members : List (String × Json)) :
    (ofMembers members).mapM (fun m => do return (← text? m.1, m.2)) =
      some (members.map ofMember) := by
  induction members with
  | nil => rfl
  | cons m members ih =>
    rw [ofMembers, List.mapM_cons, ih]
    simp [ofMember]

theorem ofItems_eq_map (items : List Json) : ofItems items = items.map ofJson := by
  induction items with
  | nil => rfl
  | cons item items ih => rw [ofItems, ih, List.map_cons]

/-- A record finds in a draft what it finds in the value. -/
theorem fields?_ofJson (names : List String) (j : Json) :
    (ofJson j).fields? names = (j.fields? names).map (List.map ofMember) := by
  cases j with
  | obj members =>
    have hnames : ∀ ms : List (String × Json), (ms.map ofMember).map (·.1) = ms.map (·.1) := by
      intro ms
      rw [List.map_map]
      rfl
    have hfilter : (members.map ofMember).filter (fun m => names.contains m.1) =
        (members.filter fun m => names.contains m.1).map ofMember := List.filter_map
    rw [ofJson, fields?, mapM_text?_ofMembers]
    simp only [Json.fields?, Option.bind_eq_bind, Option.bind_some, hfilter, hnames]
    split <;> rfl
  | arr items =>
    have hzip : names.zip (items.map ofJson) = (names.zip items).map ofMember := by
      rw [List.zip_map_right]
      rfl
    simp only [ofJson, fields?, Json.fields?, ofItems_eq_map, List.length_map, hzip]
    split <;> rfl
  | null => rfl
  | bool b => rfl
  | int n => rfl
  | real token => rfl
  | str s => rfl

theorem mapM_json?_ofMember (fields : Fields)
    (h : ∀ m ∈ fields, isLegible (greatestDepth - 1) m.2 = true) :
    (fields.map ofMember).mapM (fun m => do return (m.1, ← m.2.json? 1)) = some fields := by
  induction fields with
  | nil => rfl
  | cons m fields ih =>
    have hjson : (ofJson m.2).json? 1 = some m.2 := json?_ofJson (h m List.mem_cons_self)
    rw [List.map_cons, List.mapM_cons, ih fun x hx => h x (List.mem_cons_of_mem m hx)]
    simp [ofMember, hjson]

end Draft

/-! ## Texts read as values -/

theorem Reading.map_eq_read {α β : Type} {r : Reading α} {f : α → β} {b : β} :
    r.map f = .read b ↔ ∃ a, r = .read a ∧ f a = b := by
  cases r <;> simp [Reading.map]

namespace Draft

mutual

/-- With more levels allowed, no less is read. -/
theorem value_mono : ∀ {depth depth' : Nat} (d : Draft) {j : Json}, depth ≤ depth' →
    value depth d = .read j → value depth' d = .read j
  | _, _, .null, _, _, h => h
  | _, _, .bool _, _, _, h => h
  | _, _, .number _, _, _, h => h
  | _, _, .str _, _, _, h => h
  | depth, depth', .arr items, j, hle, h => by
    rw [value] at h ⊢
    split at h
    · cases h
    · obtain ⟨js, hjs, rfl⟩ := Reading.map_eq_read.mp h
      rw [if_neg (by omega), values_mono items (by omega) hjs]
      rfl
  | depth, depth', .obj members, j, hle, h => by
    rw [value] at h ⊢
    split at h
    · cases h
    · obtain ⟨js, hjs, rfl⟩ := Reading.map_eq_read.mp h
      rw [if_neg (by omega), valueMembers_mono members (by omega) hjs]
      rfl

theorem values_mono : ∀ {depth depth' : Nat} (ds : List Draft) {js : List Json}, depth ≤ depth' →
    values depth ds = .read js → values depth' ds = .read js
  | _, _, [], _, _, h => h
  | depth, depth', d :: ds, js, hle, h => by
    rw [values] at h ⊢
    split at h
    · rename_i j hj
      obtain ⟨js, hjs, rfl⟩ := Reading.map_eq_read.mp h
      simp only [value_mono d hle hj, values_mono ds hle hjs]
      rfl
    · split at h <;> cases h
    · cases h

theorem valueMembers_mono : ∀ {depth depth' : Nat} (ms : List (List Char × Draft))
    {js : List (String × Json)}, depth ≤ depth' → valueMembers depth ms = .read js →
    valueMembers depth' ms = .read js
  | _, _, [], _, _, h => h
  | depth, depth', (name, d) :: ms, js, hle, h => by
    rw [valueMembers] at h ⊢
    split at h
    · rename_i s hs
      split at h
      · rename_i j hj
        obtain ⟨js, hjs, rfl⟩ := Reading.map_eq_read.mp h
        simp only [value_mono d hle hj, valueMembers_mono ms hle hjs]
        rfl
      · split at h <;> cases h
      · cases h
    · cases h

end

end Draft

/-- A text is written in the grammar of JSON and has this value, however many levels it takes. -/
def Denotes (text : String) (j : Json) : Prop :=
  ∃ d depth, Draft.ofBytes? (Bytes.ofString text) = some d ∧ d.value depth = .read j

theorem Denotes.unique {text : String} {j j' : Json} (h : Denotes text j) (h' : Denotes text j') :
    j = j' := by
  obtain ⟨d, depth, hd, hj⟩ := h
  obtain ⟨d', depth', hd', hj'⟩ := h'
  obtain rfl := Option.some.inj (hd.symm.trans hd')
  have hmax := Draft.value_mono d (Nat.le_max_left depth depth') hj
  have hmax' := Draft.value_mono d (Nat.le_max_right depth depth') hj'
  exact Reading.read.inj (hmax.symm.trans hmax')

theorem denotes_text {depth : Nat} {j : Json} (h : j.isLegible depth = true) : Denotes j.text j :=
  ⟨_, depth, ofBytes?_text j, Draft.value_ofJson depth j h⟩

theorem parse?_text {j : Json} (h : j.isLegible Draft.greatestDepth = true) :
    parse? j.text = some j := by
  rw [parse?, ofBytes?_text]
  exact Draft.json?_ofJson h

end Json

end SignIn
