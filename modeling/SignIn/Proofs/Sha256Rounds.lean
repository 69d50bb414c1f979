import Mathlib.Data.List.Basic
import SignIn.Digest.Sha256

/-!
# The schedule as a recurrence

A word of the schedule depends on the sixteen words before it and on nothing else.
So the schedule is what a window of sixteen words gives while it moves on, and the
rounds go along two lists, the words and the constants. In this form a digest is
evaluated without looking words up by their number.
-/
namespace SignIn.Sha256

/-- The word that follows sixteen words of the schedule. -/
def following (window : List UInt32) : UInt32 :=
  let w15 := window.getD 1 0
  let w2 := window.getD 14 0
  let s0 := rotate w15 7 ^^^ rotate w15 18 ^^^ (w15 >>> 3)
  let s1 := rotate w2 17 ^^^ rotate w2 19 ^^^ (w2 >>> 10)
  window.getD 0 0 + s0 + window.getD 9 0 + s1

/-- The words of a window and a number of words that follow them. -/
def extended : Nat → List UInt32 → List UInt32
  | 0, window => window
  | n + 1, window => window.headD 0 :: extended n (window.tail ++ [following window])

/-- One round for each constant; words that are missing are zero. -/
def rounds (s : State) (words : List UInt32) : List UInt32 → State
  | [] => s
  | constant :: constants => rounds (round s (words.headD 0) constant) words.tail constants

/-- The words of a block. -/
def blockWords (block : Bytes) : List UInt32 :=
  (Bytes.pieces 3 block).map fun four => UInt32.ofNat (Bytes.toNatBE four)

/-- A block mixed into a state, the words in their order. -/
def mixed (s : State) (block : Bytes) : State :=
  s.add (rounds s (extended 48 (blockWords block)) roundConstants.toList)

/-! ## The schedule -/

/-- The step of the schedule: the words with one more at the end. -/
def grown (words : Array UInt32) (i : Nat) : Array UInt32 :=
  let w15 := words.getD (i + 1) 0
  let w2 := words.getD (i + 14) 0
  let s0 := rotate w15 7 ^^^ rotate w15 18 ^^^ (w15 >>> 3)
  let s1 := rotate w2 17 ^^^ rotate w2 19 ^^^ (w2 >>> 10)
  words.push (words.getD i 0 + s0 + words.getD (i + 9) 0 + s1)

theorem getD_of_toList {words : Array UInt32} {done window : List UInt32}
    (h : words.toList = done ++ window) (k : Nat) :
    words.getD (done.length + k) 0 = window.getD k 0 := by
  rw [Array.getD_eq_getD_getElem?, ← Array.getElem?_toList, h,
    List.getElem?_append_right (Nat.le_add_right ..), Nat.add_sub_cancel_left,
    List.getD_eq_getElem?_getD]

theorem toList_grown {words : Array UInt32} {done window : List UInt32}
    (h : words.toList = done ++ window) :
    (grown words done.length).toList = done ++ window ++ [following window] := by
  simp only [grown, following, Array.toList_push, h, getD_of_toList h]
  rw [← getD_of_toList h 0, Nat.add_zero]

/-- The window moves on by one word with each step. -/
theorem toList_foldl_grown (n : Nat) {words : Array UInt32} {done window : List UInt32}
    (h : words.toList = done ++ window) (hw : window ≠ []) :
    ((List.range' done.length n).foldl grown words).toList = done ++ extended n window := by
  induction n generalizing words done window with
  | zero => simpa [extended] using h
  | succ n ih =>
    obtain ⟨w, rest, rfl⟩ := List.exists_cons_of_ne_nil hw
    have hgrown : (grown words done.length).toList =
        (done ++ [w]) ++ (rest ++ [following (w :: rest)]) := by
      simp [toList_grown h]
    have hrest := ih hgrown (by simp)
    rw [List.length_append, List.length_singleton] at hrest
    rw [List.range'_succ, List.foldl_cons, hrest]
    simp [extended]

theorem blockWords_ne_nil {block : Bytes} (h : block ≠ []) : blockWords block ≠ [] := by
  obtain ⟨b, rest, rfl⟩ := List.exists_cons_of_ne_nil h
  simp [blockWords, Bytes.pieces]

theorem toList_schedule {block : Bytes} (h : block ≠ []) :
    (schedule block).toList = extended 48 (blockWords block) := by
  have hstart : (blockWords block).toArray.toList = [] ++ blockWords block := rfl
  have hrun := toList_foldl_grown 48 hstart (blockWords_ne_nil h)
  rw [List.length_nil, ← List.range_eq_range', List.nil_append] at hrun
  exact hrun

/-! ## The rounds -/

theorem foldl_round (words constants : Array UInt32) {i n : Nat} (h : constants.size = i + n)
    (s : State) :
    (List.range' i n).foldl (fun t j => round t (words.getD j 0) (constants.getD j 0)) s =
      rounds s (words.toList.drop i) (constants.toList.drop i) := by
  induction n generalizing i s with
  | zero =>
    have hdone : constants.toList.drop i = [] := List.drop_eq_nil_of_le (by simp [h])
    rw [hdone]
    rfl
  | succ n ih =>
    have hi : i < constants.size := by omega
    have hword : (words.toList.drop i).headD 0 = words.getD i 0 := by
      simp [List.headD_eq_head?_getD]
    have hconstant : constants.toList[i] = constants.getD i 0 := by
      simp [hi]
    rw [List.range'_succ, List.foldl_cons, ih (by omega), List.drop_eq_getElem_cons hi, rounds,
      hword, List.tail_drop, hconstant]

theorem compress_eq_mixed {block : Bytes} (h : block ≠ []) (s : State) :
    compress s block = mixed s block := by
  simp only [compress, mixed, ← toList_schedule h, List.range_eq_range']
  rw [foldl_round _ _ rfl, List.drop_zero, List.drop_zero]

/-! ## The digest -/

theorem ne_nil_of_mem_pieces {size : Nat} {bytes piece : Bytes}
    (h : piece ∈ Bytes.pieces size bytes) : piece ≠ [] := by
  fun_induction Bytes.pieces size bytes with
  | case1 => simp at h
  | case2 b rest ih =>
    rcases List.mem_cons.mp h with rfl | hrest
    · exact List.cons_ne_nil _ _
    · exact ih hrest

theorem digest_eq_mixed (message : Bytes) :
    digest message = ((Bytes.pieces 63 (pad message)).foldl mixed State.initial).bytes := by
  unfold digest
  rw [List.foldl_ext]
  intro s block hblock
  exact compress_eq_mixed (ne_nil_of_mem_pieces hblock) s

end SignIn.Sha256
