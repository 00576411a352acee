import Mathlib.Data.String.Basic
import Packrat.Pattern.Match

/-!
# Programs of literals and of words

What two kinds of programs match at a position. The program of a literal matches where the text goes
on with it (`Pattern.matchAt_literal`). A word is one character of a set and then as many characters
of another set as there are; a program with the loop for this matches the longest word
(`Program.matchAt_word`). There is no choice in either kind, so a run is a single thread, or a loop
that can be left after every turn.
-/

namespace Packrat

open String (utf8Len)

/-- One character is in the set of another if they are the same. -/
theorem CharSet.holds_single (x y : Char) : (CharSet.single x).holds y = decide (x = y) := by
  have hchar : x = y ↔ x.toNat = y.toNat := ⟨congrArg Char.toNat, Char.toNat_inj.1⟩
  simp only [holds, single, Text.Ranges.holds, hchar]
  by_cases h : x.toNat = y.toNat
  · simp [h]
  · have hne : ¬ (x.toNat ≤ y.toNat ∧ y.toNat ≤ x.toNat) := by omega
    split
    · simp [h]
    · rw [if_neg (by omega)]
      simp [h]

namespace Program

variable {p : Program} {pc : Nat} {set : CharSet}

/-! ## Threads -/

@[simp] theorem settle_nil (edge : Edge) (fuel : Nat) (seen : Marks) :
    p.settle edge fuel [] seen = [] := by
  cases fuel <;> rfl

/-- An address that reads is a thread of its own. -/
theorem threads_char (h : p[pc]? = some (.char set)) (edge : Edge) :
    p.threads edge [pc] = [pc] := by
  simp [threads, settle, h]

/-- An address that accepts is a thread of its own. -/
theorem threads_accept (h : p[pc]? = some .accept) (edge : Edge) :
    p.threads edge [pc] = [pc] := by
  simp [threads, settle, h]

/-! ## Literals -/

/-- A run through a literal matches if the text goes on with the literal. -/
theorem run_literal {chars : List Char}
    (hread : ∀ i (hi : i < chars.length), p[pc + i]? = some (.char (.single chars[i])))
    (haccept : p[pc + chars.length]? = some .accept) (length : Nat) (rest : List Char) :
    p.run length none [pc] rest =
      if chars <+: rest then some (length + utf8Len chars) else none := by
  induction chars generalizing pc length rest with
  | nil =>
    rw [if_pos List.nil_prefix]
    have hpc : p[pc]? = some .accept := haccept
    cases rest with
    | nil => simp [run, accepting, hpc]
    | cons y rest => simp [run, accepting, read, hpc]
  | cons x chars ih =>
    have hpc : p[pc]? = some (.char (.single x)) := hread 0 (Nat.zero_lt_succ _)
    have hread' : ∀ i (hi : i < chars.length),
        p[pc + 1 + i]? = some (.char (.single chars[i])) := by
      intro i hi
      have hnext := hread (i + 1) (Nat.succ_lt_succ hi)
      rw [Nat.add_assoc, Nat.add_comm 1 i]
      exact hnext
    have haccept' : p[pc + 1 + chars.length]? = some .accept := by
      rw [Nat.add_assoc, Nat.add_comm 1]
      exact haccept
    have hthreads : ∀ edge, p.threads edge [pc + 1] = [pc + 1] := by
      cases chars with
      | nil => exact threads_accept haccept'
      | cons y chars => exact threads_char (hread' 0 (Nat.zero_lt_succ _))
    cases rest with
    | nil => simp [run, accepting, hpc]
    | cons y rest =>
      have hgo : p.read y [pc] = if x = y then [pc + 1] else [] := by
        simp [read, hpc, CharSet.holds_single]
      rw [run, hgo]
      by_cases hxy : x = y
      · subst hxy
        simp only [if_true, accepting, List.any_cons, List.any_nil, hpc, Bool.or_false,
          Bool.false_eq_true, if_false, hthreads, List.cons_prefix_cons, true_and]
        rw [ih hread' haccept', String.utf8Len_cons]
        split
        · rw [Nat.add_assoc, Nat.add_comm x.utf8Size]
        · rfl
      · simp [hxy, accepting, hpc]

end Program

/-- **The program of a literal matches where the text goes on with the literal.** -/
theorem Pattern.matchAt_literal (chars : List Char) (c : Cursor) :
    (Pattern.literal chars).program.matchAt c =
      if chars <+: c.rest then some (utf8Len chars) else none := by
  have hread : ∀ i (hi : i < chars.length),
      (Pattern.literal chars).program[0 + i]? = some (.char (.single chars[i])) := by
    intro i hi
    simp [program, code, List.getElem?_append, hi]
  have haccept : (Pattern.literal chars).program[0 + chars.length]? = some .accept := by
    simp [program, code]
  have hthreads : (Pattern.literal chars).program.threads c.edge [0] = [0] := by
    cases chars with
    | nil => exact Program.threads_accept haccept c.edge
    | cons x chars => exact Program.threads_char (hread 0 (Nat.zero_lt_succ _)) c.edge
  rw [Program.matchAt, hthreads, Program.run_literal hread haccept, Nat.zero_add]

/-! ## Words -/

namespace Program

variable {p : Program} {first turn : Nat} {loop : List Nat} {head tail : CharSet}

/-- A run in the loop of a word takes as many characters as there are. -/
theorem run_loop (hturn : ∀ edge, p.threads edge [turn] = loop) (haccept : p.accepting loop = true)
    (hread : ∀ x, p.read x loop = if tail.holds x then [turn] else []) (length : Nat)
    (best : Option Nat) (rest : List Char) :
    p.run length best loop rest = some (length + utf8Len (rest.takeWhile tail.holds)) := by
  induction rest generalizing length best with
  | nil => simp [run, haccept]
  | cons x rest ih =>
    rw [run, hread, List.takeWhile_cons]
    by_cases hx : tail.holds x
    · simp only [hx, if_true, hturn]
      rw [ih, String.utf8Len_cons, Nat.add_assoc, Nat.add_comm x.utf8Size]
    · simp [hx, haccept]

/-- **A program with the loop of a word matches the longest word.** -/
theorem matchAt_word (hstart : ∀ edge, p.threads edge [0] = [0])
    (hrefuse : p.accepting [0] = false)
    (hhead : ∀ x, p.read x [0] = if head.holds x then [first] else [])
    (hfirst : ∀ edge, p.threads edge [first] = loop)
    (hturn : ∀ edge, p.threads edge [turn] = loop) (haccept : p.accepting loop = true)
    (hread : ∀ x, p.read x loop = if tail.holds x then [turn] else []) (c : Cursor) :
    p.matchAt c =
      match c.rest with
      | [] => none
      | x :: rest =>
        if head.holds x then some (x.utf8Size + utf8Len (rest.takeWhile tail.holds))
        else none := by
  rw [matchAt, hstart]
  cases c.rest with
  | nil => simp [run, hrefuse]
  | cons x rest =>
    rw [run, hhead, hrefuse]
    by_cases hx : head.holds x
    · simp only [hx, if_true, Bool.false_eq_true, if_false, hfirst, Nat.zero_add]
      exact run_loop hturn haccept hread _ _ rest
    · simp [hx]

end Program

end Packrat
