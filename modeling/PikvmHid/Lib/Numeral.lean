import Mathlib.Data.Nat.Digits.Lemmas

/-!
# `PikvmHid.Lib.Numeral`: numerals in a base, most significant digit first

`Nat.digits` has the least significant digit first and no digit for zero. A numeral is
written the other way round, and zero has one digit.

* `value`: the number that a list of digits stands for.
* `numeral`: the digits of a number. `value_numeral` and `numeral_value` are the round trips,
  the second one up to leading zeros.
* `fixed`: the digits of a number below `b ^ k`, with leading zeros up to `k` digits.
* `numeral_append`: the last digit is the remainder by the base, and the others are those of
  the quotient.
-/

set_option autoImplicit false

namespace Lib.Numeral

/-- The number that digits stand for. -/
def value (b : Nat) (ds : List Nat) : Nat := Nat.ofDigits b ds.reverse

/-- The digits of a number, without leading zeros. -/
def numeral (b n : Nat) : List Nat := if n = 0 then [0] else (Nat.digits b n).reverse

/-- Digits without their leading zeros. If one was `written` before them, none is leading. -/
def strip (written : Bool) (ds : List Nat) : List Nat :=
  if written then ds else ds.dropWhile (· == 0)

/-- Digits without their leading zeros, or one zero if there is nothing else. -/
def trim (ds : List Nat) : List Nat :=
  if strip false ds = [] then [0] else strip false ds

variable {b : Nat}

/-- A digit in front counts by the length of the rest. -/
theorem value_cons (d : Nat) (ds : List Nat) :
    value b (d :: ds) = d * b ^ ds.length + value b ds := by
  rw [value, Nat.ofDigits_reverse_cons, Nat.mul_comm, Nat.add_comm]
  rfl

/-- A digit at the end shifts the rest. -/
theorem value_concat (ds : List Nat) (d : Nat) : value b (ds ++ [d]) = value b ds * b + d := by
  rw [value, List.reverse_append, List.reverse_singleton, List.singleton_append,
    Nat.ofDigits_cons, Nat.mul_comm, Nat.add_comm]
  rfl

/-- Reading digits from the left, each one shifts what was read. -/
theorem foldl_eq_value (ds : List Nat) : ds.foldl (fun v d => v * b + d) 0 = value b ds := by
  induction ds using List.reverseRecOn with
  | nil => rfl
  | append_singleton ds d ih => rw [List.foldl_append, ih, value_concat]; rfl

/-- `k` digits stay below `b ^ k`. -/
theorem value_lt (hb : 1 < b) {ds : List Nat} (h : ∀ d ∈ ds, d < b) :
    value b ds < b ^ ds.length := by
  rw [← List.length_reverse]
  exact Nat.ofDigits_lt_base_pow_length hb fun d hd => h d (List.mem_reverse.mp hd)

/-! ### Numerals -/

/-- The numeral of a number has its value. -/
theorem value_numeral (n : Nat) : value b (numeral b n) = n := by
  unfold numeral
  split
  · next h => rw [h, value, List.reverse_singleton, Nat.ofDigits_singleton]
  · rw [value, List.reverse_reverse, Nat.ofDigits_digits]

/-- Its digits are below the base. -/
theorem numeral_lt (hb : 1 < b) {n d : Nat} (hd : d ∈ numeral b n) : d < b := by
  unfold numeral at hd
  split at hd
  · rw [List.mem_singleton.mp hd]
    omega
  · exact Nat.digits_lt_base hb (List.mem_reverse.mp hd)

/-- It has a digit. -/
theorem numeral_ne_nil (n : Nat) : numeral b n ≠ [] := by
  unfold numeral
  split
  · exact List.cons_ne_nil _ _
  · next h =>
      rw [ne_eq, List.reverse_eq_nil_iff]
      exact Nat.digits_ne_nil_iff_ne_zero.mpr h

/-- Only zero has a leading zero. -/
theorem head?_numeral_ne_zero {n : Nat} (hn : n ≠ 0) : (numeral b n).head? ≠ some 0 := by
  have hne : Nat.digits b n ≠ [] := Nat.digits_ne_nil_iff_ne_zero.mpr hn
  rw [numeral, if_neg hn, List.head?_reverse, List.getLast?_eq_some_getLast hne]
  exact fun h => Nat.getLast_digit_ne_zero b hn (Option.some.inj h)

/-- A number below `b ^ k` has at most `k` digits. -/
theorem length_numeral_le (hb : 1 < b) {n k : Nat} (hk : 0 < k) (hn : n < b ^ k) :
    (numeral b n).length ≤ k := by
  unfold numeral
  split
  · exact hk
  · rw [List.length_reverse]
    exact (Nat.digits_length_le_iff hb n).mpr hn

/-- Digits are the numeral of their value, but for leading zeros. -/
theorem numeral_value (hb : 1 < b) {ds : List Nat} (h : ∀ d ∈ ds, d < b) :
    numeral b (value b ds) = trim ds := by
  induction ds with
  | nil => rfl
  | cons d ds ih =>
      by_cases hd : d = 0
      · subst hd
        rw [value_cons, Nat.zero_mul, Nat.zero_add, ih fun e he => h e (List.mem_cons_of_mem _ he)]
        rfl
      · -- The first digit is the last one of the reversed list, and not zero.
        have hdigits : Nat.digits b (value b (d :: ds)) = (d :: ds).reverse := by
          refine Nat.digits_ofDigits b hb _ (fun e he => h e (List.mem_reverse.mp he)) ?_
          intro hne
          rwa [List.getLast_reverse]
        have hpos : value b (d :: ds) ≠ 0 := by
          rw [← Nat.digits_ne_nil_iff_ne_zero (b := b), hdigits]
          simp
        have hdrop : strip false (d :: ds) = d :: ds := by
          show (d :: ds).dropWhile (· == 0) = d :: ds
          rw [List.dropWhile_cons_of_neg (by simpa using hd)]
        rw [numeral, if_neg hpos, hdigits, List.reverse_reverse, trim, hdrop,
          if_neg (List.cons_ne_nil _ _)]

/-- A number below the base is its own digit. -/
theorem numeral_of_lt {n : Nat} (hn : n < b) : numeral b n = [n] := by
  unfold numeral
  split
  · next h => rw [h]
  · next h => rw [Nat.digits_of_lt b n h hn, List.reverse_singleton]

/-- The last digit and the ones before it. -/
theorem numeral_append (hb : 1 < b) {n : Nat} (hn : b ≤ n) :
    numeral b n = numeral b (n / b) ++ [n % b] := by
  have hzero : n ≠ 0 := by omega
  have hdiv : n / b ≠ 0 := Nat.ne_of_gt (Nat.div_pos hn (by omega))
  rw [numeral, numeral, if_neg hzero, if_neg hdiv, Nat.digits_eq_cons_digits_div hb hzero,
    List.reverse_cons]

/-! ### Leading zeros -/

/-- Nothing to strip. -/
@[simp] theorem strip_nil (written : Bool) : strip written [] = [] := by
  cases written <;> rfl

/-- A digit is written if it is not zero or one was written before. -/
theorem strip_cons (written : Bool) (d : Nat) (ds : List Nat) :
    strip written (d :: ds)
      = (if written || d != 0 then [d] else []) ++ strip (written || d != 0) ds := by
  cases written with
  | true => rfl
  | false =>
      by_cases hd : d = 0
      · subst hd
        rfl
      · have hne : (d != 0) = true := bne_iff_ne.mpr hd
        simp only [strip, Bool.false_or, hne, if_true, Bool.false_eq_true, if_false]
        exact List.dropWhile_cons_of_neg (by simpa using hd)

/-! ### A fixed number of digits -/

/-- `k` digits of a number, the first one as large as it is. -/
def fixed (b : Nat) : Nat → Nat → List Nat
  | 0,     _ => []
  | k + 1, n => n / b ^ k :: fixed b k (n % b ^ k)

/-- The base of a bounded number is positive. -/
theorem pow_pos_of_lt {n k : Nat} (hn : n < b ^ (k + 1)) : 0 < b ^ k := by
  rcases Nat.eq_zero_or_pos (b ^ k) with h | h
  · rw [Nat.pow_succ, h, Nat.zero_mul] at hn
    exact absurd hn (Nat.not_lt_zero n)
  · exact h

/-- A numeral of fixed width has that width. -/
theorem length_fixed (k n : Nat) : (fixed b k n).length = k := by
  induction k generalizing n with
  | zero => rfl
  | succ k ih => rw [fixed, List.length_cons, ih]

/-- It has the value of a number that fits. -/
theorem value_fixed (k : Nat) {n : Nat} (hn : n < b ^ k) : value b (fixed b k n) = n := by
  induction k generalizing n with
  | zero =>
      rw [Nat.pow_zero] at hn
      exact (Nat.lt_one_iff.mp hn).symm
  | succ k ih =>
      have hpos := pow_pos_of_lt hn
      rw [fixed, value_cons, length_fixed, ih (Nat.mod_lt _ hpos)]
      exact Nat.div_add_mod' n (b ^ k)

/-- Its digits are below the base. -/
theorem fixed_lt (k : Nat) {n : Nat} (hn : n < b ^ k) : ∀ d ∈ fixed b k n, d < b := by
  induction k generalizing n with
  | zero => exact fun _ hd => absurd hd List.not_mem_nil
  | succ k ih =>
      intro d hd
      have hpos := pow_pos_of_lt hn
      rcases List.mem_cons.mp hd with rfl | hd
      · rw [Nat.div_lt_iff_lt_mul hpos, Nat.mul_comm, ← Nat.pow_succ]
        exact hn
      · exact ih (Nat.mod_lt _ hpos) d hd

/-- The numeral, from the digits with leading zeros. -/
theorem trim_fixed (hb : 1 < b) (k : Nat) {n : Nat} (hn : n < b ^ k) :
    trim (fixed b k n) = numeral b n := by
  rw [← numeral_value hb (fixed_lt k hn), value_fixed k hn]

end Lib.Numeral
