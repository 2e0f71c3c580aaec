import Mathlib.Data.List.Basic
import Mathlib.Data.List.Nodup

/-!
# `PikvmHid.Lib.Drain`: serving pending requests until none is left

A loop that serves the first pending request of a fixed order, again and again, as an interrupt
handler does with its flags. If a service takes back its own request and neither raises nor
drops another, then the loop serves each request that was pending once, in the order.

* `Serves`: what a service does to the requests.
* `drain`: the loop, with a bound on its rounds and a last part.
* `drain_eq_foldl`: with a round for each pending request, the loop is a fold over them.
* `tryDrain`: the loop of services that may fail, given up at the first that does.
* `tryDrain_eq_foldlM`: it is the same fold, of services that may fail.
-/

set_option autoImplicit false

namespace Lib

universe u v

variable {σ : Type u} {κ : Type v}

/-- The first pending request. -/
def firstPending (order : List κ) (pending : σ → κ → Bool) (s : σ) : Option κ :=
  order.find? (pending s)

/-- The requests that are pending, in the order. -/
def allPending (order : List κ) (pending : σ → κ → Bool) (s : σ) : List κ :=
  order.filter (pending s)

/-- The loop with at most `n` rounds. -/
def drain (order : List κ) (pending : σ → κ → Bool) (serve : σ → κ → σ) (tail : σ → σ) :
    Nat → σ → σ
  | 0,     s => s
  | n + 1, s =>
      match firstPending order pending s with
      | some k => drain order pending serve tail n (serve s k)
      | none   => tail s

section
variable {order : List κ} {pending : σ → κ → Bool}

/-- The first pending item is the head of all of them. -/
theorem firstPending_eq_head? (s : σ) :
    firstPending order pending s = (allPending order pending s).head? := by
  rw [firstPending, allPending, List.head?_filter]

/-- What is listed is pending. -/
theorem pending_of_cons {s : σ} {k : κ} {ks : List κ} (h : allPending order pending s = k :: ks) :
    pending s k := by
  have hmem : k ∈ allPending order pending s := h ▸ List.mem_cons_self
  exact (List.mem_filter.mp hmem).2

end

variable [DecidableEq κ]

/-- A service keeps `I`, takes back its own request and leaves the others as they are. -/
structure Serves (I : σ → Prop) (pending : σ → κ → Bool) (serve : σ → κ → σ) : Prop where
  keeps : ∀ s k, I s → pending s k → I (serve s k)
  clears : ∀ s k, I s → pending s k → ∀ j, pending (serve s k) j = (pending s j && decide (j ≠ k))

variable {order : List κ} {pending : σ → κ → Bool} {serve : σ → κ → σ}
  {I : σ → Prop}

/-- After the first request is served, the others are pending. -/
theorem allPending_serve (hs : Serves I pending serve) (hnodup : order.Nodup) {s : σ} (hI : I s)
    {k : κ} {ks : List κ} (h : allPending order pending s = k :: ks) :
    allPending order pending (serve s k) = ks := by
  have hk : pending s k := pending_of_cons h
  have hnot : k ∉ ks := by
    have := hnodup.filter (pending s)
    rw [← allPending, h, List.nodup_cons] at this
    exact this.1
  calc allPending order pending (serve s k)
      = order.filter fun j => decide (j ≠ k) && pending s j := by
        rw [allPending]
        refine List.filter_congr fun j _ => ?_
        rw [hs.clears s k hI hk, Bool.and_comm]
    _ = (allPending order pending s).filter fun j => decide (j ≠ k) := by
        rw [allPending, List.filter_filter]
    _ = ks := by
        rw [h, List.filter_cons_of_neg (by simp)]
        refine List.filter_eq_self.mpr fun j hj => ?_
        simp only [decide_eq_true_eq]
        rintro rfl
        exact hnot hj

/-- The invariant holds after all are served. -/
theorem invariant_foldl (hs : Serves I pending serve) (hnodup : order.Nodup) {s : σ} (hI : I s)
    {ks : List κ} (h : allPending order pending s = ks) :
    I (ks.foldl serve s) ∧ allPending order pending (ks.foldl serve s) = [] := by
  induction ks generalizing s with
  | nil => exact ⟨hI, h⟩
  | cons k ks ih =>
      have hk : pending s k := pending_of_cons h
      exact ih (hs.keeps s k hI hk) (allPending_serve hs hnodup hI h)

/-- The loop serves each pending request once, in the order. -/
theorem drain_eq_foldl (tail : σ → σ) (hs : Serves I pending serve) (hnodup : order.Nodup) {s : σ}
    (hI : I s) {n : Nat} (hn : (allPending order pending s).length < n) :
    drain order pending serve tail n s = tail ((allPending order pending s).foldl serve s) := by
  generalize h : allPending order pending s = ks at hn ⊢
  induction ks generalizing s n with
  | nil =>
      obtain ⟨m, rfl⟩ := Nat.exists_eq_succ_of_ne_zero (Nat.ne_of_gt hn)
      rw [drain, firstPending_eq_head?, h]
      rfl
  | cons k ks ih =>
      obtain ⟨m, rfl⟩ := Nat.exists_eq_succ_of_ne_zero (Nat.ne_of_gt (Nat.zero_lt_of_lt hn))
      have hk : pending s k := pending_of_cons h
      rw [drain, firstPending_eq_head?, h]
      exact ih (hs.keeps s k hI hk) (allPending_serve hs hnodup hI h)
        (Nat.lt_of_succ_lt_succ hn)

/-! ### Services that may fail -/

/-- The loop with at most `n` rounds, given up when a service fails. -/
def tryDrain (order : List κ) (pending : σ → κ → Bool) (serve : σ → κ → Option σ) (tail : σ → σ) :
    Nat → σ → Option σ
  | 0,     s => some s
  | n + 1, s =>
      match firstPending order pending s with
      | some k => (serve s k).bind (tryDrain order pending serve tail n)
      | none   => some (tail s)

section
variable {tryServe : σ → κ → Option σ} (htry : ∀ s k s', tryServe s k = some s' → s' = serve s k)
include htry

omit [DecidableEq κ] in
/-- A loop that is not given up is the loop. -/
theorem eq_drain_of_tryDrain (tail : σ → σ) {n : Nat} {s s' : σ}
    (h : tryDrain order pending tryServe tail n s = some s') :
    s' = drain order pending serve tail n s := by
  induction n generalizing s with
  | zero => exact (Option.some.inj h).symm
  | succ n ih =>
      rw [tryDrain] at h
      rw [drain]
      cases hk : firstPending order pending s with
      | none =>
          rw [hk] at h
          exact (Option.some.inj h).symm
      | some k =>
          rw [hk] at h
          obtain ⟨s₁, hs₁, hrest⟩ := Option.bind_eq_some_iff.mp h
          rw [htry s k s₁ hs₁] at hrest
          exact ih hrest

/-- Each pending request is served once, in the order, until a service fails. -/
theorem tryDrain_eq_foldlM (tail : σ → σ) (hs : Serves I pending serve) (hnodup : order.Nodup)
    {s : σ} (hI : I s) {n : Nat} (hn : (allPending order pending s).length < n) :
    tryDrain order pending tryServe tail n s =
      ((allPending order pending s).foldlM tryServe s).map tail := by
  generalize h : allPending order pending s = ks at hn ⊢
  induction ks generalizing s n with
  | nil =>
      obtain ⟨m, rfl⟩ := Nat.exists_eq_succ_of_ne_zero (Nat.ne_of_gt hn)
      rw [tryDrain, firstPending_eq_head?, h]
      rfl
  | cons k ks ih =>
      obtain ⟨m, rfl⟩ := Nat.exists_eq_succ_of_ne_zero (Nat.ne_of_gt (Nat.zero_lt_of_lt hn))
      have hk : pending s k := pending_of_cons h
      rw [tryDrain, firstPending_eq_head?, h, List.foldlM_cons]
      -- The first service fails, or the others follow it.
      cases hserve : tryServe s k with
      | none =>
          simp only [List.head?_cons, hserve]
          rfl
      | some s₁ =>
          simp only [List.head?_cons, hserve]
          obtain rfl := htry s k s₁ hserve
          exact ih (hs.keeps s k hI hk) (allPending_serve hs hnodup hI h)
            (Nat.lt_of_succ_lt_succ hn)

end

end Lib
