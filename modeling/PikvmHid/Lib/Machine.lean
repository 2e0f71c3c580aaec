import Mathlib.Data.List.Basic
import Mathlib.Data.List.Infix
import Mathlib.Logic.Function.Basic

/-!
# `PikvmHid.Lib.Machine`: labelled machines and their guarded runs

A `Machine` is a total step function that also emits observations. Nondeterminism
(an environment, a scheduler, another party) enters through the labels. A
configuration is a state with the observations made so far, and a run is a list of
labels.

* `exec`: the configuration a run ends in.
* `Meets K`: every step of the run satisfies `K` in the configuration before it.
* `invariant`: what holds at the start and is kept by every step that satisfies `K`
  holds at the end of each run that meets `K`.
* `invariant_along`: the same at every configuration the run goes through.
* `meets_of_invariant`: what an invariant gives at each step holds along each run.
* `meets_congr`: under an invariant, step conditions that agree are met by the same runs.
* `reaches`: what every step comes closer to is reached by a long run.
* `withParty`: the machine beside a party that follows the labels.
* `family`: machines side by side, each label addressed to one of them. `family_exec`: each
  of them runs as if it were alone.
* `Simulates`: a function between the states that commutes with the steps and keeps
  the observations. `exec_map` carries it along a run, so that an invariant of the
  abstract machine is one of the concrete machine.
-/

set_option autoImplicit false

namespace Lib

universe u v w

/-- A step function over states `σ` and labels `ι`, with observations `ω`. -/
structure Machine (σ : Type u) (ι : Type v) (ω : Type w) where
  step : σ → ι → σ × List ω

namespace Machine

variable {σ : Type u} {ι : Type v} {ω : Type w} (M : Machine σ ι ω)

/-- One step on a configuration: the new observations go behind the old ones. -/
def next (c : σ × List ω) (i : ι) : σ × List ω :=
  ((M.step c.1 i).1, c.2 ++ (M.step c.1 i).2)

/-- The configuration after a run. -/
def exec (c : σ × List ω) (is : List ι) : σ × List ω := is.foldl M.next c

/-- The run of no step. -/
@[simp] theorem exec_nil (c : σ × List ω) : M.exec c [] = c := rfl

/-- A run begins with its first step. -/
@[simp] theorem exec_cons (c : σ × List ω) (i : ι) (is : List ι) :
    M.exec c (i :: is) = M.exec (M.next c i) is := rfl

/-- A run in two parts. -/
theorem exec_append (c : σ × List ω) (is js : List ι) :
    M.exec c (is ++ js) = M.exec (M.exec c is) js :=
  List.foldl_append

/-! ### Guarded runs -/

/-- Every step of the run satisfies `K` in the configuration before it. -/
def Meets (K : σ × List ω → ι → Prop) : σ × List ω → List ι → Prop
  | _, []      => True
  | c, i :: is => K c i ∧ Meets K (M.next c i) is

/-- `Meets` is decidable along with its step condition, so that a concrete run can be
checked. -/
instance decidableMeets (K : σ × List ω → ι → Prop) [∀ c i, Decidable (K c i)] :
    ∀ (c : σ × List ω) (is : List ι), Decidable (M.Meets K c is)
  | _, []      => isTrue trivial
  | c, i :: is =>
      have := decidableMeets K (M.next c i) is
      inferInstanceAs (Decidable (K c i ∧ M.Meets K (M.next c i) is))

/-- The condition on a run in two parts. -/
theorem meets_append (K : σ × List ω → ι → Prop) (c : σ × List ω) (is js : List ι) :
    M.Meets K c (is ++ js) ↔ M.Meets K c is ∧ M.Meets K (M.exec c is) js := by
  induction is generalizing c with
  | nil => simp [Meets]
  | cons i is ih =>
      simp only [List.cons_append, Meets, exec_cons, ih, and_assoc]

/-- A weaker step condition is met by the same runs. -/
theorem meets_mono {K L : σ × List ω → ι → Prop} (hKL : ∀ c i, K c i → L c i)
    {c : σ × List ω} {is : List ι} (h : M.Meets K c is) : M.Meets L c is := by
  induction is generalizing c with
  | nil => trivial
  | cons i is ih => exact ⟨hKL _ _ h.1, ih h.2⟩

/-- Two conditions on one run. -/
theorem meets_and {K L : σ × List ω → ι → Prop} {c : σ × List ω} {is : List ι}
    (hK : M.Meets K c is) (hL : M.Meets L c is) : M.Meets (fun c i => K c i ∧ L c i) c is := by
  induction is generalizing c with
  | nil => trivial
  | cons i is ih => exact ⟨⟨hK.1, hL.1⟩, ih hK.2 hL.2⟩

/-- A condition on the labels alone is met by the runs of labels that satisfy it. -/
theorem meets_forall_iff {P : ι → Prop} (c : σ × List ω) {is : List ι} :
    M.Meets (fun _ i => P i) c is ↔ ∀ i ∈ is, P i := by
  induction is generalizing c with
  | nil => exact iff_of_true trivial nofun
  | cons i is ih => rw [Meets, ih, List.forall_mem_cons]

/-- The invariant rule: `I` holds at the start and every step that satisfies `K`
keeps it, so it holds at the end of each run that meets `K`. -/
theorem invariant {K : σ × List ω → ι → Prop} {I : σ × List ω → Prop}
    (hstep : ∀ c i, I c → K c i → I (M.next c i)) {c : σ × List ω} {is : List ι}
    (hc : I c) (h : M.Meets K c is) : I (M.exec c is) := by
  induction is generalizing c with
  | nil => exact hc
  | cons i is ih => exact ih (hstep c i hc h.1) h.2

/-- The invariant rule at every configuration on the way. -/
theorem invariant_along {K : σ × List ω → ι → Prop} {I : σ × List ω → Prop}
    (hstep : ∀ c i, I c → K c i → I (M.next c i)) {c : σ × List ω} {is : List ι}
    (hc : I c) (h : M.Meets K c is) {pre : List ι} (hpre : pre <+: is) :
    I (M.exec c pre) := by
  obtain ⟨post, rfl⟩ := hpre
  exact M.invariant hstep hc ((M.meets_append K c pre post).mp h).1

/-- Two step conditions that agree where `I` holds, one of which keeps `I`, are met by the
same runs. -/
theorem meets_congr {K L : σ × List ω → ι → Prop} {I : σ × List ω → Prop}
    (hstep : ∀ c i, I c → L c i → I (M.next c i)) (hKL : ∀ c i, I c → (K c i ↔ L c i))
    {c : σ × List ω} {is : List ι} (hc : I c) : M.Meets K c is ↔ M.Meets L c is := by
  induction is generalizing c with
  | nil => exact Iff.rfl
  | cons i is ih =>
      -- The first step meets both or neither, and keeps the invariant for the others.
      constructor
      · rintro ⟨hK, hrest⟩
        have hL := (hKL c i hc).mp hK
        exact ⟨hL, (ih (hstep c i hc hL)).mp hrest⟩
      · rintro ⟨hL, hrest⟩
        exact ⟨(hKL c i hc).mpr hL, (ih (hstep c i hc hL)).mpr hrest⟩

/-- The rule without a condition: an invariant of every step is one of every run. -/
theorem invariant_all {I : σ × List ω → Prop}
    (hstep : ∀ c i, I c → I (M.next c i)) {c : σ × List ω} (hc : I c)
    (is : List ι) : I (M.exec c is) := by
  induction is generalizing c with
  | nil => exact hc
  | cons i is ih => exact ih (hstep c i hc)

/-- What holds of every step from a state with the invariant holds along every run. -/
theorem meets_of_invariant {K : σ × List ω → ι → Prop} {I : σ × List ω → Prop}
    (hstep : ∀ c i, I c → I (M.next c i)) (hK : ∀ c i, I c → K c i) {c : σ × List ω}
    (hc : I c) (is : List ι) : M.Meets K c is := by
  induction is generalizing c with
  | nil => trivial
  | cons i is ih => exact ⟨hK c i hc, ih (hstep c i hc)⟩

/-- The progress rule: as long as `Goal` does not hold, a step that satisfies `K` keeps
`I` and reaches `Goal` or lowers the rank. What is reached stays. So a run of more steps
than the rank ends in `Goal`. -/
theorem reaches {K : σ × List ω → ι → Prop} {I Goal : σ × List ω → Prop} (rank : σ → Nat)
    (hstep : ∀ c i, I c → K c i → ¬ Goal c →
      Goal (M.next c i) ∨ I (M.next c i) ∧ rank (M.next c i).1 < rank c.1)
    (hstay : ∀ c i, Goal c → K c i → Goal (M.next c i))
    {c : σ × List ω} {is : List ι} (h : M.Meets K c is) (hc : Goal c ∨ I c)
    (hlen : rank c.1 < is.length) : Goal (M.exec c is) := by
  induction is generalizing c with
  | nil => exact absurd hlen (Nat.not_lt_zero _)
  | cons i is ih =>
      -- Either the goal is reached and stays, or the rank is lower for the rest of the run.
      by_cases hgoal : Goal c
      · exact M.invariant hstay hgoal h
      · rw [exec_cons]
        rcases hstep c i (hc.resolve_left hgoal) h.1 hgoal with hnext | ⟨hinv, hrank⟩
        · exact M.invariant hstay hnext h.2
        · rw [List.length_cons] at hlen
          exact ih h.2 (Or.inr hinv) (by omega)

/-! ### Machines side by side -/

section
variable {κ : Type u} [DecidableEq κ] {α β : Type*}

/-- The part of a list that is addressed to `k`. -/
def addressed (k : κ) (l : List (κ × α)) : List α :=
  l.filterMap fun p => if p.1 = k then some p.2 else none

/-- Nothing is addressed by no message. -/
@[simp] theorem addressed_nil (k : κ) : addressed k ([] : List (κ × α)) = [] := rfl

/-- A message to `k` is the first of those to `k`. -/
theorem addressed_cons_self (k : κ) (a : α) (l : List (κ × α)) :
    addressed k ((k, a) :: l) = a :: addressed k l :=
  List.filterMap_cons_some (if_pos rfl)

/-- A message to another one does not count. -/
theorem addressed_cons_ne {k k' : κ} (h : k' ≠ k) (a : α) (l : List (κ × α)) :
    addressed k ((k', a) :: l) = addressed k l :=
  List.filterMap_cons_none (if_neg h)

/-- The messages of a longer list. -/
@[simp] theorem addressed_append (k : κ) (l l' : List (κ × α)) :
    addressed k (l ++ l') = addressed k l ++ addressed k l' :=
  List.filterMap_append

/-- All of a list sent to `k`. -/
theorem addressed_map_self (k : κ) (l : List α) : addressed k (l.map (Prod.mk k)) = l := by
  induction l with
  | nil => rfl
  | cons a l ih => rw [List.map_cons, addressed_cons_self, ih]

/-- None of a list sent elsewhere. -/
theorem addressed_map_ne {k k' : κ} (h : k' ≠ k) (l : List α) :
    addressed k (l.map (Prod.mk k')) = [] := by
  induction l with
  | nil => rfl
  | cons a l ih => rw [List.map_cons, addressed_cons_ne h, ih]

/-- A machine for each index, side by side. A label says which one steps. -/
def family (M : κ → Machine σ ι ω) : Machine (κ → σ) (κ × ι) (κ × ω) where
  step s i := (Function.update s i.1 ((M i.1).step (s i.1) i.2).1,
    ((M i.1).step (s i.1) i.2).2.map (Prod.mk i.1))

/-- Each machine of a family runs as if it were alone: on the labels addressed to it, with
its own observations. -/
theorem family_exec (M : κ → Machine σ ι ω) (k : κ) (c : (κ → σ) × List (κ × ω))
    (is : List (κ × ι)) :
    (((family M).exec c is).1 k, addressed k ((family M).exec c is).2)
      = (M k).exec (c.1 k, addressed k c.2) (addressed k is) := by
  induction is generalizing c with
  | nil => rfl
  | cons i is ih =>
      obtain ⟨k', i⟩ := i
      rw [exec_cons, ih]
      by_cases h : k' = k
      · subst h
        rw [addressed_cons_self, exec_cons]
        congr 1
        simp only [next, family, Function.update_self, addressed_append, addressed_map_self]
      · -- A step of another machine leaves this one and its observations alone.
        rw [addressed_cons_ne h]
        congr 1
        simp only [next, family, Function.update_of_ne (Ne.symm h), addressed_append,
          addressed_map_ne h, List.append_nil]

end

/-! ### Functional simulation -/

/-- `f` maps each concrete step to the abstract step under the same label, with the
same observations. -/
def Simulates {τ : Type*} (M : Machine σ ι ω) (N : Machine τ ι ω) (f : σ → τ) : Prop :=
  ∀ s i, N.step (f s) i = (f (M.step s i).1, (M.step s i).2)

variable {M} {τ : Type*} {N : Machine τ ι ω} {f : σ → τ}

/-- One step of the simulated machine. -/
theorem Simulates.next_map (h : M.Simulates N f) (c : σ × List ω) (i : ι) :
    N.next (f c.1, c.2) i = (f (M.next c i).1, (M.next c i).2) := by
  simp only [next, h c.1 i]

/-- A simulation carries whole runs: the abstract run of the same labels ends in the
image of the concrete one, with the same observations. -/
theorem Simulates.exec_map (h : M.Simulates N f) (c : σ × List ω) (is : List ι) :
    N.exec (f c.1, c.2) is = (f (M.exec c is).1, (M.exec c is).2) := by
  induction is generalizing c with
  | nil => rfl
  | cons i is ih => rw [exec_cons, h.next_map, ih, exec_cons]

/-- A step condition on images is met by the abstract run when it is met by the
concrete one. -/
theorem Simulates.meets_map (h : M.Simulates N f) (K : τ × List ω → ι → Prop)
    (c : σ × List ω) (is : List ι) :
    M.Meets (fun c i => K (f c.1, c.2) i) c is ↔ N.Meets K (f c.1, c.2) is := by
  induction is generalizing c with
  | nil => exact Iff.rfl
  | cons i is ih => simp only [Meets, h.next_map, ih]

/-! ### A second party -/

/-- The machine beside a party that follows the labels. The party changes nothing of the
machine; what it does to the run is said in the step condition. -/
def withParty (M : Machine σ ι ω) (follow : τ → ι → τ) : Machine (σ × τ) ι ω where
  step s i := (((M.step s.1 i).1, follow s.2 i), (M.step s.1 i).2)

/-- A simulation stays one beside a party. -/
theorem Simulates.withParty {ρ : Type*} (h : M.Simulates N f) (follow : ρ → ι → ρ) :
    (M.withParty follow).Simulates (N.withParty follow) (Prod.map f id) := by
  intro s i
  simp only [Machine.withParty, Prod.map_fst, Prod.map_snd, id_eq, h s.1 i, Prod.map_apply]

end Machine

end Lib
