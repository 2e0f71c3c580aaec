import PikvmHid.Lib.Machine

/-!
# `PikvmHid.Lib.Refinement`: a machine that refines another

A concrete machine refines an abstract one when each of its steps is a run of the abstract machine
between the images of its states, with the observations the abstract machine knows. A step that
changes nothing of the image is the empty run. The rule `Refines.run` carries whole runs.

A `Simulation` is more general: the states are related instead of mapped, and the steps of both
machines may be guarded. The rule is `Simulation.run`.
-/

set_option autoImplicit false

namespace Lib

namespace Machine

universe u v w

variable {σ τ : Type u} {ι κ : Type v} {ω ν : Type w}

/-- The observations made before a run stay in front. -/
theorem exec_obs (M : Machine σ ι ω) (s : σ) (obs : List ω) (is : List ι) :
    M.exec (s, obs) is = ((M.exec (s, []) is).1, obs ++ (M.exec (s, []) is).2) := by
  induction is generalizing s obs with
  | nil => simp
  | cons i is ih =>
      rw [exec_cons, exec_cons, next, next, ih, ih (M.step s i).1 ([] ++ (M.step s i).2)]
      simp [List.append_assoc]

/-- `M` refines `N` through the abstraction `f` of states and `p` of observations, as long as the
states satisfy `I` and the labels `K`. -/
structure Refines (M : Machine σ ι ω) (N : Machine τ κ ν) (f : σ → τ) (p : ω → Option ν)
    (I : σ → Prop) (K : ι → Prop) : Prop where
  keeps : ∀ s i, I s → K i → I (M.step s i).1
  step : ∀ s i, I s → K i → ∃ js : List κ,
    N.exec (f s, []) js = (f (M.step s i).1, (M.step s i).2.filterMap p)

variable {M : Machine σ ι ω} {N : Machine τ κ ν} {f : σ → τ} {p : ω → Option ν}
  {I : σ → Prop} {K : ι → Prop}

/-- A run of the concrete machine is a run of the abstract one. -/
theorem Refines.run (h : Refines M N f p I K) {s : σ} (hs : I s) {is : List ι}
    (his : ∀ i ∈ is, K i) :
    I (M.exec (s, []) is).1 ∧ ∃ js : List κ,
      N.exec (f s, []) js = (f (M.exec (s, []) is).1, (M.exec (s, []) is).2.filterMap p) := by
  induction is generalizing s with
  | nil => exact ⟨hs, [], rfl⟩
  | cons i is ih =>
      have hi := his i List.mem_cons_self
      obtain ⟨js, hjs⟩ := h.step s i hs hi
      obtain ⟨hI, ks, hks⟩ := ih (h.keeps s i hs hi) fun j hj => his j (List.mem_cons_of_mem i hj)
      have hexec : M.exec (s, []) (i :: is) =
          ((M.exec ((M.step s i).1, []) is).1,
            (M.step s i).2 ++ (M.exec ((M.step s i).1, []) is).2) := by
        rw [exec_cons, next, exec_obs, List.nil_append]
      rw [hexec]
      refine ⟨hI, js ++ ks, ?_⟩
      rw [exec_append, hjs, exec_obs, hks, List.filterMap_append]

/-! ### Simulations -/

/-- `R` relates the configurations of two machines so that each step of `M` that satisfies `K` is a
run of `N` whose steps satisfy `L`. -/
structure Simulation (M : Machine σ ι ω) (N : Machine τ κ ν) (K : σ × List ω → ι → Prop)
    (L : τ × List ν → κ → Prop) (R : σ × List ω → τ × List ν → Prop) : Prop where
  step : ∀ c d i, R c d → K c i → ∃ js, N.Meets L d js ∧ R (M.next c i) (N.exec d js)

/-- The same holds of runs. -/
theorem Simulation.run {M : Machine σ ι ω} {N : Machine τ κ ν} {K : σ × List ω → ι → Prop}
    {L : τ × List ν → κ → Prop} {R : σ × List ω → τ × List ν → Prop} (h : Simulation M N K L R)
    {c : σ × List ω} {d : τ × List ν} (hR : R c d) {is : List ι} (his : M.Meets K c is) :
    ∃ js, N.Meets L d js ∧ R (M.exec c is) (N.exec d js) := by
  induction is generalizing c d with
  | nil => exact ⟨[], trivial, hR⟩
  | cons i is ih =>
      obtain ⟨js, hjs, hnext⟩ := h.step c d i hR his.1
      obtain ⟨ks, hks, hend⟩ := ih hnext his.2
      refine ⟨js ++ ks, (N.meets_append L d js ks).mpr ⟨hjs, hks⟩, ?_⟩
      rw [exec_append]
      exact hend

end Machine

end Lib
