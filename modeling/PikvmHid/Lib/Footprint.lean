import Mathlib.Logic.Function.Basic

/-!
# `PikvmHid.Lib.Footprint`: functions on a memory and the region they touch

A memory is a function from addresses to values. A function on memories is `Within` a region if it
changes nothing else, and each value of the region depends on the old one only. It `Avoids` the
region if it changes nothing there, and what it does elsewhere does not depend on the region. The
two commute: `Within.comm`.
-/

set_option autoImplicit false

namespace Lib

universe u v

variable {ι : Type u} {α : Type v} {R : ι → Prop}

/-- A function that stores in the region, value by value. -/
structure Within (R : ι → Prop) (s : (ι → α) → ι → α) : Prop where
  rest : ∀ m i, ¬ R i → s m i = m i
  value : ∀ m m' i, m i = m' i → s m i = s m' i

/-- A function that neither reads nor stores in the region. -/
structure Avoids (R : ι → Prop) (f : (ι → α) → ι → α) : Prop where
  keeps : ∀ m i, R i → f m i = m i
  reads : ∀ m m', (∀ i, ¬ R i → m i = m' i) → ∀ i, ¬ R i → f m i = f m' i

/-- The two can be done in either order. -/
theorem Within.comm {s f : (ι → α) → ι → α} (hs : Within R s) (hf : Avoids R f) (m : ι → α) :
    f (s m) = s (f m) := by
  funext i
  by_cases hi : R i
  · rw [hf.keeps _ i hi]
    exact (hs.value _ _ i (hf.keeps m i hi)).symm
  · rw [hs.rest _ i hi]
    exact hf.reads _ _ (fun j hj => hs.rest m j hj) i hi

/-- Nothing is stored. -/
theorem Within.id : Within R (id : (ι → α) → ι → α) := ⟨fun _ _ _ => rfl, fun _ _ _ h => h⟩

/-- Two stores in the region, one after the other. -/
theorem Within.comp {s t : (ι → α) → ι → α} (hs : Within R s) (ht : Within R t) :
    Within R fun m => t (s m) where
  rest m i hi := (ht.rest _ i hi).trans (hs.rest m i hi)
  value m m' i h := ht.value _ _ i (hs.value m m' i h)

/-- Two functions that avoid it, one after the other. -/
theorem Avoids.comp {f g : (ι → α) → ι → α} (hf : Avoids R f) (hg : Avoids R g) :
    Avoids R fun m => g (f m) where
  keeps m i hi := (hg.keeps _ i hi).trans (hf.keeps m i hi)
  reads m m' h := hg.reads _ _ (hf.reads m m' h)

section
variable [DecidableEq ι]

/-- One store in the region. -/
theorem Within.update {a : ι} (ha : R a) (v : α) : Within R fun m => Function.update m a v where
  rest m i hi := by
    have hia : i ≠ a := fun h => hi (h ▸ ha)
    rw [Function.update_of_ne hia]
  value m m' i h := by
    by_cases hi : i = a
    · rw [hi, Function.update_self, Function.update_self]
    · rw [Function.update_of_ne hi, Function.update_of_ne hi, h]

/-- One store elsewhere, of a value that does not come from the region. -/
theorem Avoids.update {a : ι} (ha : ¬ R a) {v : (ι → α) → α}
    (hv : ∀ m m', (∀ i, ¬ R i → m i = m' i) → v m = v m') :
    Avoids R fun m => Function.update m a (v m) where
  keeps m i hi := by
    have hia : i ≠ a := fun h => ha (h ▸ hi)
    rw [Function.update_of_ne hia]
  reads m m' h i hi := by
    by_cases hia : i = a
    · rw [hia, Function.update_self, Function.update_self, hv m m' h]
    · rw [Function.update_of_ne hia, Function.update_of_ne hia, h i hi]

end

end Lib
