import PikvmHid.Lib.Machine

/-!
# `PikvmHid.Lib.Ownership`: a lock with an owner

The lock is free or held by one party. An acquisition succeeds if it is free, and a release
frees it if it is the holder's. The trace says which acquisitions succeeded.

`Held t a` reads off the trace that `a` holds the lock: an acquisition by `a` succeeded, and
`a` released nothing since. Every operation keeps it equal to what the state says:
`agree_next`. So at most one party holds the lock.
-/

set_option autoImplicit false

namespace Lib.Ownership

variable {α : Type*}

/-- What a party can do. -/
inductive Op (α : Type*) where
  | acquire (a : α)
  | release (a : α)

/-- What the trace shows. -/
inductive Event (α : Type*) where
  | acquire (a : α) (ok : Bool)
  | release (a : α)

/-- `a` holds the lock: it acquired it, and has not released it since. -/
def Held (t : List (Event α)) (a : α) : Prop :=
  ∃ before after, t = before ++ .acquire a true :: after ∧ Event.release a ∉ after

/-- Before any event nobody holds the lock. -/
theorem not_held_nil (a : α) : ¬ Held [] a := by
  rintro ⟨before, after, h, -⟩
  simp at h

/-- The last event decides, or it is not about the lock of `a`. -/
theorem held_append_singleton_iff (t : List (Event α)) (e : Event α) (a : α) :
    Held (t ++ [e]) a ↔ e = .acquire a true ∨ Held t a ∧ e ≠ .release a := by
  constructor
  · rintro ⟨before, after, h, hafter⟩
    rcases List.eq_nil_or_concat after with rfl | ⟨after, last, rfl⟩
    · -- The acquisition is the last event itself.
      obtain ⟨-, he⟩ := List.append_inj' h rfl
      exact Or.inl (List.singleton_inj.mp he)
    · rw [List.concat_eq_append, ← List.cons_append, ← List.append_assoc] at h
      obtain ⟨ht, he⟩ := List.append_inj' h rfl
      rw [List.concat_eq_append, List.mem_append, not_or, List.mem_singleton] at hafter
      rw [List.singleton_inj.mp he]
      exact Or.inr ⟨⟨before, after, ht, hafter.1⟩, Ne.symm hafter.2⟩
  · rintro (rfl | ⟨⟨before, after, rfl, hafter⟩, he⟩)
    · exact ⟨t, [], rfl, List.not_mem_nil⟩
    · refine ⟨before, after ++ [e], by rw [List.append_assoc, List.cons_append], ?_⟩
      rw [List.mem_append, not_or, List.mem_singleton]
      exact ⟨hafter, Ne.symm he⟩

/-- The trace and the state agree on who holds the lock. -/
def Agree (c : Option α × List (Event α)) : Prop := ∀ a, Held c.2 a ↔ c.1 = some a

/-- A free lock agrees with no events. -/
theorem agree_init : Agree ((none, []) : Option α × List (Event α)) :=
  fun a => iff_of_false (not_held_nil a) (Option.some_ne_none a).symm

variable [DecidableEq α]

/-- One operation. -/
def step (s : Option α) : Op α → Option α × List (Event α)
  | .acquire a => (some (s.getD a), [.acquire a s.isNone])
  | .release a => (if s = some a then none else s, [.release a])

/-- The lock as a machine. -/
def lock : Machine (Option α) (Op α) (Event α) := ⟨step⟩

/-- Every operation keeps the agreement. -/
theorem agree_next (c : Option α × List (Event α)) (op : Op α) (h : Agree c) :
    Agree (lock.next c op) := by
  obtain ⟨s, t⟩ := c
  intro b
  have hb : Held t b ↔ s = some b := h b
  cases op with
  | acquire a =>
      cases s with
      | none =>
          show Held (t ++ [.acquire a true]) b ↔ some a = some b
          rw [held_append_singleton_iff, hb]
          simp
      | some c =>
          show Held (t ++ [.acquire a false]) b ↔ some c = some b
          rw [held_append_singleton_iff, hb]
          simp
  | release a =>
      show Held (t ++ [.release a]) b ↔ (if s = some a then none else s) = some b
      rw [held_append_singleton_iff, hb]
      -- A release by the holder frees the lock, and any other changes nothing.
      by_cases hs : s = some a
      · rw [if_pos hs, hs]
        simp
      · rw [if_neg hs]
        have hne : s = some b → Event.release a ≠ Event.release b := by
          rintro hsb ⟨⟩
          exact hs hsb
        simpa using hne

end Lib.Ownership
