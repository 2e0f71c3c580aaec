import Mathlib.Data.List.SplitBy

/-!
# `PikvmHid.Lib.Grouping`: lists cut into short groups of one class

A loop that collects elements into a group closes the group before an element of another
class, and once the group is full. `cuts` are the groups it makes, each with its class.

* `flatMap_cuts`: the groups make up the list.
* `class_of_mem_cuts`, `length_of_mem_cuts`: a group has one class and is not too long.
* `forall_mem_cuts_iff`: the groups are the maximal runs of one class, cut at equal
  distances.
-/

set_option autoImplicit false

namespace Lib.Grouping

variable {α β : Type} [DecidableEq β] (cls : α → β) (n : Nat)

/-- The groups of the list behind `group`, which is open and has class `c`. -/
def cuts : β → List α → List α → List (β × List α)
  | c, group, []     => [(c, group)]
  | c, group, a :: l =>
      if cls a = c ∧ group.length < n then cuts c (group ++ [a]) l
      else (c, group) :: cuts (cls a) [a] l

variable {cls n}

/-- An element of the same class joins a group with room. -/
theorem cuts_cons_pos {c : β} {group : List α} {a : α} {l : List α}
    (h : cls a = c ∧ group.length < n) :
    cuts cls n c group (a :: l) = cuts cls n c (group ++ [a]) l := if_pos h

/-- Any other one begins a new group. -/
theorem cuts_cons_neg {c : β} {group : List α} {a : α} {l : List α}
    (h : ¬ (cls a = c ∧ group.length < n)) :
    cuts cls n c group (a :: l) = (c, group) :: cuts cls n (cls a) [a] l := if_neg h

/-- The groups together are the list. -/
theorem flatMap_cuts (c : β) (group l : List α) :
    (cuts cls n c group l).flatMap Prod.snd = group ++ l := by
  induction l generalizing c group with
  | nil => simp [cuts]
  | cons a l ih =>
      by_cases h : cls a = c ∧ group.length < n
      · rw [cuts_cons_pos h, ih, List.append_assoc]
        rfl
      · rw [cuts_cons_neg h, List.flatMap_cons, ih]
        rfl

/-- Every element of a group has its class. -/
theorem class_of_mem_cuts {c : β} {group l : List α} (hgroup : ∀ a ∈ group, cls a = c) :
    ∀ p ∈ cuts cls n c group l, ∀ a ∈ p.2, cls a = p.1 := by
  induction l generalizing c group with
  | nil =>
      intro p hp
      rw [List.mem_singleton.mp hp]
      exact hgroup
  | cons a l ih =>
      by_cases h : cls a = c ∧ group.length < n
      · rw [cuts_cons_pos h]
        refine ih fun b hb => ?_
        rcases List.mem_append.mp hb with hb | hb
        · exact hgroup b hb
        · rw [List.mem_singleton.mp hb]
          exact h.1
      · rw [cuts_cons_neg h, List.forall_mem_cons]
        refine ⟨hgroup, ih fun b hb => ?_⟩
        rw [List.mem_singleton.mp hb]

/-- No group is longer than `n`. -/
theorem length_of_mem_cuts (hn : 0 < n) {c : β} {group l : List α}
    (hgroup : group.length ≤ n) : ∀ p ∈ cuts cls n c group l, p.2.length ≤ n := by
  induction l generalizing c group with
  | nil =>
      intro p hp
      rw [List.mem_singleton.mp hp]
      exact hgroup
  | cons a l ih =>
      by_cases h : cls a = c ∧ group.length < n
      · rw [cuts_cons_pos h]
        refine ih ?_
        rw [List.length_append, List.length_singleton]
        exact h.2
      · rw [cuts_cons_neg h, List.forall_mem_cons]
        exact ⟨hgroup, ih hn⟩

/-! ### Runs -/

/-- The `k`-th piece of length `n`. -/
def piece (n k : Nat) (l : List α) : List α := (l.drop (n * k)).take n

/-- The pieces of a full group and what is behind it. -/
theorem forall_piece_append {P : List α → Prop} {group : List α} (h : group.length = n)
    (l : List α) : (∀ k, P (piece n k (group ++ l))) ↔ P group ∧ ∀ k, P (piece n k l) := by
  have hzero : piece n 0 (group ++ l) = group := by
    rw [piece, Nat.mul_zero, List.drop_zero, List.take_left' h]
  have hsucc : ∀ k, piece n (k + 1) (group ++ l) = piece n k l := by
    intro k
    rw [piece, piece, Nat.mul_succ, Nat.add_comm, ← List.drop_drop, List.drop_left' h]
  constructor
  · intro hall
    exact ⟨hzero ▸ hall 0, fun k => hsucc k ▸ hall (k + 1)⟩
  · rintro ⟨hfirst, hrest⟩ k
    cases k with
    | zero => rwa [hzero]
    | succ k =>
        rw [hsucc]
        exact hrest k

/-- A short list is its own only piece. -/
theorem forall_piece_of_length_le {P : List α → Prop} (hnil : P []) {group : List α}
    (h : group.length ≤ n) : (∀ k, P (piece n k group)) ↔ P group := by
  have hzero : piece n 0 group = group := by
    rw [piece, Nat.mul_zero, List.drop_zero, List.take_of_length_le h]
  refine ⟨fun hall => hzero ▸ hall 0, fun hP k => ?_⟩
  cases k with
  | zero => rwa [hzero]
  | succ k =>
      rw [piece, List.drop_eq_nil_of_le (by rw [Nat.mul_succ]; omega), List.take_nil]
      exact hnil

/-- What is behind the groups of a run starts a group of its own. -/
theorem forall_mem_cuts_append {P : List α → Prop} (hnil : P []) (hn : 0 < n) {c : β}
    {group run rest : List α} (hgroup : group.length ≤ n) (hrun : ∀ a ∈ run, cls a = c)
    (hrest : ∀ a ∈ rest.head?, cls a ≠ c) :
    (∀ p ∈ cuts cls n c group (run ++ rest), P p.2) ↔
      (∀ k, P (piece n k (group ++ run))) ∧ ∀ p ∈ cuts cls n c [] rest, P p.2 := by
  induction run generalizing group with
  | nil =>
      rw [List.nil_append, List.append_nil, forall_piece_of_length_le hnil hgroup]
      cases rest with
      | nil => simp [cuts, hnil]
      | cons a rest =>
          have hne : cls a ≠ c := hrest a rfl
          rw [cuts_cons_neg fun h => hne h.1, cuts_cons_neg fun h => hne h.1,
            List.forall_mem_cons, List.forall_mem_cons, and_iff_right hnil]
  | cons a run ih =>
      have ha : cls a = c := hrun a List.mem_cons_self
      have hrun' : ∀ b ∈ run, cls b = c := fun b hb => hrun b (List.mem_cons_of_mem a hb)
      rw [List.cons_append]
      by_cases h : group.length < n
      · have hlen : (group ++ [a]).length ≤ n := by
          rw [List.length_append, List.length_singleton]
          exact h
        rw [cuts_cons_pos ⟨ha, h⟩, ih hlen hrun', List.append_assoc]
        rfl
      · -- The group is full, and `a` starts the next one.
        have hfull : group.length = n := by omega
        rw [cuts_cons_neg fun hboth => h hboth.2, List.forall_mem_cons, ha,
          ih (show [a].length ≤ n from hn) hrun', forall_piece_append hfull, and_assoc]
        rfl

/-- The elements of a chain of equal classes have the class of the first one. -/
theorem class_eq_of_isChain {a : α} {l : List α}
    (h : (a :: l).IsChain fun x y => cls x == cls y) : ∀ b ∈ l, cls b = cls a := by
  induction l generalizing a with
  | nil => exact nofun
  | cons b l ih =>
      have hab : cls a = cls b := eq_of_beq (List.isChain_cons_cons.mp h).1
      rw [List.forall_mem_cons]
      refine ⟨hab.symm, fun x hx => ?_⟩
      exact (ih (List.isChain_cons_cons.mp h).2 x hx).trans hab.symm

/-- Behind an empty group the class is that of the first element. -/
theorem forall_mem_cuts_class {P : List α → Prop} (hnil : P []) (hn : 0 < n) (c : β) (a : α)
    (l : List α) : (∀ p ∈ cuts cls n c [] (a :: l), P p.2) ↔
      ∀ p ∈ cuts cls n (cls a) [] (a :: l), P p.2 := by
  by_cases h : cls a = c
  · rw [h]
  · rw [cuts_cons_neg fun hboth => h hboth.1, cuts_cons_pos ⟨rfl, hn⟩, List.forall_mem_cons,
      and_iff_right hnil]
    rfl

/-- The groups are the pieces of the maximal runs. -/
theorem forall_mem_cuts_flatten {P : List α → Prop} (hnil : P []) (hn : 0 < n)
    {runs : List (List α)} (hne : [] ∉ runs)
    (hchain : ∀ run ∈ runs, run.IsChain fun x y => cls x == cls y)
    (hlast : runs.IsChain fun r s => ∃ hr hs, (cls (r.getLast hr) == cls (s.head hs)) = false)
    (c : β) : (∀ p ∈ cuts cls n c [] runs.flatten, P p.2) ↔
      ∀ run ∈ runs, ∀ k, P (piece n k run) := by
  induction runs generalizing c with
  | nil => simp [cuts, hnil]
  | cons run runs ih =>
      rw [List.mem_cons, not_or] at hne
      rw [List.forall_mem_cons] at hchain
      cases run with
      | nil => exact absurd rfl hne.1
      | cons a run =>
          have hrun := class_eq_of_isChain hchain.1
          -- The next run starts with another class.
          have hrest : ∀ b ∈ runs.flatten.head?, cls b ≠ cls a := by
            cases runs with
            | nil => exact nofun
            | cons next runs =>
                obtain ⟨hr, hs, hdiff⟩ := (List.isChain_cons_cons.mp hlast).1
                have hlastcls : cls ((a :: run).getLast hr) = cls a := by
                  rcases List.mem_cons.mp (List.getLast_mem hr) with heq | hmem
                  · rw [heq]
                  · exact hrun _ hmem
                intro b hb
                rw [List.flatten_cons, List.head?_append_of_ne_nil _ hs,
                  List.head?_eq_some_head hs] at hb
                rw [← Option.some.inj hb]
                rw [hlastcls] at hdiff
                exact fun heq => absurd (beq_iff_eq.mpr heq.symm) (Bool.eq_false_iff.mp hdiff)
          have hall : ∀ b ∈ a :: run, cls b = cls a := List.forall_mem_cons.mpr ⟨rfl, hrun⟩
          rw [List.flatten_cons, List.cons_append, forall_mem_cuts_class hnil hn,
            ← List.cons_append,
            forall_mem_cuts_append hnil hn (show ([] : List α).length ≤ n from Nat.zero_le n)
              hall hrest, ih hne.2 hchain.2 hlast.tail, List.forall_mem_cons]
          rfl

/-- The groups of a list are the pieces of its maximal runs of one class. -/
theorem forall_mem_cuts_iff {P : List α → Prop} (hnil : P []) (hn : 0 < n) (c : β)
    (l : List α) : (∀ p ∈ cuts cls n c [] l, P p.2) ↔
      ∀ run ∈ l.splitBy (fun x y => cls x == cls y), ∀ k, P (piece n k run) := by
  have h : (∀ p ∈ cuts cls n c [] (l.splitBy fun x y => cls x == cls y).flatten, P p.2) ↔
      ∀ run ∈ l.splitBy (fun x y => cls x == cls y), ∀ k, P (piece n k run) :=
    forall_mem_cuts_flatten hnil hn (List.nil_notMem_splitBy _ l)
      (fun _ hrun => List.isChain_of_mem_splitBy hrun)
      (List.isChain_getLast_head_splitBy (fun x y => cls x == cls y) l) c
  rwa [List.flatten_splitBy] at h

end Lib.Grouping
