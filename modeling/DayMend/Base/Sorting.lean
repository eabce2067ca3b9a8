import Mathlib.Data.List.Sort

/-!
# Sorting by keys

Lists sorted by a comparison, as by a key that a tuple gives: the order of the
input only matters among elements that compare equal.
-/

namespace DayMend.Base

variable {α : Type*} {cmp : α → α → Ordering} {l l' : List α}

/-- `sorted(l, key=...)`, for the comparison of the keys. -/
def sortBy (cmp : α → α → Ordering) (l : List α) : List α := l.insertionSort fun a b => (cmp a b).isLE

theorem sortBy_perm (cmp : α → α → Ordering) (l : List α) : (sortBy cmp l).Perm l := List.perm_insertionSort _ _

theorem mem_sortBy {a : α} : a ∈ sortBy cmp l ↔ a ∈ l := (sortBy_perm cmp l).mem_iff

theorem pairwise_sortBy [Std.TransCmp cmp] (l : List α) : (sortBy cmp l).Pairwise fun a b => (cmp a b).isLE := by
  have : Std.Total fun a b => (cmp a b).isLE = true := by
    refine ⟨fun a b => ?_⟩
    have hswap : cmp b a = (cmp a b).swap := Std.OrientedCmp.eq_swap
    rw [hswap]
    cases cmp a b <;> simp
  have : IsTrans α fun a b => (cmp a b).isLE = true := ⟨fun _ _ _ => Std.TransCmp.isLE_trans⟩
  exact List.pairwise_insertionSort _ _

/-- Sorting leaves what is sorted as it is. -/
theorem sortBy_eq_self (h : l.Pairwise fun a b => (cmp a b).isLE) : sortBy cmp l = l := h.insertionSort_eq

/-- Sorting by what a function makes of the elements. -/
theorem map_sortBy {β : Type*} {cmp : β → β → Ordering} (f : α → β) (l : List α) :
    (sortBy (fun a b => cmp (f a) (f b)) l).map f = sortBy cmp (l.map f) :=
  List.map_insertionSort _ _ f l fun _ _ _ _ => Iff.rfl

/-- What is sorted after an element is not less. -/
theorem mem_or_isLE_of_sortBy_eq [Std.TransCmp cmp] {before after : List α} {a b : α}
    (h : sortBy cmp l = before ++ a :: after) (hb : b ∈ l) : b ∈ before ∨ b = a ∨ (cmp a b).isLE := by
  have hb : b ∈ sortBy cmp l := mem_sortBy.mpr hb
  rw [h, List.mem_append, List.mem_cons] at hb
  rcases hb with hb | hb | hb
  · exact Or.inl hb
  · exact Or.inr (Or.inl hb)
  · have hsorted : (sortBy cmp l).Pairwise fun a b => (cmp a b).isLE := pairwise_sortBy l
    rw [h, List.pairwise_append, List.pairwise_cons] at hsorted
    exact Or.inr (Or.inr (hsorted.2.1.1 b hb))

/-- **What is sorted decides the result**, if no two elements compare equal. -/
theorem sortBy_eq_of_perm [Std.TransCmp cmp] (hperm : l.Perm l') (heq : ∀ a ∈ l, ∀ b ∈ l, cmp a b = .eq → a = b) :
    sortBy cmp l = sortBy cmp l' := by
  apply List.Perm.eq_of_pairwise _ (pairwise_sortBy l) (pairwise_sortBy l')
  · exact ((sortBy_perm cmp l).trans hperm).trans (sortBy_perm cmp l').symm
  · intro a b ha hb hab hba
    apply heq a (mem_sortBy.mp ha) b (hperm.mem_iff.mpr (mem_sortBy.mp hb))
    exact Std.OrientedCmp.isLE_antisymm hab hba

/-! ### Stability -/

section Stable

variable {κ : Type*} {r : κ → κ → Prop} [DecidableRel r] [DecidableEq κ] {f : α → κ}

theorem filter_orderedInsert (hrefl : ∀ k, r k k) (k : κ) (a : α) : ∀ l : List α,
    (l.orderedInsert (fun a b => r (f a) (f b)) a).filter (f · = k) = (a :: l).filter (f · = k)
  | [] => rfl
  | b :: l => by
    rw [List.orderedInsert]
    split
    · rfl
    next hab =>
      -- `a` goes past `b`, so their keys differ
      have hne : ¬ (f a = k ∧ f b = k) := fun ⟨ha, hb⟩ => hab (ha ▸ hb ▸ hrefl k)
      have ih := filter_orderedInsert hrefl k a l
      by_cases hb : f b = k
      · have ha : f a ≠ k := fun ha => hne ⟨ha, hb⟩
        simpa [List.filter_cons, ha, hb] using ih
      · simpa [List.filter_cons, hb] using ih

/-- What has the same key stays in its order. -/
theorem filter_insertionSort (hrefl : ∀ k, r k k) (k : κ) (l : List α) :
    (l.insertionSort fun a b => r (f a) (f b)).filter (f · = k) = l.filter (f · = k) := by
  induction l with
  | nil => rfl
  | cons a l ih => rw [List.insertionSort_cons, filter_orderedInsert hrefl, List.filter_cons, List.filter_cons, ih]

omit [DecidableRel r] in
/-- Sorted lists in which every key has the same elements in the same order are the same. -/
theorem eq_of_sorted_of_filter_eq (hantisymm : ∀ j k, r j k → r k j → j = k) : ∀ {l l' : List α},
    l.Pairwise (fun a b => r (f a) (f b)) → l'.Pairwise (fun a b => r (f a) (f b)) →
      (∀ k, l.filter (f · = k) = l'.filter (f · = k)) → l = l'
  | [], [], _, _, _ => rfl
  | [], b :: l', _, _, h => by simpa using h (f b)
  | a :: l, [], _, _, h => by simpa using h (f a)
  | a :: l, b :: l', hl, hl', h => by
    obtain ⟨ha, htail⟩ := List.pairwise_cons.mp hl
    obtain ⟨hb, htail'⟩ := List.pairwise_cons.mp hl'
    have hkey : f a = f b := by
      by_contra hne
      have hmem : ∀ {x : α}, x ∈ a :: l ↔ x ∈ b :: l' := fun {x} => by
        have hx := congrArg (x ∈ ·) (h (f x))
        simpa using hx
      have hba : b ∈ l := (List.mem_cons.mp (hmem.mpr List.mem_cons_self)).resolve_left fun heq => hne (heq ▸ rfl)
      have hab : a ∈ l' := (List.mem_cons.mp (hmem.mp List.mem_cons_self)).resolve_left fun heq => hne (heq ▸ rfl)
      exact hne (hantisymm _ _ (ha b hba) (hb a hab))
    have hhead := h (f a)
    rw [List.filter_cons_of_pos (by simp), List.filter_cons_of_pos (by simp [hkey])] at hhead
    obtain rfl := (List.cons.inj hhead).1
    congr 1
    apply eq_of_sorted_of_filter_eq hantisymm htail htail'
    intro k
    by_cases hk : f a = k
    · have hfilter := h k
      rw [List.filter_cons_of_pos (by simpa using hk), List.filter_cons_of_pos (by simpa using hk)] at hfilter
      exact (List.cons.inj hfilter).2
    · simpa [hk] using h k

end Stable

end DayMend.Base
