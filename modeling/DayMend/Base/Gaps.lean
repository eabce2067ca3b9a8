import Mathlib.Data.List.Sort
import Mathlib.Order.MinMax

/-!
# What is left open

Items with a start and a finish leave gaps of a stretch (`IsGap`): a gap is free of items,
and cannot be made longer. Items in the order of their starts can be swept from one end of
the stretch to the other, however they overlap (`gapsFrom`), and this gives the gaps, from
the first to the last (`mem_gapsFrom`, `pairwise_gapsFrom`).
-/

namespace DayMend.Base

variable {ι α : Type} [LinearOrder α] {start finish : ι → α} {items : List ι} {lo hi t : α} {gap : α × α} {x : ι}

variable (start finish) in
/-- A gap that the items leave of the stretch from `lo` to `hi`: every item is over before it or comes after it, and it
reaches from an item, or from `lo`, to an item, or to `hi`. -/
structure IsGap (items : List ι) (lo hi : α) (gap : α × α) : Prop where
  lt : gap.1 < gap.2
  lo_le : lo ≤ gap.1
  le_hi : gap.2 ≤ hi
  free : ∀ x ∈ items, finish x ≤ gap.1 ∨ gap.2 ≤ start x
  begins : gap.1 = lo ∨ ∃ x ∈ items, finish x = gap.1
  ends : gap.2 = hi ∨ ∃ x ∈ items, start x = gap.2

variable (start finish) in
/-- The gaps from `lo` on, by a sweep over the items. -/
def gapsFrom (hi : α) : α → List ι → List (α × α)
  | lo, [] => if lo < hi then [(lo, hi)] else []
  | lo, x :: items =>
    (if lo < start x then [(lo, start x)] else []) ++ gapsFrom hi (max lo (finish x)) items

variable (start finish) in
/-- The items are in the order of their starts, and none goes on after `hi`. -/
structure Sweepable (hi : α) (items : List ι) : Prop where
  sorted : items.Pairwise fun x y => start x ≤ start y
  start_le_finish : ∀ x ∈ items, start x ≤ finish x
  finish_le : ∀ x ∈ items, finish x ≤ hi

theorem Sweepable.tail (h : Sweepable start finish hi (x :: items)) : Sweepable start finish hi items where
  sorted := h.sorted.tail
  start_le_finish y hy := h.start_le_finish y (List.mem_cons_of_mem _ hy)
  finish_le y hy := h.finish_le y (List.mem_cons_of_mem _ hy)

theorem Sweepable.start_le (h : Sweepable start finish hi (x :: items)) {y : ι} (hy : y ∈ x :: items) :
    start x ≤ start y := by
  rcases List.mem_cons.mp hy with rfl | hy
  · exact le_rfl
  · exact (List.pairwise_cons.mp h.sorted).1 y hy

/-- A gap before the first item. -/
theorem isGap_first (h : Sweepable start finish hi (x :: items)) (hlt : lo < start x) :
    IsGap start finish (x :: items) lo hi (lo, start x) where
  lt := hlt
  lo_le := le_rfl
  le_hi := (h.start_le_finish x List.mem_cons_self).trans (h.finish_le x List.mem_cons_self)
  free _ hy := Or.inr (h.start_le hy)
  begins := Or.inl rfl
  ends := Or.inr ⟨x, List.mem_cons_self, rfl⟩

/-- A gap that ends before the first item does not begin with an item. -/
theorem IsGap.eq_first (hgap : IsGap start finish (x :: items) lo hi gap) (h : Sweepable start finish hi (x :: items))
    (hlater : gap.2 ≤ start x) : gap = (lo, start x) := by
  have hfirst : gap.1 = lo := by
    refine hgap.begins.resolve_right ?_
    rintro ⟨y, hy, hfinish⟩
    have hstarts := (h.start_le hy).trans (h.start_le_finish y hy)
    exact absurd (hgap.lt.trans_le hlater) (not_lt.mpr (hfinish ▸ hstarts))
  have hsecond : gap.2 = start x := by
    rcases hgap.ends with hends | ⟨y, hy, hstart⟩
    · have hhi := (h.start_le_finish x List.mem_cons_self).trans (h.finish_le x List.mem_cons_self)
      exact le_antisymm hlater (hends ▸ hhi)
    · exact le_antisymm hlater (hstart ▸ h.start_le hy)
  exact Prod.ext hfirst hsecond

/-- A gap after the first item is a gap that the others leave. -/
theorem IsGap.tail (h : IsGap start finish (x :: items) lo hi gap) (hx : start x ≤ finish x)
    (hover : finish x ≤ gap.1) : IsGap start finish items (max lo (finish x)) hi gap where
  lt := h.lt
  lo_le := max_le h.lo_le hover
  le_hi := h.le_hi
  free y hy := h.free y (List.mem_cons_of_mem _ hy)
  begins := by
    rcases h.begins with hbegins | ⟨y, hy, hfinish⟩
    · exact Or.inl (le_antisymm (hbegins ▸ le_max_left ..) (max_le h.lo_le hover))
    · rcases List.mem_cons.mp hy with rfl | hy
      · exact Or.inl (le_antisymm (hfinish ▸ le_max_right ..) (max_le h.lo_le hover))
      · exact Or.inr ⟨y, hy, hfinish⟩
  ends := by
    rcases h.ends with hends | ⟨y, hy, hstart⟩
    · exact Or.inl hends
    · rcases List.mem_cons.mp hy with rfl | hy
      · exact absurd (hstart ▸ hx.trans hover) (not_le.mpr h.lt)
      · exact Or.inr ⟨y, hy, hstart⟩

/-- What the others leave after the first item is a gap. -/
theorem IsGap.cons (h : IsGap start finish items (max lo (finish x)) hi gap) :
    IsGap start finish (x :: items) lo hi gap where
  lt := h.lt
  lo_le := (le_max_left ..).trans h.lo_le
  le_hi := h.le_hi
  free y hy := by
    rcases List.mem_cons.mp hy with rfl | hy
    · exact Or.inl ((le_max_right ..).trans h.lo_le)
    · exact h.free y hy
  begins := by
    rcases h.begins with hbegins | ⟨y, hy, hfinish⟩
    · rcases max_choice lo (finish x) with hmax | hmax
      · exact Or.inl (hbegins.trans hmax)
      · exact Or.inr ⟨x, List.mem_cons_self, (hbegins.trans hmax).symm⟩
    · exact Or.inr ⟨y, List.mem_cons_of_mem _ hy, hfinish⟩
  ends := by
    rcases h.ends with hends | ⟨y, hy, hstart⟩
    · exact Or.inl hends
    · exact Or.inr ⟨y, List.mem_cons_of_mem _ hy, hstart⟩

/-- A gap before the first item, or a gap of the rest. -/
theorem isGap_cons (h : Sweepable start finish hi (x :: items)) :
    IsGap start finish (x :: items) lo hi gap ↔
      (lo < start x ∧ gap = (lo, start x)) ∨ IsGap start finish items (max lo (finish x)) hi gap := by
  constructor
  · intro hgap
    rcases hgap.free x List.mem_cons_self with hover | hlater
    · exact Or.inr (hgap.tail (h.start_le_finish x List.mem_cons_self) hover)
    · obtain rfl := hgap.eq_first h hlater
      exact Or.inl ⟨hgap.lt, rfl⟩
  · rintro (⟨hlt, rfl⟩ | hgap)
    · exact isGap_first h hlt
    · exact hgap.cons

/-- **The sweep finds the gaps.** -/
theorem mem_gapsFrom (h : Sweepable start finish hi items) :
    gap ∈ gapsFrom start finish hi lo items ↔ IsGap start finish items lo hi gap := by
  induction items generalizing lo with
  | nil =>
    rw [gapsFrom]
    constructor
    · intro hgap
      split at hgap
      next hlt =>
        obtain rfl := List.mem_singleton.mp hgap
        exact ⟨hlt, le_rfl, le_rfl, List.forall_mem_nil _, Or.inl rfl, Or.inl rfl⟩
      next => cases hgap
    · rintro ⟨hlt, -, -, -, hbegins | ⟨_, ⟨⟩, -⟩, hends | ⟨_, ⟨⟩, -⟩⟩
      rw [if_pos (hbegins ▸ hends ▸ hlt), List.mem_singleton]
      exact Prod.ext hbegins hends
  | cons x items ih =>
    rw [gapsFrom, List.mem_append, ih h.tail, isGap_cons h]
    apply or_congr_left
    split
    next hlt => simp [hlt]
    next hlt => simp [hlt]

/-- It finds them in order. -/
theorem pairwise_gapsFrom (h : Sweepable start finish hi items) :
    (gapsFrom start finish hi lo items).Pairwise fun g g' => g.2 ≤ g'.1 := by
  induction items generalizing lo with
  | nil =>
    rw [gapsFrom]
    split
    · exact List.pairwise_singleton ..
    · exact .nil
  | cons x items ih =>
    rw [gapsFrom]
    split
    next hlt =>
      refine List.pairwise_cons.mpr ⟨fun g hg => ?_, ih h.tail⟩
      have hlo := ((mem_gapsFrom h.tail).mp hg).lo_le
      exact (h.start_le_finish x List.mem_cons_self).trans ((le_max_right ..).trans hlo)
    next => exact ih h.tail

/-- **What is in a gap** is what no item covers. -/
theorem exists_mem_gapsFrom_iff (h : Sweepable start finish hi items) :
    (∃ g ∈ gapsFrom start finish hi lo items, g.1 ≤ t ∧ t < g.2) ↔
      (lo ≤ t ∧ t < hi) ∧ ∀ x ∈ items, ¬ (start x ≤ t ∧ t < finish x) := by
  induction items generalizing lo with
  | nil =>
    rw [gapsFrom]
    constructor
    · rintro ⟨g, hg, ht⟩
      split at hg
      · obtain rfl := List.mem_singleton.mp hg
        exact ⟨ht, List.forall_mem_nil _⟩
      · cases hg
    · rintro ⟨ht, -⟩
      exact ⟨(lo, hi), by rw [if_pos (ht.1.trans_lt ht.2)]; exact List.mem_singleton_self _, ht⟩
  | cons x items ih =>
    have hx := h.start_le_finish x List.mem_cons_self
    have hhi := h.finish_le x List.mem_cons_self
    simp only [gapsFrom, List.mem_append, or_and_right, exists_or, ih h.tail, List.forall_mem_cons, max_le_iff]
    constructor
    · rintro (⟨g, hg, ht⟩ | ⟨⟨⟨hlo, hfinish⟩, hlt⟩, hrest⟩)
      · split at hg
        · obtain rfl := List.mem_singleton.mp hg
          refine ⟨⟨ht.1, ht.2.trans_le (hx.trans hhi)⟩, fun hcovers => not_le.mpr ht.2 hcovers.1, ?_⟩
          intro y hy hcovers
          exact not_le.mpr ht.2 ((h.start_le (List.mem_cons_of_mem _ hy)).trans hcovers.1)
        · cases hg
      · exact ⟨⟨hlo, hlt⟩, fun hcovers => not_lt.mpr hfinish hcovers.2, hrest⟩
    · rintro ⟨⟨hlo, hlt⟩, hnot, hrest⟩
      rcases lt_or_ge t (start x) with hbefore | hafter
      · refine Or.inl ⟨(lo, start x), ?_, hlo, hbefore⟩
        rw [if_pos (hlo.trans_lt hbefore)]
        exact List.mem_singleton_self _
      · exact Or.inr ⟨⟨⟨hlo, not_lt.mp fun hfinish => hnot ⟨hafter, hfinish⟩⟩, hlt⟩, hrest⟩

end DayMend.Base
