import Mathlib.Data.List.Chain
import Mathlib.Data.List.Sort
import Mathlib.Order.Interval.Set.Basic

/-!
# Spans of time

A span is a nonempty half-open interval `[start, end_)` of a linear order. The
module has the relations between spans (`Overlaps`, `Contains`), their meaning on
points, taking one span out of another (`Span.sub`), and the covering lemma: a
list of spans in which each begins no later than the previous one ends leaves no
point out between the first start and the last end (`Span.exists_mem_of_isChain`).
-/

namespace DayMend.Base

/-- A nonempty half-open interval. -/
@[ext]
structure Span (α : Type) [LT α] where
  /-- The first point. -/
  start : α
  /-- The first point after. -/
  end_ : α
  /-- The end follows the start. -/
  start_lt_end : start < end_
  deriving DecidableEq

namespace Span

variable {α : Type} [LinearOrder α]

/-- The points of a span. -/
def points (w : Span α) : Set α := Set.Ico w.start w.end_

instance : Membership α (Span α) := ⟨fun w t => t ∈ w.points⟩

theorem start_mem (w : Span α) : w.start ∈ w := ⟨le_rfl, w.start_lt_end⟩

/-- Two spans with a point in common, as one compares their ends. -/
def Overlaps (v w : Span α) : Prop := v.start < w.end_ ∧ w.start < v.end_

instance (v w : Span α) : Decidable (v.Overlaps w) := inferInstanceAs (Decidable (_ ∧ _))

/-- `v` reaches from before `w` begins to after `w` ends. -/
def Contains (v w : Span α) : Prop := v.start ≤ w.start ∧ w.end_ ≤ v.end_

instance (v w : Span α) : Decidable (v.Contains w) := inferInstanceAs (Decidable (_ ∧ _))

theorem overlaps_comm {v w : Span α} : v.Overlaps w ↔ w.Overlaps v := and_comm

theorem overlaps_self (w : Span α) : w.Overlaps w := ⟨w.start_lt_end, w.start_lt_end⟩

theorem overlaps_iff_exists_mem {v w : Span α} : v.Overlaps w ↔ ∃ t, t ∈ v ∧ t ∈ w := by
  constructor
  · rintro ⟨h₁, h₂⟩
    exact ⟨max v.start w.start, ⟨le_max_left .., max_lt v.start_lt_end h₂⟩,
      ⟨le_max_right .., max_lt h₁ w.start_lt_end⟩⟩
  · rintro ⟨t, hv, hw⟩
    exact ⟨hv.1.trans_lt hw.2, hw.1.trans_lt hv.2⟩

theorem Overlaps.of_contains {u v w : Span α} (h : w.Overlaps u) (hv : v.Contains w) : v.Overlaps u :=
  ⟨hv.1.trans_lt h.1, h.2.trans_le hv.2⟩

/-- `u` is what `v` and `w` have in common. -/
def Common (v w u : Span α) : Prop := u.start = max v.start w.start ∧ u.end_ = min v.end_ w.end_

theorem Common.contains {u v w : Span α} (h : v.Common w u) : v.Contains u ∧ w.Contains u :=
  ⟨⟨h.1 ▸ le_max_left .., h.2 ▸ min_le_left ..⟩, ⟨h.1 ▸ le_max_right .., h.2 ▸ min_le_right ..⟩⟩

theorem Contains.refl (w : Span α) : w.Contains w := ⟨le_rfl, le_rfl⟩

theorem Contains.trans {u v w : Span α} (h₁ : u.Contains v) (h₂ : v.Contains w) : u.Contains w :=
  ⟨h₁.1.trans h₂.1, h₂.2.trans h₁.2⟩

/-- The order by start, and by end among equal starts. -/
def LexLe (v w : Span α) : Prop := v.start < w.start ∨ v.start = w.start ∧ v.end_ ≤ w.end_

instance (v w : Span α) : Decidable (v.LexLe w) := inferInstanceAs (Decidable (_ ∨ _ ∧ _))

theorem LexLe.start_le {v w : Span α} (h : v.LexLe w) : v.start ≤ w.start := h.elim le_of_lt fun h => h.1.le

theorem lexLe_total (v w : Span α) : v.LexLe w ∨ w.LexLe v := by
  rcases lt_trichotomy v.start w.start with h | h | h
  · exact Or.inl (Or.inl h)
  · rcases le_total v.end_ w.end_ with he | he
    · exact Or.inl (Or.inr ⟨h, he⟩)
    · exact Or.inr (Or.inr ⟨h.symm, he⟩)
  · exact Or.inr (Or.inl h)

theorem LexLe.trans {u v w : Span α} (h₁ : u.LexLe v) (h₂ : v.LexLe w) : u.LexLe w := by
  rcases h₁ with h₁ | ⟨h₁, e₁⟩
  · exact Or.inl (h₁.trans_le h₂.start_le)
  · rcases h₂ with h₂ | ⟨h₂, e₂⟩
    · exact Or.inl (h₁ ▸ h₂)
    · exact Or.inr ⟨h₁.trans h₂, e₁.trans e₂⟩

theorem LexLe.antisymm {v w : Span α} (h₁ : v.LexLe w) (h₂ : w.LexLe v) : v = w := by
  rcases h₁ with h₁ | ⟨hs, he₁⟩
  · exact absurd h₂.start_le (not_le.mpr h₁)
  · rcases h₂ with h₂ | ⟨-, he₂⟩
    · exact absurd hs h₂.ne'
    · exact Span.ext hs (le_antisymm he₁ he₂)

/-! ### Taking a span out of another -/

/-- What `w` leaves of `v`: the part before `w` and the part after `w`. -/
def sub (v w : Span α) : List (Span α) :=
  if v.Overlaps w then
    (if h : v.start < w.start then [⟨v.start, w.start, h⟩] else []) ++
      (if h : w.end_ < v.end_ then [⟨w.end_, v.end_, h⟩] else [])
  else [v]

/-- What is left of `v` lies in `v`. -/
theorem contains_of_mem_sub {u v w : Span α} (h : u ∈ v.sub w) : v.Contains u := by
  unfold sub at h
  split at h
  next ho =>
    rcases List.mem_append.mp h with h | h <;> split at h <;> simp only [List.mem_singleton, List.not_mem_nil] at h
    · subst h
      exact ⟨le_rfl, ho.2.le⟩
    · subst h
      exact ⟨ho.1.le, le_rfl⟩
  next => exact List.mem_singleton.mp h ▸ Contains.refl v

/-- What is left of `v` does not meet `w`. -/
theorem not_overlaps_of_mem_sub {u v w : Span α} (h : u ∈ v.sub w) : ¬ u.Overlaps w := by
  unfold sub at h
  split at h
  next =>
    rcases List.mem_append.mp h with h | h <;> split at h <;> simp only [List.mem_singleton, List.not_mem_nil] at h
    · subst h
      exact fun hu => lt_irrefl _ hu.2
    · subst h
      exact fun hu => lt_irrefl _ hu.1
  next ho => exact List.mem_singleton.mp h ▸ ho

/-- What lies in `v` and does not meet `w` lies in a part of what `w` leaves of `v`. -/
theorem exists_contains_sub {u v w : Span α} (hv : v.Contains u) (hw : ¬ u.Overlaps w) :
    ∃ p ∈ v.sub w, p.Contains u := by
  unfold sub
  split
  next ho =>
    -- `u` lies before `w` or after it
    rcases not_and_or.mp hw with hafter | hbefore
    · have hend : w.end_ ≤ u.start := not_lt.mp hafter
      have hlt : w.end_ < v.end_ := hend.trans_lt (u.start_lt_end.trans_le hv.2)
      refine ⟨⟨w.end_, v.end_, hlt⟩, List.mem_append_right _ ?_, hend, hv.2⟩
      rw [dif_pos hlt]
      exact List.mem_singleton_self _
    · have hstart : u.end_ ≤ w.start := not_lt.mp hbefore
      have hlt : v.start < w.start := hv.1.trans_lt (u.start_lt_end.trans_le hstart)
      refine ⟨⟨v.start, w.start, hlt⟩, List.mem_append_left _ ?_, hv.1, hstart⟩
      rw [dif_pos hlt]
      exact List.mem_singleton_self _
  next => exact ⟨v, List.mem_singleton_self v, hv⟩

/-- The points of some spans. -/
def pointsOf (ws : List (Span α)) : Set α := {t | ∃ w ∈ ws, t ∈ w}

theorem mem_pointsOf {ws : List (Span α)} {t : α} : t ∈ pointsOf ws ↔ ∃ w ∈ ws, t ∈ w := Iff.rfl

@[simp] theorem pointsOf_nil : pointsOf ([] : List (Span α)) = ∅ := by
  ext t
  simp [pointsOf]

theorem pointsOf_cons {w : Span α} {ws : List (Span α)} : pointsOf (w :: ws) = w.points ∪ pointsOf ws := by
  ext t
  simp only [mem_pointsOf, List.exists_mem_cons_iff]
  rfl

theorem pointsOf_congr {ws ws' : List (Span α)} (h : ∀ w, w ∈ ws ↔ w ∈ ws') : pointsOf ws = pointsOf ws' := by
  simp only [pointsOf, h]

/-- Taking `w` out of `v` leaves the points of `v` outside `w`. -/
theorem pointsOf_sub (v w : Span α) : pointsOf (v.sub w) = v.points \ w.points := by
  ext t
  constructor
  · rintro ⟨u, hu, ht⟩
    have hv := contains_of_mem_sub hu
    refine ⟨⟨hv.1.trans ht.1, ht.2.trans_le hv.2⟩, fun hw => ?_⟩
    exact not_overlaps_of_mem_sub hu (overlaps_iff_exists_mem.mpr ⟨t, ht, hw⟩)
  · rintro ⟨hv, hw⟩
    unfold sub
    split
    next ho =>
      -- outside `w` means before it or after it
      rcases lt_or_ge t w.start with hbefore | hafter
      · refine ⟨⟨v.start, w.start, hv.1.trans_lt hbefore⟩, ?_, hv.1, hbefore⟩
        rw [dif_pos (hv.1.trans_lt hbefore)]
        exact List.mem_append_left _ (List.mem_singleton_self _)
      · have hend : w.end_ ≤ t := not_lt.mp fun h => hw ⟨hafter, h⟩
        refine ⟨⟨w.end_, v.end_, hend.trans_lt hv.2⟩, ?_, hend, hv.2⟩
        rw [dif_pos (hend.trans_lt hv.2)]
        exact List.mem_append_right _ (List.mem_singleton_self _)
    next => exact ⟨v, List.mem_singleton_self v, hv⟩

theorem pointsOf_flatMap_sub (ws : List (Span α)) (w : Span α) :
    pointsOf (ws.flatMap (·.sub w)) = pointsOf ws \ w.points := by
  ext t
  constructor
  · rintro ⟨u, hu, ht⟩
    obtain ⟨v, hv, hu⟩ := List.mem_flatMap.mp hu
    have h : t ∈ v.points \ w.points := pointsOf_sub v w ▸ ⟨u, hu, ht⟩
    exact ⟨⟨v, hv, h.1⟩, h.2⟩
  · rintro ⟨⟨v, hv, ht⟩, hw⟩
    have h : t ∈ pointsOf (v.sub w) := by
      rw [pointsOf_sub]
      exact ⟨ht, hw⟩
    obtain ⟨u, hu, htu⟩ := h
    exact ⟨u, List.mem_flatMap.mpr ⟨v, hv, hu⟩, htu⟩

/-- Taking spans away one after the other leaves parts of what there was, which meet none of them. -/
theorem exists_contains_of_mem_foldl_sub {u : Span α} {blocked ws : List (Span α)}
    (h : u ∈ blocked.foldl (fun remaining block => remaining.flatMap (·.sub block)) ws) :
    ∃ w ∈ ws, w.Contains u ∧ ∀ block ∈ blocked, ¬ u.Overlaps block := by
  induction blocked generalizing ws with
  | nil => exact ⟨u, h, Contains.refl u, by simp⟩
  | cons block blocked ih =>
    obtain ⟨v, hv, hcontains, hrest⟩ := ih h
    obtain ⟨w, hw, hsub⟩ := List.mem_flatMap.mp hv
    refine ⟨w, hw, (contains_of_mem_sub hsub).trans hcontains, List.forall_mem_cons.mpr ⟨fun ho => ?_, hrest⟩⟩
    exact not_overlaps_of_mem_sub hsub (ho.of_contains hcontains)

/-- No two of the spans have a point in common. -/
def Separate (ws : List (Span α)) : Prop := ws.Pairwise fun v w => ¬ v.Overlaps w

/-- A point belongs to one of them only. -/
theorem Separate.eq_of_overlaps {ws : List (Span α)} (h : Separate ws) {v w : Span α} (hv : v ∈ ws) (hw : w ∈ ws)
    (ho : v.Overlaps w) : v = w := by
  by_contra hne
  have : Std.Symm fun v w : Span α => ¬ v.Overlaps w := ⟨fun _ _ hn ho => hn (overlaps_comm.mp ho)⟩
  exact h.forall hv hw hne ho

/-- Parts of spans that are apart are apart, if the parts of each are. -/
theorem Separate.flatMap {ws : List (Span α)} (h : Separate ws) {f : Span α → List (Span α)}
    (hparts : ∀ v ∈ ws, ∀ u ∈ f v, v.Contains u) (hseparate : ∀ v ∈ ws, Separate (f v)) :
    Separate (ws.flatMap f) := by
  refine List.pairwise_flatMap.mpr ⟨hseparate, List.Pairwise.imp_of_mem (fun hv hw hn => ?_) h⟩
  intro u hu u' hu' ho
  have hleft := ho.of_contains (hparts _ hv u hu)
  exact hn (overlaps_comm.mp ((overlaps_comm.mp hleft).of_contains (hparts _ hw u' hu')))

theorem Separate.filterMap {ws : List (Span α)} (h : Separate ws) {f : Span α → Option (Span α)}
    (hparts : ∀ v u, f v = some u → v.Contains u) : Separate (ws.filterMap f) := by
  refine List.pairwise_filterMap.mpr (h.imp fun hn => ?_)
  intro u hu u' hu' ho
  have hleft := ho.of_contains (hparts _ u hu)
  exact hn (overlaps_comm.mp ((overlaps_comm.mp hleft).of_contains (hparts _ u' hu')))

theorem separate_sub (v w : Span α) : Separate (v.sub w) := by
  unfold sub
  split
  next ho =>
    refine List.pairwise_append.mpr ⟨?_, ?_, ?_⟩
    · split <;> simp
    · split <;> simp
    · intro u hu u' hu' hmeet
      split at hu
      · split at hu'
        · obtain rfl := List.mem_singleton.mp hu
          obtain rfl := List.mem_singleton.mp hu'
          exact absurd (hmeet.2.trans w.start_lt_end) (lt_irrefl _)
        · cases hu'
      · cases hu
  next => exact List.pairwise_singleton ..

/-- Taking a span out of spans that are apart leaves spans that are apart, -/
theorem Separate.flatMap_sub {ws : List (Span α)} (h : Separate ws) (w : Span α) : Separate (ws.flatMap (·.sub w)) :=
  h.flatMap (fun _ _ _ => contains_of_mem_sub) fun v _ => separate_sub v w

/-- and so does taking out several. -/
theorem Separate.foldl_sub {blocked ws : List (Span α)} (h : Separate ws) :
    Separate (blocked.foldl (fun remaining block => remaining.flatMap (·.sub block)) ws) := by
  induction blocked generalizing ws with
  | nil => exact h
  | cons block blocked ih => exact ih (h.flatMap_sub block)

/-! ### Spans in order -/

/-- Each span ends before the next ones begin. -/
def Ascending (ws : List (Span α)) : Prop := ws.Pairwise fun v w => v.end_ ≤ w.start

theorem ascending_sub (v w : Span α) : Ascending (v.sub w) := by
  unfold sub
  split
  next ho =>
    refine List.pairwise_append.mpr ⟨?_, ?_, ?_⟩
    · split <;> simp
    · split <;> simp
    · intro u hu u' hu'
      split at hu
      · split at hu'
        · obtain rfl := List.mem_singleton.mp hu
          obtain rfl := List.mem_singleton.mp hu'
          exact w.start_lt_end.le
        · cases hu'
      · cases hu
  next => exact List.pairwise_singleton ..

/-- Taking a span out of spans in order leaves spans in order, -/
theorem Ascending.flatMap_sub {ws : List (Span α)} (h : Ascending ws) (w : Span α) :
    Ascending (ws.flatMap (·.sub w)) := by
  refine List.pairwise_flatMap.mpr ⟨fun v _ => ascending_sub v w, h.imp fun hle u hu u' hu' => ?_⟩
  exact (contains_of_mem_sub hu).2.trans (hle.trans (contains_of_mem_sub hu').1)

/-- and so does taking out several, -/
theorem Ascending.foldl_sub {blocked ws : List (Span α)} (h : Ascending ws) :
    Ascending (blocked.foldl (fun remaining block => remaining.flatMap (·.sub block)) ws) := by
  induction blocked generalizing ws with
  | nil => exact h
  | cons block blocked ih => exact ih (h.flatMap_sub block)

/-- which takes out their points. -/
theorem pointsOf_foldl_sub (blocked ws : List (Span α)) :
    pointsOf (blocked.foldl (fun remaining block => remaining.flatMap (·.sub block)) ws) =
      pointsOf ws \ pointsOf blocked := by
  induction blocked generalizing ws with
  | nil => simp
  | cons block blocked ih => rw [List.foldl_cons, ih, pointsOf_flatMap_sub, pointsOf_cons, Set.sdiff_sdiff]

/-- Sorted by start and end, spans come in one order only. -/
theorem insertionSort_lexLe_eq_of_perm {ws ws' : List (Span α)} (h : ws.Perm ws') :
    ws.insertionSort LexLe = ws'.insertionSort LexLe := by
  have : Std.Total (LexLe (α := α)) := ⟨lexLe_total⟩
  have : IsTrans (Span α) LexLe := ⟨fun _ _ _ => LexLe.trans⟩
  refine List.Perm.eq_of_pairwise (fun _ _ _ _ h h' => h.antisymm h') (List.pairwise_insertionSort _ _)
    (List.pairwise_insertionSort _ _) ?_
  exact ((List.perm_insertionSort _ ws).trans h).trans (List.perm_insertionSort _ ws').symm

/-! ### Covering -/

/-- Each span begins no later than the one before it ends. -/
def NoGap (v w : Span α) : Prop := w.start ≤ v.end_

/-- A list of spans without gaps covers everything from its first start to its last end. -/
theorem exists_mem_of_isChain {l : List (Span α)} (hl : l.IsChain NoGap) (hne : l ≠ []) {t : α}
    (hs : (l.head hne).start ≤ t) (he : t < (l.getLast hne).end_) : ∃ w ∈ l, t ∈ w := by
  induction l with
  | nil => exact absurd rfl hne
  | cons w l ih =>
    -- either `w` has the point, or it comes after `w` and so after the next start
    by_cases ht : t < w.end_
    · exact ⟨w, List.mem_cons_self .., hs, ht⟩
    cases l with
    | nil => exact absurd he ht
    | cons v l =>
      obtain ⟨hwv, hl⟩ := List.isChain_cons_cons.mp hl
      obtain ⟨u, hu, hut⟩ := ih hl (by simp) (le_trans hwv (not_lt.mp ht)) he
      exact ⟨u, List.mem_cons_of_mem _ hu, hut⟩

/-! ### One exactly after the other -/

/-- The second span begins when the first one ends. -/
def Meets (v w : Span α) : Prop := w.start = v.end_

/-- Where each span begins when the one before ends, all later ones come after it. -/
theorem pairwise_of_isChain_meets {l : List (Span α)} (hl : l.IsChain Meets) :
    l.Pairwise fun v w => v.end_ ≤ w.start := by
  have : Trans (fun v w : Span α => v.end_ ≤ w.start) (fun v w : Span α => v.end_ ≤ w.start)
      fun v w : Span α => v.end_ ≤ w.start :=
    ⟨fun {_ v _} h₁ h₂ => h₁.trans (v.start_lt_end.le.trans h₂)⟩
  exact (hl.imp fun v w (h : Meets v w) => h.ge).pairwise

/-- All of them lie between the first start and the last end. -/
theorem contains_of_isChain_meets {l : List (Span α)} (hl : l.IsChain Meets) {u : Span α}
    (hs : l.head?.map (·.start) = some u.start) (he : l.getLast?.map (·.end_) = some u.end_) :
    ∀ w ∈ l, u.Contains w := by
  have hpairwise := pairwise_of_isChain_meets hl
  intro w hw
  constructor
  · cases l with
    | nil => cases hw
    | cons v l =>
      obtain rfl | hw := List.mem_cons.mp hw
      · exact (Option.some.inj hs).ge
      · exact (Option.some.inj hs).ge.trans (v.start_lt_end.le.trans (List.rel_of_pairwise_cons hpairwise hw))
  · obtain ⟨last, hlast, hend⟩ := Option.map_eq_some_iff.mp he
    obtain ⟨before, rfl⟩ := List.getLast?_eq_some_iff.mp hlast
    rw [← hend]
    rcases List.mem_append.mp hw with hw | hw
    · have hle := (List.pairwise_append.mp hpairwise).2.2 w hw last (List.mem_singleton_self _)
      exact hle.trans last.start_lt_end.le
    · exact (List.mem_singleton.mp hw ▸ le_rfl)

end Span

/-! ### Neighbours in a list -/

variable {β : Type}

/-- Neighbours in a list, as the pairs of the list with its own tail. -/
theorem forall_mem_zip_tail_iff_isChain {R : β → β → Prop} {l : List β} :
    (∀ p ∈ l.zip l.tail, R p.1 p.2) ↔ l.IsChain R := by
  induction l with
  | nil => simp
  | cons a l ih =>
    cases l with
    | nil => simp
    | cons b l =>
      rw [List.isChain_cons_cons, ← ih]
      simp

theorem pair_infix_cons_iff {a b x : β} {l : List β} :
    [a, b] <:+: x :: l ↔ a = x ∧ l.head? = some b ∨ [a, b] <:+: l := by
  rw [List.infix_cons_iff, List.cons_prefix_cons]
  refine or_congr_left (and_congr_right fun _ => ?_)
  cases l with
  | nil => simp
  | cons y l => simp [eq_comm]

theorem mem_of_infix_pair {a b : β} {l : List β} (h : [a, b] <:+: l) : a ∈ l ∧ b ∈ l :=
  ⟨h.subset (by simp), h.subset (by simp)⟩

/-- Without repetitions there is one neighbour on the right, -/
theorem pair_infix_right_unique {a b c : β} {l : List β} (hl : l.Nodup) (h : [a, b] <:+: l) (h' : [a, c] <:+: l) :
    b = c := by
  induction l with
  | nil => simp at h
  | cons x l ih =>
    obtain ⟨hx, hl⟩ := List.nodup_cons.mp hl
    rcases pair_infix_cons_iff.mp h with ⟨rfl, hb⟩ | hb
    · rcases pair_infix_cons_iff.mp h' with ⟨-, hc⟩ | hc
      · exact Option.some.inj (hb.symm.trans hc)
      · exact absurd (mem_of_infix_pair hc).1 hx
    · rcases pair_infix_cons_iff.mp h' with ⟨rfl, -⟩ | hc
      · exact absurd (mem_of_infix_pair hb).1 hx
      · exact ih hl hb hc

/-- and one on the left. -/
theorem pair_infix_left_unique {a b c : β} {l : List β} (hl : l.Nodup) (h : [b, a] <:+: l) (h' : [c, a] <:+: l) :
    b = c := by
  refine pair_infix_right_unique (List.pairwise_reverse.mpr (hl.imp Ne.symm)) (a := a) ?_ ?_
  · exact List.reverse_infix.mpr h
  · exact List.reverse_infix.mpr h'

end DayMend.Base
