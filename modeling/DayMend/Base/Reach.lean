import Mathlib.Data.List.Chain

/-!
# Reaching states along edges

The states that can be reached from given ones along a finite list of edges, computed
by passes over the edges until one adds nothing (`saturate`). A pass that is not the
last reaches the target of one more edge, so one pass more than there are edges is
enough (`loop_saturate`), no edge leads out of what has been reached then
(`closed_saturate`), and it is exactly what the edges lead to (`mem_saturate_iff`).
-/

namespace DayMend.Base

variable {S : Type} [DecidableEq S] {edges : List (S × S)} {states : List S}

/-- One pass over the edges: an edge from a state that has been reached reaches its target. -/
def expand (edges : List (S × S)) (states : List S) : List S :=
  edges.foldl (fun reached e => if e.1 ∈ reached ∧ e.2 ∉ reached then e.2 :: reached else reached) states

/-- Passes, until one reaches nothing new; `fuel` bounds their number. -/
def saturate (pass : List S → List S) : ℕ → List S → List S
  | 0, states => states
  | fuel + 1, states =>
    let reached := pass states
    if reached.length = states.length then states else saturate pass fuel reached

omit [DecidableEq S] in
/-- No edge leads out of the states. -/
def Closed (edges : List (S × S)) (states : List S) : Prop := ∀ e ∈ edges, e.1 ∈ states → e.2 ∈ states

/-! ### One pass -/

theorem expand_cons (e : S × S) (edges : List (S × S)) (states : List S) :
    expand (e :: edges) states =
      expand edges (if e.1 ∈ states ∧ e.2 ∉ states then e.2 :: states else states) := rfl

/-- A pass puts new states in front of the old ones. -/
theorem suffix_expand : states <:+ expand edges states := by
  induction edges generalizing states with
  | nil => exact List.suffix_rfl
  | cons e edges ih =>
    rw [expand_cons]
    split
    · exact (List.suffix_cons e.2 states).trans ih
    · exact ih

theorem mem_expand {e : S × S} (he : e ∈ edges) (hstart : e.1 ∈ states) : e.2 ∈ expand edges states := by
  induction edges generalizing states with
  | nil => cases he
  | cons e' edges ih =>
    rw [expand_cons]
    rcases List.mem_cons.mp he with rfl | he
    · apply suffix_expand.subset
      split
      · exact List.mem_cons_self ..
      next hnot =>
        by_contra hmissing
        exact hnot ⟨hstart, hmissing⟩
    · refine ih he ?_
      split
      · exact List.mem_cons_of_mem _ hstart
      · exact hstart

theorem expand_of_closed (h : Closed edges states) : expand edges states = states := by
  induction edges with
  | nil => rfl
  | cons e edges ih =>
    obtain ⟨he, hedges⟩ := List.forall_mem_cons.mp h
    rw [expand_cons, if_neg (fun hnew => hnew.2 (he hnew.1))]
    exact ih hedges

/-- A pass that adds nothing shows that no edge leads out. -/
theorem closed_of_length_eq (h : (expand edges states).length = states.length) : Closed edges states := by
  intro e he hstart
  rw [suffix_expand.eq_of_length h.symm]
  exact mem_expand he hstart

/-! ### The loop -/

/-- `while changed`: passes until one changes nothing. -/
inductive Loop (pass : List S → List S) : List S → List S → Prop where
  /-- A pass changes nothing: the loop ends. -/
  | done {states : List S} : pass states = states → Loop pass states states
  /-- A pass changes something: there is another one. -/
  | again {states final : List S} : pass states ≠ states → Loop pass (pass states) final → Loop pass states final

omit [DecidableEq S] in
/-- The loop ends where a pass changes nothing. -/
theorem Loop.pass_eq {pass : List S → List S} {final : List S} (h : Loop pass states final) : pass final = final := by
  induction h with
  | done hdone => exact hdone
  | again _ _ ih => exact ih

/-! ### All passes -/

/-- How many edges lead to states that have not been reached. -/
def missing (edges : List (S × S)) (states : List S) : ℕ := (edges.filter fun e => e.2 ∉ states).length

/-- A pass that adds something reaches the target of one more edge. -/
theorem missing_expand_lt (h : ¬ Closed edges states) : missing edges (expand edges states) < missing edges states := by
  simp only [Closed, not_forall] at h
  obtain ⟨e, he, hstart, hend⟩ := h
  have hfilter : edges.filter (fun e => e.2 ∉ expand edges states) =
      (edges.filter fun e => e.2 ∉ states).filter fun e => e.2 ∉ expand edges states := by
    rw [List.filter_filter]
    refine List.filter_congr fun x _ => ?_
    have hsubset : x.2 ∈ states → x.2 ∈ expand edges states := fun hx => suffix_expand.subset hx
    by_cases hx : x.2 ∈ states
    · simp [hx, hsubset hx]
    · simp [hx]
  rw [missing, hfilter, missing, List.length_filter_lt_length_iff_exists]
  exact ⟨e, List.mem_filter.mpr ⟨he, by simpa using hend⟩, by simpa using mem_expand he hstart⟩

theorem subset_saturate {fuel : ℕ} : states ⊆ saturate (expand edges) fuel states := by
  induction fuel generalizing states with
  | zero => exact fun _ h => h
  | succ fuel ih =>
    rw [saturate]
    split
    · exact fun _ h => h
    · exact fun s hs => ih (suffix_expand.subset hs)

/-- With more passes than there are edges to follow, the loop ends. -/
theorem loop_saturate_of_missing {fuel : ℕ} (h : missing edges states < fuel) :
    Loop (expand edges) states (saturate (expand edges) fuel states) := by
  induction fuel generalizing states with
  | zero => cases h
  | succ fuel ih =>
    rw [saturate]
    split
    next hlength => exact Loop.done (suffix_expand.eq_of_length hlength.symm).symm
    next hlength =>
      have hopen : ¬ Closed edges states := fun hclosed => hlength (congrArg List.length (expand_of_closed hclosed))
      refine Loop.again (fun hsame => hlength (congrArg List.length hsame)) (ih ?_)
      exact lt_of_lt_of_le (missing_expand_lt hopen) (Nat.le_of_lt_succ h)

/-- **The loop over the passes ends**: one pass more than there are edges is enough. -/
theorem loop_saturate : Loop (expand edges) states (saturate (expand edges) (edges.length + 1) states) :=
  loop_saturate_of_missing (Nat.lt_succ_of_le (List.length_filter_le ..))

/-- Where it ends no edge leads out. -/
theorem closed_saturate : Closed edges (saturate (expand edges) (edges.length + 1) states) :=
  closed_of_length_eq (congrArg List.length loop_saturate.pass_eq)

/-! ### Walks -/

omit [DecidableEq S] in
/-- A walk along the edges. -/
def IsWalk (edges : List (S × S)) (walk : List (S × S)) : Prop :=
  (∀ e ∈ walk, e ∈ edges) ∧ walk.IsChain fun a b => a.2 = b.1

omit [DecidableEq S] in
/-- **A walk that begins among states from which no edge leads out** stays there. -/
theorem IsWalk.mem_of_closed {walk : List (S × S)} (h : IsWalk edges walk) (hclosed : Closed edges states)
    (hhead : ∀ e ∈ walk.head?, e.1 ∈ states) : ∀ e ∈ walk, e.1 ∈ states ∧ e.2 ∈ states := by
  induction walk with
  | nil => simp
  | cons e walk ih =>
    obtain ⟨hmem, hchain⟩ := h
    obtain ⟨he, hwalk⟩ := List.forall_mem_cons.mp hmem
    have hstart : e.1 ∈ states := hhead e rfl
    have hend := hclosed e he hstart
    refine List.forall_mem_cons.mpr ⟨⟨hstart, hend⟩, ih ⟨hwalk, hchain.tail⟩ fun next hnext => ?_⟩
    rw [← hchain.rel_head? hnext]
    exact hend

omit [DecidableEq S] in
/-- A walk backwards. -/
theorem IsWalk.reverse {walk : List (S × S)} (h : IsWalk edges walk) :
    IsWalk (edges.map Prod.swap) (walk.reverse.map Prod.swap) := by
  refine ⟨fun e he => ?_, ?_⟩
  · obtain ⟨e', he', rfl⟩ := List.mem_map.mp he
    exact List.mem_map_of_mem (h.1 e' (List.mem_reverse.mp he'))
  · rw [List.isChain_map, List.isChain_reverse]
    exact h.2.imp fun a b hab => hab.symm

/-! ### What is reached -/

section Leads

variable {E : Type} (source target : E → S)

omit [DecidableEq S] in
/-- Edges one after the other, from a state to another. -/
def Leads (edges : List E) : S → List E → S → Prop
  | a, [], b => a = b
  | a, e :: walk, b => e ∈ edges ∧ source e = a ∧ Leads edges (target e) walk b

variable {source target} {edges : List E} {walk walk' : List E} {a b c : S}

omit [DecidableEq S] in
theorem leads_append : Leads source target edges a (walk ++ walk') c ↔
    ∃ b, Leads source target edges a walk b ∧ Leads source target edges b walk' c := by
  induction walk generalizing a with
  | nil => simp [Leads]
  | cons e walk ih =>
    rw [List.cons_append, Leads, ih]
    constructor
    · rintro ⟨he, ha, b, h, h'⟩
      exact ⟨b, ⟨he, ha, h⟩, h'⟩
    · rintro ⟨b, ⟨he, ha, h⟩, h'⟩
      exact ⟨he, ha, b, h, h'⟩

omit [DecidableEq S] in
theorem Leads.mem (h : Leads source target edges a walk b) : ∀ e ∈ walk, e ∈ edges := by
  induction walk generalizing a with
  | nil => simp
  | cons e walk ih => exact List.forall_mem_cons.mpr ⟨h.1, ih h.2.2⟩

omit [DecidableEq S] in
/-- The conditions on a walk, each on its own. -/
theorem leads_cons_iff {e : E} :
    Leads source target edges a (e :: walk) b ↔
      (∀ e' ∈ e :: walk, e' ∈ edges) ∧ (e :: walk).IsChain (fun previous next => target previous = source next) ∧
        (e :: walk).head?.map source = some a ∧ (e :: walk).getLast?.map target = some b := by
  induction walk generalizing a e with
  | nil => simp [Leads]
  | cons next walk ih =>
    rw [Leads, ih, List.isChain_cons_cons, List.getLast?_cons_cons]
    simp only [List.head?_cons, Option.map_some, Option.some.injEq]
    constructor
    · rintro ⟨he, hstart, hmem, hchain, hnext, hlast⟩
      exact ⟨List.forall_mem_cons.mpr ⟨he, hmem⟩, ⟨hnext.symm, hchain⟩, hstart, hlast⟩
    · rintro ⟨hmem, ⟨hnext, hchain⟩, hstart, hlast⟩
      obtain ⟨he, hrest⟩ := List.forall_mem_cons.mp hmem
      exact ⟨he, hstart, hrest, hchain, hnext.symm, hlast⟩

omit [DecidableEq S] in
/-- The edges of a walk may be taken from another list. -/
theorem Leads.of_mem {edges' : List E} (h : Leads source target edges a walk b) (hmem : ∀ e ∈ walk, e ∈ edges') :
    Leads source target edges' a walk b := by
  induction walk generalizing a with
  | nil => exact h
  | cons e walk ih =>
    obtain ⟨he, hwalk⟩ := List.forall_mem_cons.mp hmem
    exact ⟨he, h.2.1, ih h.2.2 hwalk⟩

omit [DecidableEq S] in
/-- The way back. -/
theorem Leads.reverse (h : Leads source target edges a walk b) : Leads target source edges b walk.reverse a := by
  induction walk generalizing a with
  | nil => exact h.symm
  | cons e walk ih =>
    rw [List.reverse_cons, leads_append]
    exact ⟨target e, ih h.2.2, h.1, rfl, h.2.1⟩

omit [DecidableEq S] in
/-- A walk that begins among states from which no edge leads out ends there. -/
theorem Leads.mem_of_closed {states : List S} (h : Leads source target edges a walk b)
    (hclosed : Closed (edges.map fun e => (source e, target e)) states) (ha : a ∈ states) : b ∈ states := by
  induction walk generalizing a with
  | nil => exact h ▸ ha
  | cons e walk ih =>
    obtain ⟨he, rfl, hwalk⟩ := h
    exact ih hwalk (hclosed _ (List.mem_map_of_mem he) ha)

/-- A pass reaches only what edges lead to. -/
theorem exists_leads_of_mem_expand {passed : List E} {states : List S} (hpassed : ∀ e ∈ passed, e ∈ edges)
    (hb : b ∈ expand (passed.map fun e => (source e, target e)) states) :
    ∃ a ∈ states, ∃ walk, Leads source target edges a walk b := by
  induction passed generalizing states with
  | nil => exact ⟨b, hb, [], rfl⟩
  | cons e passed ih =>
    obtain ⟨he, hrest⟩ := List.forall_mem_cons.mp hpassed
    rw [List.map_cons, expand_cons] at hb
    obtain ⟨a, ha, walk, hwalk⟩ := ih hrest hb
    split at ha
    next hnew =>
      rcases List.mem_cons.mp ha with rfl | ha
      · exact ⟨source e, hnew.1, e :: walk, he, rfl, hwalk⟩
      · exact ⟨a, ha, walk, hwalk⟩
    next => exact ⟨a, ha, walk, hwalk⟩

theorem exists_leads_of_mem_saturate {fuel : ℕ} {states : List S}
    (hb : b ∈ saturate (expand (edges.map fun e => (source e, target e))) fuel states) :
    ∃ a ∈ states, ∃ walk, Leads source target edges a walk b := by
  induction fuel generalizing states with
  | zero => exact ⟨b, hb, [], rfl⟩
  | succ fuel ih =>
    rw [saturate] at hb
    split at hb
    next => exact ⟨b, hb, [], rfl⟩
    next =>
      obtain ⟨m, hm, walk, hwalk⟩ := ih hb
      obtain ⟨a, ha, walk₀, hwalk₀⟩ := exists_leads_of_mem_expand (fun _ he => he) hm
      exact ⟨a, ha, walk₀ ++ walk, leads_append.mpr ⟨m, hwalk₀, hwalk⟩⟩

theorem closed_length_map_saturate (source target : E → S) (edges : List E) (states : List S) :
    Closed (edges.map fun e => (source e, target e))
      (saturate (expand (edges.map fun e => (source e, target e))) (edges.length + 1) states) := by
  rw [← List.length_map fun e => (source e, target e)]
  exact closed_saturate

/-- **Exactly what edges lead to is reached.** -/
theorem mem_saturate_iff {states : List S} :
    b ∈ saturate (expand (edges.map fun e => (source e, target e))) (edges.length + 1) states ↔
      ∃ a ∈ states, ∃ walk, Leads source target edges a walk b := by
  refine ⟨exists_leads_of_mem_saturate, ?_⟩
  rintro ⟨a, ha, walk, hwalk⟩
  exact hwalk.mem_of_closed (closed_length_map_saturate source target edges states) (subset_saturate ha)

end Leads

end DayMend.Base
