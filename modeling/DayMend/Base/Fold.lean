import Mathlib.Data.List.Infix
import Mathlib.Data.List.Induction
import Mathlib.Order.Lattice

/-!
# Runs of calls

A run is a list of calls, folded from an initial state. What holds at the beginning and
is kept by every call holds after every run (`inv_foldl`). If moreover a property is kept
by a call exactly under a condition on the state before it, then it holds throughout a
run exactly if every call of the run meets its condition (`forall_prefix_iff`). A fold
that takes whatever is better than the best so far ends with a best one (`foldl_best`).
-/

namespace DayMend.Base

variable {σ γ : Type} {step : σ → γ → σ} {init : σ} (Inv Good : σ → Prop) {Ok : σ → γ → Prop}

/-- What every call keeps holds after every run. -/
theorem inv_foldl (hinit : Inv init) (hstep : ∀ s call, Inv s → Inv (step s call)) (calls : List γ) :
    Inv (calls.foldl step init) := by
  induction calls generalizing init with
  | nil => exact hinit
  | cons call calls ih => exact ih (hstep init call hinit)

/-- **What a call keeps exactly under a condition holds throughout a run exactly if every call meets it.** -/
theorem forall_prefix_iff (hinit : Inv init) (hstep : ∀ s call, Inv s → Inv (step s call)) (hgood : Good init)
    (hiff : ∀ s call, Inv s → Good s → (Good (step s call) ↔ Ok s call)) (calls : List γ) :
    (∀ run, run <+: calls → Good (run.foldl step init)) ↔
      ∀ run call, run ++ [call] <+: calls → Ok (run.foldl step init) call := by
  have hfold : ∀ run call, (run ++ [call]).foldl step init = step (run.foldl step init) call := by
    intro run call
    rw [List.foldl_append, List.foldl_cons, List.foldl_nil]
  constructor
  · intro h run call hrun
    have hnext := h _ hrun
    rw [hfold] at hnext
    exact (hiff _ call (inv_foldl Inv hinit hstep run) (h run ((List.prefix_append run [call]).trans hrun))).mp hnext
  · intro h run
    induction run using List.reverseRecOn with
    | nil => exact fun _ => hgood
    | append_singleton run call ih =>
      intro hrun
      rw [hfold]
      have hgood := ih ((List.prefix_append run [call]).trans hrun)
      exact (hiff _ call (inv_foldl Inv hinit hstep run) hgood).mpr (h run call hrun)

/-- **The best of a list**, by a key of which less is better, is as good as all of it, and one of it or the first. -/
theorem foldl_best {ι β κ : Type} [LinearOrder κ] (key : β → κ) (value : ι → β) (l : List ι) : ∀ first : β,
    key (l.foldl (fun best x => if key (value x) < key best then value x else best) first) ≤ key first ∧
      (∀ x ∈ l, key (l.foldl (fun best x => if key (value x) < key best then value x else best) first) ≤
        key (value x)) ∧
      (l.foldl (fun best x => if key (value x) < key best then value x else best) first = first ∨
        ∃ x ∈ l, l.foldl (fun best x => if key (value x) < key best then value x else best) first = value x) := by
  induction l with
  | nil => exact fun first => ⟨le_rfl, by simp, Or.inl rfl⟩
  | cons x l ih =>
    intro first
    rw [List.foldl_cons]
    by_cases hlt : key (value x) < key first
    · rw [if_pos hlt]
      obtain ⟨hle, hall, hone⟩ := ih (value x)
      refine ⟨hle.trans hlt.le, List.forall_mem_cons.mpr ⟨hle, hall⟩, Or.inr ?_⟩
      rcases hone with hone | ⟨y, hy, hone⟩
      · exact ⟨x, List.mem_cons_self, hone⟩
      · exact ⟨y, List.mem_cons_of_mem _ hy, hone⟩
    · rw [if_neg hlt]
      obtain ⟨hle, hall, hone⟩ := ih first
      refine ⟨hle, List.forall_mem_cons.mpr ⟨hle.trans (not_lt.mp hlt), hall⟩, hone.imp_right ?_⟩
      rintro ⟨y, hy, hone⟩
      exact ⟨y, List.mem_cons_of_mem _ hy, hone⟩

end DayMend.Base
