import DayMend.Base.Alone
import Mathlib.Data.List.Range

/-!
# Programs with an oracle

An oracle answers a program's questions from a state of its own. A program that runs alone
with it comes to one result (`Prog.runWith`), which is a way to end alone (`ends_runWith`),
and how programs are composed is said once (`runWith_bind_ok`, `runWith_bind_error`).

A session that makes tries until one succeeds, or none is left, makes a number of them that
depends on which succeed only (`triesFrom`): all but the last one fail, and the last one
succeeds unless none is left (`TriedFrom`).
-/

namespace DayMend.Base

variable {κ σ ε Q S : Type} {A : Q → Type} {α β : Type} [Versioned κ σ] [DecidableEq κ]
  (answer : (q : Q) → S → A q × S)

/-- **Running alone with an oracle**: the result, the log and the oracle's state at the end. -/
def Prog.runWith : Prog κ σ ε A α → List σ → S → Except ε α × List σ × S
  | .ret a, l, s => (.ok a, l, s)
  | .raise e, l, s => (.error e, l, s)
  | .get k next, l, s => (next (current l k)).runWith l s
  | .save c e next, l, s =>
    if Accepts l c e then (next (some (stored c e))).runWith (stored c e :: l) s else (next none).runWith l s
  | .ask q next, l, s => (next (answer q s).1).runWith l (answer q s).2

variable {answer} {p : Prog κ σ ε A α} {f : α → Prog κ σ ε A β} {l l' : List σ} {s s' : S}

/-- What a program comes to with an oracle is a way to end alone. -/
theorem ends_runWith {env : (q : Q) → A q → Prop} (henv : ∀ q s, env q (answer q s).1) :
    p.Ends env l (p.runWith answer l s).2.1 (p.runWith answer l s).1 := by
  induction p generalizing l s with
  | ret a => exact ⟨rfl, rfl⟩
  | raise e => exact ⟨rfl, rfl⟩
  | get k next ih => exact ih _
  | save c e next ih =>
    simp only [Prog.Ends, Prog.runWith]
    split
    · exact ih _
    · exact ih _
  | ask q next ih => exact ⟨_, henv q s, ih _⟩

theorem runWith_bind : (p >>= f).runWith answer l s =
    match p.runWith answer l s with
    | (.ok a, l', s') => (f a).runWith answer l' s'
    | (.error e, l', s') => (.error e, l', s') := by
  change (p.bind f).runWith answer l s = _
  induction p generalizing l s with
  | ret a => rfl
  | raise e => rfl
  | get k next ih => exact ih _
  | save c e next ih =>
    simp only [Prog.bind, Prog.runWith]
    split
    · exact ih _
    · exact ih _
  | ask q next ih => exact ih _

/-- The second program goes on from the result of the first. -/
theorem runWith_bind_ok {a : α} (h : p.runWith answer l s = (.ok a, l', s')) :
    (p >>= f).runWith answer l s = (f a).runWith answer l' s' := by
  rw [runWith_bind, h]

/-- Where the first fails, it is not run. -/
theorem runWith_bind_error {e : ε} (h : p.runWith answer l s = (.error e, l', s')) :
    (p >>= f).runWith answer l s = (.error e, l', s') := by
  rw [runWith_bind, h]

theorem runWith_ite {c : Prop} [Decidable c] {q : Prog κ σ ε A α} :
    (if c then p else q).runWith answer l s = if c then p.runWith answer l s else q.runWith answer l s := by
  split <;> rfl

theorem runWith_ofExcept (x : Except ε α) : (Prog.ofExcept x : Prog κ σ ε A α).runWith answer l s = (x, l, s) := by
  cases x <;> rfl

/-! ### Tries -/

/-- How many tries are made from the `n`th on, when `remaining` may follow it. -/
def triesFrom (succeeds : ℕ → Bool) : ℕ → ℕ → ℕ
  | 0, _ => 1
  | remaining + 1, n => if succeeds n then 1 else triesFrom succeeds remaining (n + 1) + 1

/-- From the `n`th on, `count` tries are made of the `limit` that are allowed: all but the last fail, and the last one
succeeds or is the last that is allowed. -/
structure TriedFrom (succeeds : ℕ → Bool) (limit n count : ℕ) : Prop where
  pos : 1 ≤ count
  le_limit : count ≤ limit
  fails : ∀ i, i + 1 < count → succeeds (n + i) = false
  ends : count = limit ∨ succeeds (n + (count - 1)) = true

/-- **How many tries are made.** -/
theorem triedFrom_triesFrom (succeeds : ℕ → Bool) (remaining : ℕ) :
    ∀ n, TriedFrom succeeds (remaining + 1) n (triesFrom succeeds remaining n) := by
  induction remaining with
  | zero => exact fun n => ⟨le_rfl, le_rfl, fun i hi => absurd hi (by simp [triesFrom]), Or.inl rfl⟩
  | succ remaining ih =>
    intro n
    cases hn : succeeds n with
    | true =>
      rw [triesFrom, if_pos hn]
      exact ⟨le_rfl, Nat.le_add_left .., fun i hi => absurd hi (by omega), Or.inr hn⟩
    | false =>
      obtain ⟨hpos, hle, hfails, hends⟩ := ih (n + 1)
      rw [triesFrom, if_neg (by simp [hn])]
      refine ⟨Nat.le_add_left .., Nat.succ_le_succ hle, fun i hi => ?_, hends.imp (congrArg (· + 1)) fun hlast => ?_⟩
      · cases i with
        | zero => exact hn
        | succ i =>
          have hnext := hfails i (by omega)
          rwa [Nat.add_assoc, Nat.add_comm 1] at hnext
      · rwa [Nat.add_assoc, Nat.add_sub_of_le (by omega)] at hlast

end DayMend.Base
