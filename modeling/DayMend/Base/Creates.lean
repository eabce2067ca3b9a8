import DayMend.Base.Interpret

/-!
# What programs create

A save at a new key creates a value, and a save that expects a version replaces one. What
a program creates can be looked at by itself (`Prog.Creates`), and added to rules that are
already known to be kept (`Rules.wp_creating`).
-/

namespace DayMend.Base

variable {κ σ ε Q : Type} {A : Q → Type} {α β : Type} [Versioned κ σ] {env : (q : Q) → A q → Prop} {P : σ → Prop}
  {p : Prog κ σ ε A α} {f : α → Prog κ σ ε A β}

/-- **Whatever a program is answered, what it creates satisfies `P`.** -/
def Prog.Creates (env : (q : Q) → A q → Prop) (P : σ → Prop) : Prog κ σ ε A α → Prop
  | .ret _ => True
  | .raise _ => True
  | .get _ next => ∀ r, (next r).Creates env P
  | .save c e next => (e = none → P c) ∧ (next (some (stored c e))).Creates env P ∧ (next none).Creates env P
  | .ask q next => ∀ a, env q a → (next a).Creates env P

namespace Prog.Creates

theorem bind (hp : p.Creates env P) (hf : ∀ a, (f a).Creates env P) : (p >>= f).Creates env P := by
  change (p.bind f).Creates env P
  induction p with
  | ret a => exact hf a
  | raise e => trivial
  | get k next ih => exact fun r => ih r (hp r)
  | save c e next ih => exact ⟨hp.1, ih _ hp.2.1, ih _ hp.2.2⟩
  | ask q next ih => exact fun a ha => ih a (hp a ha)

/-- What is only asked may be used for what is created. -/
theorem bind_of_onlyAsks (hp : p.OnlyAsks) (hf : ∀ a, p.Outcome env (.ok a) → (f a).Creates env P) :
    (p >>= f).Creates env P := by
  change (p.bind f).Creates env P
  induction p with
  | ret a => exact hf a rfl
  | raise e => trivial
  | get k next _ => exact hp.elim
  | save c e next _ => exact hp.elim
  | ask q next ih => exact fun a ha => ih a (hp a) fun b hb => hf b ⟨a, ha, hb⟩

theorem of_onlyAsks (hp : p.OnlyAsks) : p.Creates env P := by
  induction p with
  | ret a => trivial
  | raise e => trivial
  | get k next _ => exact hp.elim
  | save c e next _ => exact hp.elim
  | ask q next ih => exact fun a _ => ih a (hp a)

theorem ofExcept (x : Except ε α) : (Prog.ofExcept x : Prog κ σ ε A α).Creates env P := by
  cases x <;> trivial

theorem mapError {g : ε → ε} (hp : p.Creates env P) : (p.mapError g).Creates env P := by
  induction p with
  | ret a => trivial
  | raise e => trivial
  | get k next ih => exact fun r => ih r (hp r)
  | save c e next ih => exact ⟨hp.1, ih _ hp.2.1, ih _ hp.2.2⟩
  | ask q next ih => exact fun a ha => ih a (hp a ha)

theorem ite {c : Prop} [Decidable c] {q : Prog κ σ ε A α} (hp : p.Creates env P) (hq : q.Creates env P) :
    (if c then p else q).Creates env P := by
  split
  · exact hp
  · exact hq

end Prog.Creates

/-- The rules, with a condition on what is created. -/
def Rules.creating (R : Rules σ A) (P : σ → Prop) : Rules σ A where
  env := R.env
  init c := R.init c ∧ P c
  step := R.step
  step_mono := R.step_mono

/-- **A program that keeps the rules, and what it creates,** keeps both. -/
theorem Rules.wp_creating {R : Rules σ A} {post : Set σ → α → Prop} :
    ∀ {seen : Set σ}, R.wp p seen post → p.Creates R.env P → (R.creating P).wp p seen post := by
  induction p with
  | ret a => exact fun hp _ => hp
  | raise e => exact fun _ _ => trivial
  | get k next ih => exact fun hp hc => ⟨fun c hkey => ih _ (hp.1 c hkey) (hc _), ih _ hp.2 (hc _)⟩
  | save c e next ih =>
    refine fun hp hc => ⟨?_, ih _ hp.2.1 hc.2.1, ih _ hp.2.2 hc.2.2⟩
    cases e with
    | none => exact ⟨hp.1, hc.1 rfl⟩
    | some v => exact hp.1
  | ask q next ih => exact fun hp hc a ha => ih a (hp a ha) (hc a ha)

end DayMend.Base
