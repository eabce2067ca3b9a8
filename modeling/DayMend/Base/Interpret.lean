import DayMend.Base.Alone
import DayMend.Base.Trace

/-!
# Answering questions with programs

A program asks questions and leaves open who answers them. When a handler answers each
question by a program of its own, which may ask other questions, the two together are
a program again (`Prog.interpret`). Interpretation goes with composition
(`interpret_bind`). A handler whose own program may fail hands the failure over as an
answer (`Prog.attempt`).

What a program may come to that asks and does nothing else (`Prog.Outcome`) does not
depend on a store. How outcomes are composed is said once (`outcome_bind`); if a handler
answers what the environment of the questions allows, and fails for none, a program has
the same outcomes with it (`outcome_interpret`).
-/

namespace DayMend.Base

variable {κ σ ε ε' Q Q' : Type} {A : Q → Type} {A' : Q' → Type} {α β γ : Type}

namespace Prog

/-- **A program with a handler**: each question is answered by the handler's program, and a failure is renamed. -/
def interpret (handle : (q : Q) → Prog κ σ ε' A' (A q)) (rename : ε → ε') : Prog κ σ ε A α → Prog κ σ ε' A' α
  | ret a => ret a
  | raise e => raise (rename e)
  | get k next => get k fun r => (next r).interpret handle rename
  | save c e next => save c e fun r => (next r).interpret handle rename
  | ask q next => (handle q).bind fun a => (next a).interpret handle rename

/-- Failing is a result like others: `try`. -/
def attempt : Prog κ σ ε A α → Prog κ σ ε' A (Except ε α)
  | ret a => ret (.ok a)
  | raise e => ret (.error e)
  | get k next => get k fun r => (next r).attempt
  | save c e next => save c e fun r => (next r).attempt
  | ask q next => ask q fun r => (next r).attempt

/-- Whatever it is answered, the program neither reads nor saves. -/
def OnlyAsks : Prog κ σ ε A α → Prop
  | ret _ => True
  | raise _ => True
  | get _ _ => False
  | save _ _ _ => False
  | ask _ next => ∀ a, (next a).OnlyAsks

end Prog

/-- A computation whose result is changed goes well when it does. -/
theorem map_eq_ok {x : Except ε α} {f : α → β} {b : β} : x.map f = .ok b ↔ ∃ a, x = .ok a ∧ f a = b := by
  cases x <;> simp [Except.map]

/-! ### Composition -/

section Laws

variable {p : Prog κ σ ε A α} {f : α → Prog κ σ ε A β} {handle : (q : Q) → Prog κ σ ε' A' (A q)} {rename : ε → ε'}

theorem bind_assoc_eq {g : β → Prog κ σ ε A γ} : p >>= f >>= g = p >>= fun a => f a >>= g := by
  change (p.bind f).bind g = p.bind fun a => (f a).bind g
  induction p with
  | ret a => rfl
  | raise e => rfl
  | get k next ih => exact congrArg (Prog.get k) (funext ih)
  | save c e next ih => exact congrArg (Prog.save c e) (funext ih)
  | ask q next ih => exact congrArg (Prog.ask q) (funext ih)

/-- What follows a program's first step follows it in any case. -/
theorem bind_assoc_congr {g : β → Prog κ σ ε A γ} {h : α → Prog κ σ ε A γ} (hfg : ∀ a, f a >>= g = h a) :
    p >>= f >>= g = p >>= h := by
  rw [bind_assoc_eq]
  exact congrArg (p >>= ·) (funext hfg)

/-- To return what a program returns adds nothing. -/
theorem bind_ret_eq : p >>= Prog.ret = p := by
  change p.bind Prog.ret = p
  induction p with
  | ret a => rfl
  | raise e => rfl
  | get k next ih => exact congrArg (Prog.get k) (funext ih)
  | save c e next ih => exact congrArg (Prog.save c e) (funext ih)
  | ask q next ih => exact congrArg (Prog.ask q) (funext ih)

/-- **Interpretation goes with composition.** -/
theorem interpret_bind : (p >>= f).interpret handle rename =
    p.interpret handle rename >>= fun a => (f a).interpret handle rename := by
  change (p.bind f).interpret handle rename = _
  induction p with
  | ret a => rfl
  | raise e => rfl
  | get k next ih => exact congrArg (Prog.get k) (funext ih)
  | save c e next ih => exact congrArg (Prog.save c e) (funext ih)
  | ask q next ih =>
    change (handle q >>= fun a => ((next a).bind f).interpret handle rename) = _
    rw [funext ih]
    exact bind_assoc_eq.symm

theorem interpret_ofExcept (x : Except ε α) :
    (Prog.ofExcept x : Prog κ σ ε A α).interpret handle rename = Prog.ofExcept (x.mapError rename) := by
  cases x <;> rfl

theorem interpret_ite {c : Prop} [Decidable c] {q : Prog κ σ ε A α} :
    (if c then p else q).interpret handle rename =
      if c then p.interpret handle rename else q.interpret handle rename := by
  split <;> rfl

end Laws

/-! ### Outcomes -/

section Outcomes

variable {env : (q : Q) → A q → Prop} {env' : (q : Q') → A' q → Prop} {p : Prog κ σ ε A α} {f : α → Prog κ σ ε A β}

/-- **What a program may come to** when it asks, is answered as the environment allows, and does nothing else. -/
def Prog.Outcome (env : (q : Q) → A q → Prop) : Prog κ σ ε A α → Except ε α → Prop
  | .ret a, r => r = .ok a
  | .raise e, r => r = .error e
  | .get _ _, _ => False
  | .save _ _ _, _ => False
  | .ask q next, r => ∃ a, env q a ∧ (next a).Outcome env r

/-- The first program fails, or the second goes on from its result. -/
theorem outcome_bind {r : Except ε β} : (p >>= f).Outcome env r ↔
    (∃ a, p.Outcome env (.ok a) ∧ (f a).Outcome env r) ∨ ∃ e, p.Outcome env (.error e) ∧ r = .error e := by
  change (p.bind f).Outcome env r ↔ _
  induction p with
  | ret a => simp [Prog.bind, Prog.Outcome]
  | raise e => simp [Prog.bind, Prog.Outcome]
  | get k next _ => simp [Prog.bind, Prog.Outcome]
  | save c e next _ => simp [Prog.bind, Prog.Outcome]
  | ask q next ih =>
    simp only [Prog.bind, Prog.Outcome, ih]
    constructor
    · rintro ⟨a, ha, ⟨b, hb, hf⟩ | ⟨e, he, hr⟩⟩
      · exact Or.inl ⟨b, ⟨a, ha, hb⟩, hf⟩
      · exact Or.inr ⟨e, ⟨a, ha, he⟩, hr⟩
    · rintro (⟨b, ⟨a, ha, hb⟩, hf⟩ | ⟨e, ⟨a, ha, he⟩, hr⟩)
      · exact ⟨a, ha, Or.inl ⟨b, hb, hf⟩⟩
      · exact ⟨a, ha, Or.inr ⟨e, he, hr⟩⟩

/-- Two programs return when each of them does. -/
theorem outcome_bind_ok {b : β} : (p >>= f).Outcome env (.ok b) ↔
    ∃ a, p.Outcome env (.ok a) ∧ (f a).Outcome env (.ok b) := by
  rw [outcome_bind]
  constructor
  · rintro (h | ⟨e, -, ⟨⟩⟩)
    exact h
  · exact Or.inl

/-- Two programs fail when the first does, or the second after it. -/
theorem outcome_bind_error {e : ε} : (p >>= f).Outcome env (.error e) ↔
    p.Outcome env (.error e) ∨ ∃ a, p.Outcome env (.ok a) ∧ (f a).Outcome env (.error e) := by
  rw [outcome_bind]
  constructor
  · rintro (h | ⟨e', he', heq⟩)
    · exact Or.inr h
    · obtain rfl := Except.error.inj heq
      exact Or.inl he'
  · rintro (h | h)
    · exact Or.inr ⟨e, h, rfl⟩
    · exact Or.inl h

@[simp] theorem outcome_ret {a : α} {r : Except ε α} :
    (Prog.ret a : Prog κ σ ε A α).Outcome env r ↔ r = .ok a := Iff.rfl

theorem outcome_ret_ok {a b : α} : (Prog.ret a : Prog κ σ ε A α).Outcome env (.ok b) ↔ b = a :=
  Iff.of_eq (Except.ok.injEq b a)

@[simp] theorem outcome_pure {a : α} {r : Except ε α} :
    (pure a : Prog κ σ ε A α).Outcome env r ↔ r = .ok a := Iff.rfl

@[simp] theorem outcome_raise {e : ε} {r : Except ε α} :
    (Prog.raise e : Prog κ σ ε A α).Outcome env r ↔ r = .error e := Iff.rfl

@[simp] theorem outcome_ofExcept {x r : Except ε α} :
    (Prog.ofExcept x : Prog κ σ ε A α).Outcome env r ↔ r = x := by
  cases x <;> rfl

/-- An attempt comes to whatever the program may come to. -/
theorem outcome_attempt {r : Except ε' (Except ε α)} :
    (p.attempt : Prog κ σ ε' A (Except ε α)).Outcome env r ↔ ∃ x, r = .ok x ∧ p.Outcome env x := by
  induction p with
  | ret a => simp [Prog.attempt, Prog.Outcome]
  | raise e => simp [Prog.attempt, Prog.Outcome]
  | get k next _ => simp [Prog.attempt, Prog.Outcome]
  | save c e next _ => simp [Prog.attempt, Prog.Outcome]
  | ask q next ih =>
    simp only [Prog.attempt, Prog.Outcome, ih]
    constructor
    · rintro ⟨a, ha, x, rfl, h⟩
      exact ⟨x, rfl, a, ha, h⟩
    · rintro ⟨x, rfl, a, ha, h⟩
      exact ⟨a, ha, x, rfl, h⟩

/-- A program replies with what satisfies a condition, and never fails. -/
def Prog.Replies (env : (q : Q) → A q → Prop) (p : Prog κ σ ε A α) (P : α → Prop) : Prop :=
  ∀ r, p.Outcome env r ↔ ∃ a, P a ∧ r = .ok a

theorem replies_ask (q : Q) : (Prog.ask q .ret : Prog κ σ ε A (A q)).Replies env (env q) := fun _ => Iff.rfl

/-- **A program has the same outcomes with a handler** that replies what its environment allows. -/
theorem outcome_interpret {handle : (q : Q) → Prog κ σ ε' A' (A q)} {rename : ε → ε'}
    (hhandle : ∀ q, (handle q).Replies env' (env q)) {r : Except ε' α} :
    (p.interpret handle rename).Outcome env' r ↔ ∃ x, p.Outcome env x ∧ r = x.mapError rename := by
  induction p with
  | ret a => simp [Prog.interpret, Prog.Outcome, Except.mapError]
  | raise e => simp [Prog.interpret, Prog.Outcome, Except.mapError]
  | get k next _ => simp [Prog.interpret, Prog.Outcome]
  | save c e next _ => simp [Prog.interpret, Prog.Outcome]
  | ask q next ih =>
    change (handle q >>= fun a => (next a).interpret handle rename).Outcome env' r ↔ _
    rw [outcome_bind]
    constructor
    · rintro (⟨a, ha, h⟩ | ⟨e, he, -⟩)
      · obtain ⟨b, hb, heq⟩ := (hhandle q _).mp ha
        obtain rfl := Except.ok.inj heq
        obtain ⟨x, hx, rfl⟩ := (ih a).mp h
        exact ⟨x, ⟨a, hb, hx⟩, rfl⟩
      · obtain ⟨b, -, heq⟩ := (hhandle q _).mp he
        cases heq
    · rintro ⟨x, ⟨a, ha, hx⟩, rfl⟩
      exact Or.inl ⟨a, (hhandle q _).mpr ⟨a, ha, rfl⟩, (ih a).mpr ⟨x, hx, rfl⟩⟩

end Outcomes

/-! ### Questions of a kind -/

namespace Prog.Asks

variable {kind : Q → Prop} {p : Prog κ σ ε A α}

/-- With a handler, what is asked is what the handler asks. -/
theorem interpret {kind' : Q' → Prop} {handle : (q : Q) → Prog κ σ ε' A' (A q)} (hhandle : ∀ q, (handle q).Asks kind')
    {rename : ε → ε'} : (p.interpret handle rename).Asks kind' := by
  induction p with
  | ret a => trivial
  | raise e => trivial
  | get k next ih => exact fun r => ih r
  | save c e next ih => exact fun r => ih r
  | ask q next ih => exact (hhandle q).bind fun a => ih a

/-- **Only answers to what is asked matter.** -/
theorem outcome_iff (hp : p.Asks kind) {env env' : (q : Q) → A q → Prop}
    (henv : ∀ q, kind q → ∀ a, env q a ↔ env' q a) {r : Except ε α} : p.Outcome env r ↔ p.Outcome env' r := by
  induction p with
  | ret a => exact Iff.rfl
  | raise e => exact Iff.rfl
  | get k next _ => exact Iff.rfl
  | save c e next _ => exact Iff.rfl
  | ask q next ih => exact exists_congr fun a => and_congr (henv q hp.1 a) (ih a (hp.2 a))

end Prog.Asks

/-! ### Programs that only ask -/

namespace Prog.OnlyAsks

variable {p : Prog κ σ ε A α} {f : α → Prog κ σ ε A β}

theorem bind (hp : p.OnlyAsks) (hf : ∀ a, (f a).OnlyAsks) : (p >>= f).OnlyAsks := by
  change (p.bind f).OnlyAsks
  induction p with
  | ret a => exact hf a
  | raise e => trivial
  | get k next _ => exact hp.elim
  | save c e next _ => exact hp.elim
  | ask q next ih => exact fun a => ih a (hp a)

theorem ofExcept (x : Except ε α) : (Prog.ofExcept x : Prog κ σ ε A α).OnlyAsks := by
  cases x <;> trivial

theorem attempt (hp : p.OnlyAsks) : (p.attempt : Prog κ σ ε' A (Except ε α)).OnlyAsks := by
  induction p with
  | ret a => trivial
  | raise e => trivial
  | get k next _ => exact hp.elim
  | save c e next _ => exact hp.elim
  | ask q next ih => exact fun a => ih a (hp a)

theorem interpret (hp : p.OnlyAsks) {handle : (q : Q) → Prog κ σ ε' A' (A q)} (hhandle : ∀ q, (handle q).OnlyAsks)
    {rename : ε → ε'} : (p.interpret handle rename).OnlyAsks := by
  induction p with
  | ret a => trivial
  | raise e => trivial
  | get k next _ => exact hp.elim
  | save c e next _ => exact hp.elim
  | ask q next ih => exact (hhandle q).bind fun a => ih a (hp a)

theorem ite {c : Prop} [Decidable c] {q : Prog κ σ ε A α} (hp : p.OnlyAsks) (hq : q.OnlyAsks) :
    (if c then p else q).OnlyAsks := by
  split
  · exact hp
  · exact hq

/-- **It ends on every log** as its outcomes say, and leaves the log as it was. -/
theorem ends_iff [Versioned κ σ] [DecidableEq κ] (hp : p.OnlyAsks) {env : (q : Q) → A q → Prop} {l l' : List σ}
    {r : Except ε α} : p.Ends env l l' r ↔ l' = l ∧ p.Outcome env r := by
  induction p with
  | ret a => exact Iff.rfl
  | raise e => exact Iff.rfl
  | get k next _ => exact hp.elim
  | save c e next _ => exact hp.elim
  | ask q next ih =>
    simp only [Prog.Ends, Prog.Outcome, fun a => ih a (hp a)]
    constructor
    · rintro ⟨a, ha, rfl, h⟩
      exact ⟨rfl, a, ha, h⟩
    · rintro ⟨rfl, a, ha, h⟩
      exact ⟨a, ha, rfl, h⟩

end Prog.OnlyAsks

end DayMend.Base
