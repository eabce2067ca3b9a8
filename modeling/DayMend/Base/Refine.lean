import DayMend.Base.Interpret
import Mathlib.Data.List.Forall2

/-!
# Refinement of programs

What matters of a program to others that share its store are its reads, its saves and its
result; whom it asks in between, and how often, does not matter. A program refines another
(`Prog.Refines`) when, however it is answered, the other can be answered so that it makes
the same reads, the same saves and the same end.

Refinement goes with composition (`Prog.Refines.bind`), an interpreted program refines the
program itself when the handler answers as the environment allows (`refines_interpret`),
and programs that only ask are compared by what they return (`refines_of_onlyAsks`). When
requests refine requests, **every run of the ones is on the store a run of the others**
(`exists_reachable_of_refines`), so what holds of all runs of a model holds of the runs of
its implementations.
-/

namespace DayMend.Base

variable {κ σ ε ε' Q Q' : Type} {A : Q → Type} {A' : Q' → Type} {α β : Type}

/-- By being answered, and nothing else, one program comes to the other. -/
inductive Answered (env : (q : Q) → A q → Prop) : Prog κ σ ε A α → Prog κ σ ε A α → Prop where
  /-- Nothing is asked. -/
  | refl {p : Prog κ σ ε A α} : Answered env p p
  /-- A question, and what follows. -/
  | ask {q : Q} {a : A q} {next : A q → Prog κ σ ε A α} {p' : Prog κ σ ε A α} (ha : env q a)
      (hnext : Answered env (next a) p') : Answered env (.ask q next) p'

/-- **A program refines another**: however it is answered, the other can be answered so that it makes the same
reads, the same saves and the same end. Failures need not be the same. -/
def Prog.Refines (env : (q : Q) → A q → Prop) (env' : (q : Q') → A' q → Prop) :
    Prog κ σ ε A α → Prog κ σ ε' A' α → Prop
  | .ret a, m => Answered env' m (.ret a)
  | .raise _, m => ∃ e, Answered env' m (.raise e)
  | .get k next, m => ∃ next', Answered env' m (.get k next') ∧ ∀ r, (next r).Refines env env' (next' r)
  | .save c e next, m => ∃ next', Answered env' m (.save c e next') ∧ ∀ r, (next r).Refines env env' (next' r)
  | .ask q next, m => ∀ a, env q a → (next a).Refines env env' m

section Rules

variable {env : (q : Q) → A q → Prop} {env' : (q : Q') → A' q → Prop} {p : Prog κ σ ε A α}
  {m m' : Prog κ σ ε' A' α}

theorem Answered.trans {p p' p'' : Prog κ σ ε A α} (h : Answered env p p') (h' : Answered env p' p'') :
    Answered env p p'' := by
  induction h with
  | refl => exact h'
  | ask ha _ ih => exact .ask ha (ih h')

theorem Answered.bind {p p' : Prog κ σ ε A α} {f : α → Prog κ σ ε A β} (h : Answered env p p') :
    Answered env (p >>= f) (p' >>= f) := by
  induction h with
  | refl => exact .refl
  | ask ha _ ih => exact .ask ha ih

theorem Answered.mapError {p p' : Prog κ σ ε A α} {f : ε → ε} (h : Answered env p p') :
    Answered env (p.mapError f) (p'.mapError f) := by
  induction h with
  | refl => exact .refl
  | ask ha _ ih => exact .ask ha ih

namespace Prog.Refines

/-- Before it does what the program does, the other may ask. -/
theorem of_answered (hanswered : Answered env' m m') (h : p.Refines env env' m') : p.Refines env env' m := by
  induction p generalizing m m' with
  | ret a => exact hanswered.trans h
  | raise e =>
    obtain ⟨e', he⟩ := h
    exact ⟨e', hanswered.trans he⟩
  | get k next _ =>
    obtain ⟨next', hget, hnext⟩ := h
    exact ⟨next', hanswered.trans hget, hnext⟩
  | save c e next _ =>
    obtain ⟨next', hsave, hnext⟩ := h
    exact ⟨next', hanswered.trans hsave, hnext⟩
  | ask q next ih => exact fun a ha => ih a hanswered (h a ha)

/-- **Refinement goes with composition.** -/
theorem bind {f : α → Prog κ σ ε A β} {g : α → Prog κ σ ε' A' β} (h : p.Refines env env' m)
    (hf : ∀ a, (f a).Refines env env' (g a)) : (p >>= f).Refines env env' (m >>= g) := by
  change (p.bind f).Refines env env' _
  induction p generalizing m with
  | ret a => exact of_answered (Answered.bind h) (hf a)
  | raise e =>
    obtain ⟨e', he⟩ := h
    exact ⟨e', he.bind⟩
  | get k next ih =>
    obtain ⟨next', hget, hnext⟩ := h
    exact ⟨_, hget.bind, fun r => ih r (hnext r)⟩
  | save c e next ih =>
    obtain ⟨next', hsave, hnext⟩ := h
    exact ⟨_, hsave.bind, fun r => ih r (hnext r)⟩
  | ask q next ih => exact fun a ha => ih a (h a ha)

theorem mapError {f : ε → ε} {g : ε' → ε'} (h : p.Refines env env' m) :
    (p.mapError f).Refines env env' (m.mapError g) := by
  induction p generalizing m with
  | ret a => exact Answered.mapError h
  | raise e =>
    obtain ⟨e', he⟩ := h
    exact ⟨_, he.mapError⟩
  | get k next ih =>
    obtain ⟨next', hget, hnext⟩ := h
    exact ⟨_, hget.mapError, fun r => ih r (hnext r)⟩
  | save c e next ih =>
    obtain ⟨next', hsave, hnext⟩ := h
    exact ⟨_, hsave.mapError, fun r => ih r (hnext r)⟩
  | ask q next ih => exact fun a ha => ih a (h a ha)

/-- A computation is the same for both, but for how it fails. -/
theorem ofExcept {x : Except ε α} {x' : Except ε' α} (hok : ∀ a, x = .ok a → x' = .ok a)
    (herror : ∀ e, x = .error e → ∃ e', x' = .error e') :
    (Prog.ofExcept x : Prog κ σ ε A α).Refines env env' (Prog.ofExcept x' : Prog κ σ ε' A' α) := by
  cases x with
  | ok a =>
    obtain rfl := hok a rfl
    exact .refl
  | error e =>
    obtain ⟨e', rfl⟩ := herror e rfl
    exact ⟨e', .refl⟩

theorem ite {c : Prop} [Decidable c] {p' : Prog κ σ ε A α} (h : p.Refines env env' m)
    (h' : p'.Refines env env' m') : (if c then p else p').Refines env env' (if c then m else m') := by
  split
  · exact h
  · exact h'

end Prog.Refines

/-- What a program may come to without reading or saving, it comes to by being answered. -/
theorem Prog.Outcome.answered_ret {a : α} (h : p.Outcome env (.ok a)) : Answered env p (.ret a) := by
  induction p with
  | ret b =>
    obtain rfl := Except.ok.inj h
    exact .refl
  | raise e => cases h
  | get k next _ => exact h.elim
  | save c e next _ => exact h.elim
  | ask q next ih =>
    obtain ⟨b, hb, h⟩ := h
    exact .ask hb (ih b h)

theorem Prog.Outcome.answered_raise {e : ε} (h : p.Outcome env (.error e)) : Answered env p (.raise e) := by
  induction p with
  | ret a => cases h
  | raise e' =>
    obtain rfl := Except.error.inj h
    exact .refl
  | get k next _ => exact h.elim
  | save c e' next _ => exact h.elim
  | ask q next ih =>
    obtain ⟨b, hb, h⟩ := h
    exact .ask hb (ih b h)

/-- **A program that only asks** refines any that may return whatever it may return, and may fail. -/
theorem refines_of_onlyAsks (hp : p.OnlyAsks) (hok : ∀ a, p.Outcome env (.ok a) → m.Outcome env' (.ok a))
    (hfails : ∃ e, m.Outcome env' (.error e)) : p.Refines env env' m := by
  induction p with
  | ret a => exact (hok a rfl).answered_ret
  | raise e =>
    obtain ⟨e', he'⟩ := hfails
    exact ⟨e', he'.answered_raise⟩
  | get k next _ => exact hp.elim
  | save c e next _ => exact hp.elim
  | ask q next ih => exact fun a ha => ih a (hp a) fun b hb => hok b ⟨a, ha, hb⟩

/-- What only asks and then goes on refines a program, when whatever it returns it goes on so. -/
theorem refines_bind_of_onlyAsks {m : Prog κ σ ε' A' β} {f : α → Prog κ σ ε A β} (hp : p.OnlyAsks)
    (hok : ∀ a, p.Outcome env (.ok a) → (f a).Refines env env' m) (hfails : ∀ e, ¬ p.Outcome env (.error e)) :
    (p >>= f).Refines env env' m := by
  change (p.bind f).Refines env env' m
  induction p with
  | ret a => exact hok a rfl
  | raise e => exact absurd rfl (hfails e)
  | get k next _ => exact hp.elim
  | save c e next _ => exact hp.elim
  | ask q next ih =>
    exact fun a ha => ih a (hp a) (fun b hb => hok b ⟨a, ha, hb⟩) fun e he => hfails e ⟨a, ha, he⟩

/-- **With a handler, a program refines itself**, when the handler only asks and replies what the environment
allows. -/
theorem refines_interpret {handle : (q : Q) → Prog κ σ ε' A' (A q)} {rename : ε → ε'}
    (honly : ∀ q, (handle q).OnlyAsks) (hhandle : ∀ q r, (handle q).Outcome env' r → ∃ a, env q a ∧ r = .ok a) :
    (p.interpret handle rename).Refines env' env p := by
  induction p with
  | ret a => exact .refl
  | raise e => exact ⟨e, .refl⟩
  | get k next ih => exact ⟨next, .refl, ih⟩
  | save c e next ih => exact ⟨next, .refl, ih⟩
  | ask q next ih =>
    refine refines_bind_of_onlyAsks (honly q) (fun a h => ?_) fun e h => ?_
    · obtain ⟨b, hb, heq⟩ := hhandle q _ h
      obtain rfl := Except.ok.inj heq
      exact .of_answered (.ask hb .refl) (ih a)
    · obtain ⟨b, -, heq⟩ := hhandle q _ h
      cases heq

end Rules

/-! ### Runs -/

section Runs

variable [Versioned κ σ] [DecidableEq κ] {env : (q : Q) → A q → Prop} {env' : (q : Q') → A' q → Prop}
  {request : Prog κ σ ε A α → Prop} {request' : Prog κ σ ε' A' α → Prop}

/-- A run of some requests is a run of more. -/
theorem Reachable.mono {request₂ : Prog κ σ ε A α → Prop} (hmore : ∀ p, request p → request₂ p) {cfg : Config κ σ ε A α}
    (h : Reachable env request cfg) : Reachable env request₂ cfg := by
  induction h with
  | init => exact .init
  | spawn _ hp ih => exact .spawn ih (hmore _ hp)
  | step _ hs ih => exact .step ih hs

theorem Reachable.answered {p p' : Prog κ σ ε A α} (hanswered : Answered env p p') {l : List σ}
    {ps qs : List (Prog κ σ ε A α)} (h : Reachable env request ⟨l, ps ++ p :: qs⟩) :
    Reachable env request ⟨l, ps ++ p' :: qs⟩ := by
  induction hanswered with
  | refl => exact h
  | ask ha _ ih => exact ih (h.step (.ask ha))

/-- What one program has left to do refines what the other has, and when it has returned so has the other. -/
structure Follows (env : (q : Q) → A q → Prop) (env' : (q : Q') → A' q → Prop) (p : Prog κ σ ε A α)
    (m : Prog κ σ ε' A' α) : Prop where
  refines : p.Refines env env' m
  returned (a : α) (h : p = .ret a) : m = .ret a

omit [Versioned κ σ] [DecidableEq κ] in
/-- A program that refines another can be followed by it. -/
theorem exists_follows {p : Prog κ σ ε A α} {m : Prog κ σ ε' A' α} (h : p.Refines env env' m) :
    ∃ m', Answered env' m m' ∧ Follows env env' p m' := by
  cases p with
  | ret a => exact ⟨_, h, .refl, fun _ hb => Prog.ret.inj hb ▸ rfl⟩
  | raise e => exact ⟨m, .refl, h, by rintro _ ⟨⟩⟩
  | get k next => exact ⟨m, .refl, h, by rintro _ ⟨⟩⟩
  | save c e next => exact ⟨m, .refl, h, by rintro _ ⟨⟩⟩
  | ask q next => exact ⟨m, .refl, h, by rintro _ ⟨⟩⟩

/-- **One step** of a program is followed by steps of the one that it refines, on the same log. -/
theorem exists_follows_step {l l' : List σ} {p p' : Prog κ σ ε A α} {m : Prog κ σ ε' A' α}
    (hs : Step env l p l' p') (h : p.Refines env env' m) {ms ns : List (Prog κ σ ε' A' α)}
    (hreach : Reachable env' request' ⟨l, ms ++ m :: ns⟩) :
    ∃ m', Reachable env' request' ⟨l', ms ++ m' :: ns⟩ ∧ Follows env env' p' m' := by
  have hfinish : ∀ m₁, Reachable env' request' ⟨l', ms ++ m₁ :: ns⟩ → p'.Refines env env' m₁ →
      ∃ m', Reachable env' request' ⟨l', ms ++ m' :: ns⟩ ∧ Follows env env' p' m' := by
    intro m₁ hm₁ hrefines
    obtain ⟨m', hanswered, hfollows⟩ := exists_follows hrefines
    exact ⟨m', hm₁.answered hanswered, hfollows⟩
  cases hs with
  | get =>
    obtain ⟨next', hget, hnext⟩ := h
    exact hfinish _ ((hreach.answered hget).step .get) (hnext _)
  | saved hacc =>
    obtain ⟨next', hsave, hnext⟩ := h
    exact hfinish _ ((hreach.answered hsave).step (.saved hacc)) (hnext _)
  | refused hacc =>
    obtain ⟨next', hsave, hnext⟩ := h
    exact hfinish _ ((hreach.answered hsave).step (.refused hacc)) (hnext _)
  | ask ha => exact hfinish _ hreach (h _ ha)

/-- Where one list is related to another, its parts are to parts of the other. -/
theorem exists_of_forall₂_append_cons {γ δ : Type} {R : γ → δ → Prop} {xs ys : List γ} {x : γ} {zs : List δ}
    (h : List.Forall₂ R (xs ++ x :: ys) zs) :
    ∃ us u vs, zs = us ++ u :: vs ∧ List.Forall₂ R xs us ∧ R x u ∧ List.Forall₂ R ys vs := by
  induction xs generalizing zs with
  | nil =>
    cases h with
    | cons hx hys => exact ⟨[], _, _, rfl, .nil, hx, hys⟩
  | cons x' xs ih =>
    cases h with
    | cons hx' hrest =>
      obtain ⟨us, u, vs, rfl, hxs, hx, hys⟩ := ih hrest
      exact ⟨_ :: us, u, vs, rfl, .cons hx' hxs, hx, hys⟩

/-- **Every run of programs that refine others is a run of the others**: with the same log, and with the same
results of the programs that have returned. -/
theorem exists_reachable_of_refines
    (hrequest : ∀ p, request p → ∃ m, request' m ∧ p.Refines env env' m) {cfg : Config κ σ ε A α}
    (h : Reachable env request cfg) :
    ∃ ms, Reachable env' request' ⟨cfg.saved, ms⟩ ∧ List.Forall₂ (Follows env env') cfg.threads ms := by
  induction h with
  | init => exact ⟨[], .init, .nil⟩
  | @spawn l ps p _ hp ih =>
    obtain ⟨ms, hms, hfollows⟩ := ih
    obtain ⟨m, hm, hrefines⟩ := hrequest p hp
    obtain ⟨m', hanswered, hm'⟩ := exists_follows hrefines
    exact ⟨ms ++ [m'], (hms.spawn hm).answered hanswered, List.rel_append hfollows (.cons hm' .nil)⟩
  | step _ hs ih =>
    obtain ⟨ms, hms, hfollows⟩ := ih
    obtain ⟨us, u, vs, rfl, hus, hu, hvs⟩ := exists_of_forall₂_append_cons hfollows
    obtain ⟨u', hu', hfollowed⟩ := exists_follows_step hs hu.refines hms
    exact ⟨us ++ u' :: vs, hu', List.rel_append hus (.cons hfollowed hvs)⟩

end Runs

end DayMend.Base
