import Mathlib.Data.List.Infix
import Mathlib.Data.Set.Insert

/-!
# Programs over a versioned store

Several programs share a store of versioned values. A program reads the current
value at a key, saves a value on condition that the version it expects is still
the stored one, and asks the world outside questions (a clock, a fresh name, a
remote service); between two of its steps any other program may run.

## The model

* `Prog` — a program, step by step; `get`, `save` and `ask` say what it does next
  and how it goes on from the reply.
* `Config`, `Reachable` — the programs taking turns on a log of every value ever
  saved, newest first; the store's value at a key is the newest with that key.
* `Config.run` — an executable scheduler, whose runs are reachable
  (`reachable_run`).

## What is proved

* `Rules.wp` — preconditions: every save a program makes is a step, allowed by
  the rules, from a value it has *seen* with the version it expects. `wp_bind`
  and `wp_mono` compose programs.
* `Rules.hist_of_reachable` — if every request satisfies its precondition, then
  whatever the order of turns, the successive values at each key form a history
  (`Rules.Hist`): each was made from the one before it by an allowed step. A save
  is refused unless its version is the stored one, and versions only grow, so the
  value a program has seen with that version *is* the stored one.
* `Rules.Hist.forall_mem` — what holds at the start and is kept by every allowed
  step holds of every value ever stored.
-/

namespace DayMend.Base

/-- Values kept in a store under a key, with a version number. -/
class Versioned (κ : outParam Type) (σ : Type) where
  /-- The key. -/
  key : σ → κ
  /-- The version. -/
  version : σ → ℕ
  /-- The same value with another version. -/
  setVersion : ℕ → σ → σ
  key_setVersion (n : ℕ) (c : σ) : key (setVersion n c) = key c
  version_setVersion (n : ℕ) (c : σ) : version (setVersion n c) = n

export Versioned (key version setVersion)
attribute [simp] Versioned.key_setVersion Versioned.version_setVersion

/-! ### Computations that may fail -/

/-- Fail under a condition. -/
def raiseIf {ε : Type} (condition : Prop) [Decidable condition] (e : ε) : Except ε Unit :=
  if condition then .error e else .ok ()

theorem raiseIf_eq_ok {ε : Type} {condition : Prop} [Decidable condition] {e : ε} {u : Unit} :
    raiseIf condition e = .ok u ↔ ¬ condition := by
  unfold raiseIf
  split <;> simp_all

/-- A computation goes well when its parts do. -/
theorem bind_eq_ok {ε α β : Type} {x : Except ε α} {f : α → Except ε β} {b : β} :
    x >>= f = .ok b ↔ ∃ a, x = .ok a ∧ f a = .ok b := by
  cases x with
  | error e => simp [bind, Except.bind]
  | ok a => simp [bind, Except.bind]

theorem ok_bind {ε α β : Type} {a : α} {f : α → Except ε β} : (Except.ok a >>= f) = f a := rfl

/-- A computation for each element goes well when each of them does. -/
theorem mapM_eq_ok {ε α β : Type} {f : α → Except ε β} {l : List α} : ∀ {l' : List β},
    l.mapM f = .ok l' ↔ List.Forall₂ (fun a b => f a = .ok b) l l' := by
  induction l with
  | nil =>
    intro l'
    rw [List.mapM_nil]
    constructor
    · rintro ⟨⟩
      exact .nil
    · rintro ⟨⟩
      rfl
  | cons a l ih =>
    intro l'
    simp only [List.mapM_cons, bind_eq_ok]
    constructor
    · rintro ⟨b, hb, rest, hrest, ⟨⟩⟩
      exact .cons hb (ih.mp hrest)
    · intro h
      cases h with
      | cons hb hrest => exact ⟨_, hb, _, ih.mpr hrest, rfl⟩

/-- What is in the second of two related lists is related to something in the first. -/
theorem exists_of_forall₂ {α β : Type} {R : α → β → Prop} {l : List α} {l' : List β} (h : List.Forall₂ R l l') {b : β}
    (hb : b ∈ l') : ∃ a ∈ l, R a b := by
  induction h with
  | nil => cases hb
  | cons hhead _ ih =>
    rcases List.mem_cons.mp hb with rfl | hb
    · exact ⟨_, List.mem_cons_self, hhead⟩
    · obtain ⟨a, ha, hab⟩ := ih hb
      exact ⟨a, List.mem_cons_of_mem _ ha, hab⟩

/-- What can be related to each element can be related to the list. -/
theorem exists_forall₂ {α β : Type} {R : α → β → Prop} {l' : List β} (h : ∀ b ∈ l', ∃ a, R a b) :
    ∃ l, List.Forall₂ R l l' := by
  induction l' with
  | nil => exact ⟨[], .nil⟩
  | cons b l' ih =>
    obtain ⟨a, ha⟩ := h b List.mem_cons_self
    obtain ⟨l, hl⟩ := ih fun b hb => h b (List.mem_cons_of_mem _ hb)
    exact ⟨a :: l, .cons ha hl⟩

/-- Related lists agree in what related elements agree in. -/
theorem map_eq_map_of_forall₂ {α β γ : Type} {R : α → β → Prop} {l : List α} {l' : List β} (h : List.Forall₂ R l l')
    {f : α → γ} {g : β → γ} (hfg : ∀ a b, R a b → f a = g b) : l.map f = l'.map g := by
  induction h with
  | nil => rfl
  | cons hhead _ ih => rw [List.map_cons, List.map_cons, hfg _ _ hhead, ih]

/-- A computation fails when one of its parts does. -/
theorem bind_eq_error {ε α β : Type} {x : Except ε α} {f : α → Except ε β} {e : ε} :
    x >>= f = .error e ↔ x = .error e ∨ ∃ a, x = .ok a ∧ f a = .error e := by
  cases x with
  | error e => simp [bind, Except.bind]
  | ok a => simp [bind, Except.bind]

/-- What is seen of the result of a computation is seen of a result. -/
theorem exists_ok_of_toOption {ε α β : Type} {x : Except ε α} {f : α → β} {b : β} (h : x.toOption.map f = some b) :
    ∃ a, x = .ok a ∧ f a = b := by
  cases x with
  | error e => cases h
  | ok a => exact ⟨a, rfl, Option.some.inj h⟩

/-- What fails before its result is looked at fails. -/
theorem eq_error_of_map {ε α β : Type} {x : Except ε α} {f : α → β} {e : ε} (h : x.map f = .error e) :
    x = .error e := by
  cases x with
  | error e' => exact congrArg _ (Except.error.inj h)
  | ok a => cases h

/-- A filter that may fail goes well when each of its tests does, and keeps what passes. -/
theorem filterM_eq_ok {ε α : Type} {f : α → Except ε Bool} {l kept : List α} :
    l.filterM f = .ok kept ↔
      (∀ x ∈ l, ∃ b, f x = .ok b) ∧ kept = l.filter fun x => (f x).toOption = some true := by
  suffices haux : ∀ (l acc reversed : List α), l.filterAuxM f acc = .ok reversed ↔
      (∀ x ∈ l, ∃ b, f x = .ok b) ∧ reversed = (l.filter fun x => (f x).toOption = some true).reverse ++ acc by
    rw [List.filterM, bind_eq_ok]
    constructor
    · rintro ⟨reversed, hreversed, heq⟩
      obtain ⟨hl, rfl⟩ := (haux l [] reversed).mp hreversed
      obtain rfl := Except.ok.inj heq
      exact ⟨hl, by simp⟩
    · rintro ⟨hl, rfl⟩
      exact ⟨_, (haux l [] _).mpr ⟨hl, rfl⟩, by simp [pure, Except.pure]⟩
  intro l
  induction l with
  | nil => simp [List.filterAuxM, pure, Except.pure, eq_comm]
  | cons x l ih =>
    intro acc reversed
    rw [List.filterAuxM, bind_eq_ok, List.forall_mem_cons]
    constructor
    · rintro ⟨b, hb, hrest⟩
      obtain ⟨hl, rfl⟩ := (ih _ _).mp hrest
      refine ⟨⟨⟨b, hb⟩, hl⟩, ?_⟩
      cases b <;> simp [hb, Except.toOption]
    · rintro ⟨⟨⟨b, hb⟩, hl⟩, rfl⟩
      refine ⟨b, hb, (ih _ _).mpr ⟨hl, ?_⟩⟩
      cases b <;> simp [hb, Except.toOption]

/-- A filter that may fail keeps whatever its test has found true. -/
theorem exists_of_filterM_eq_ok {ε α : Type} {f : α → Except ε Bool} {l kept : List α} (h : l.filterM f = .ok kept) :
    ∀ x ∈ l, ∃ b, f x = .ok b ∧ (b = true → x ∈ kept) := by
  obtain ⟨hl, rfl⟩ := filterM_eq_ok.mp h
  intro x hx
  obtain ⟨b, hb⟩ := hl x hx
  refine ⟨b, hb, fun htrue => List.mem_filter.mpr ⟨hx, ?_⟩⟩
  simp [hb, htrue, Except.toOption]

/-- A test of all that may fail finds nothing when it fails nowhere and finds nothing. -/
theorem anyM_eq_ok_false_iff {ε α : Type} {f : α → Except ε Bool} {l : List α} :
    l.anyM f = .ok false ↔ ∀ x ∈ l, f x = .ok false := by
  induction l with
  | nil => exact iff_of_true rfl (by simp)
  | cons x l ih =>
    rw [List.forall_mem_cons, ← ih, List.anyM, bind_eq_ok]
    constructor
    · rintro ⟨found, hx, h⟩
      cases found with
      | false => exact ⟨hx, h⟩
      | true => cases h
    · rintro ⟨hx, h⟩
      exact ⟨false, hx, h⟩

/-- A search that may fail finds nothing when it has found nothing anywhere. -/
theorem findSomeM?_eq_ok_none_iff {ε α β : Type} {f : α → Except ε (Option β)} {l : List α} :
    l.findSomeM? f = .ok none ↔ ∀ x ∈ l, f x = .ok none := by
  induction l with
  | nil => exact iff_of_true rfl (by simp)
  | cons x l ih =>
    rw [List.forall_mem_cons, ← ih, List.findSomeM?, bind_eq_ok]
    constructor
    · rintro ⟨found, hx, h⟩
      cases found with
      | none => exact ⟨hx, h⟩
      | some b => cases h
    · rintro ⟨hx, h⟩
      exact ⟨none, hx, h⟩

/-- What it finds, it finds first. -/
theorem findSomeM?_eq_ok_some_iff {ε α β : Type} {f : α → Except ε (Option β)} {l : List α} {b : β} :
    l.findSomeM? f = .ok (some b) ↔
      ∃ before x after, l = before ++ x :: after ∧ (∀ y ∈ before, f y = .ok none) ∧ f x = .ok (some b) := by
  induction l with
  | nil => simp [List.findSomeM?, pure, Except.pure]
  | cons x l ih =>
    rw [List.findSomeM?, bind_eq_ok]
    constructor
    · rintro ⟨found, hx, h⟩
      cases found with
      | none =>
        obtain ⟨before, y, after, rfl, hbefore, hy⟩ := ih.mp h
        exact ⟨x :: before, y, after, rfl, List.forall_mem_cons.mpr ⟨hx, hbefore⟩, hy⟩
      | some c =>
        cases h
        exact ⟨[], x, l, rfl, by simp, hx⟩
    · rintro ⟨before, y, after, heq, hbefore, hy⟩
      cases before with
      | nil =>
        cases heq
        exact ⟨some b, hy, rfl⟩
      | cons z before =>
        cases heq
        obtain ⟨hz, hbefore⟩ := List.forall_mem_cons.mp hbefore
        exact ⟨none, hz, ih.mpr ⟨before, y, after, rfl, hbefore, hy⟩⟩

/-- A search fails only where its test does. -/
theorem exists_of_findSomeM?_eq_error {ε α β : Type} {f : α → Except ε (Option β)} {l : List α} {e : ε}
    (h : l.findSomeM? f = .error e) : ∃ x ∈ l, f x = .error e := by
  induction l with
  | nil => cases h
  | cons x l ih =>
    rw [List.findSomeM?] at h
    rcases bind_eq_error.mp h with hx | ⟨found, -, h⟩
    · exact ⟨x, List.mem_cons_self .., hx⟩
    · cases found with
      | none =>
        obtain ⟨y, hy, he⟩ := ih h
        exact ⟨y, List.mem_cons_of_mem _ hy, he⟩
      | some b => cases h

/-! ### Programs -/

/-- A program over a store of `σ` at keys `κ`, failing with `ε`, that may ask
questions `Q` and be answered in `A`. -/
inductive Prog (κ σ ε : Type) {Q : Type} (A : Q → Type) (α : Type) : Type where
  /-- Return. -/
  | ret (a : α)
  /-- Fail. -/
  | raise (e : ε)
  /-- Read the current value at a key, if there is one. -/
  | get (k : κ) (next : Option σ → Prog κ σ ε A α)
  /-- Save a value, expecting a version, or that there is none; `none` says the save was refused. -/
  | save (c : σ) (expected : Option ℕ) (next : Option σ → Prog κ σ ε A α)
  /-- Ask the world outside. -/
  | ask (q : Q) (next : A q → Prog κ σ ε A α)

variable {κ σ ε Q : Type} {A : Q → Type} {α β γ : Type}

namespace Prog

/-- Run one program, then another from its result. -/
def bind : Prog κ σ ε A α → (α → Prog κ σ ε A β) → Prog κ σ ε A β
  | ret a, f => f a
  | raise e, _ => raise e
  | get k next, f => get k fun r => (next r).bind f
  | save c e next, f => save c e fun r => (next r).bind f
  | ask q next, f => ask q fun r => (next r).bind f

instance : Monad (Prog κ σ ε A) where
  pure := ret
  bind := bind

/-- Change the failures of a program. -/
def mapError (f : ε → ε) : Prog κ σ ε A α → Prog κ σ ε A α
  | ret a => ret a
  | raise e => raise (f e)
  | get k next => get k fun r => (next r).mapError f
  | save c e next => save c e fun r => (next r).mapError f
  | ask q next => ask q fun r => (next r).mapError f

/-- What a program that has finished returns. -/
def result? : Prog κ σ ε A α → Option α
  | ret a => some a
  | _ => none

theorem eq_ret_of_result? {p : Prog κ σ ε A α} {a : α} (h : p.result? = some a) : p = .ret a := by
  cases p with
  | ret b => exact congrArg ret (Option.some.inj h)
  | raise e => cases h
  | get k next => cases h
  | save c e next => cases h
  | ask q next => cases h

/-- What a program that has failed raises. -/
def failure? : Prog κ σ ε A α → Option ε
  | raise e => some e
  | _ => none

theorem eq_raise_of_failure? {p : Prog κ σ ε A α} {e : ε} (h : p.failure? = some e) : p = .raise e := by
  cases p with
  | ret a => cases h
  | raise e' => exact congrArg raise (Option.some.inj h)
  | get k next => cases h
  | save c e next => cases h
  | ask q next => cases h

/-- A computation that may fail, as a program that takes no step. -/
def ofExcept : Except ε α → Prog κ σ ε A α
  | .ok a => ret a
  | .error e => raise e

end Prog

/-! ### Running -/

section Running

variable [Versioned κ σ]

/-- What a save stores: the version after the expected one. -/
def stored (c : σ) (expected : Option ℕ) : σ := setVersion (expected.getD (version c) + 1) c

@[simp] theorem key_stored (c : σ) (e : Option ℕ) : key (stored c e) = key c := Versioned.key_setVersion ..

variable [DecidableEq κ]

/-- The values ever saved at a key, newest first. -/
def versions (saved : List σ) (k : κ) : List σ := saved.filter fun c => key c = k

/-- The current value at a key. -/
def current (saved : List σ) (k : κ) : Option σ := saved.find? fun c => key c = k

theorem key_of_current {saved : List σ} {k : κ} {c : σ} (h : current saved k = some c) : key c = k := by
  simpa using List.find?_some h

theorem current_cons {saved : List σ} {k : κ} {c : σ} (h : key c = k) : current (c :: saved) k = some c := by
  simp [current, h]

theorem current_cons_of_ne {saved : List σ} {k : κ} {c : σ} (h : key c ≠ k) :
    current (c :: saved) k = current saved k := by
  simp [current, h]

theorem versions_cons {saved : List σ} {k : κ} {c : σ} (h : key c = k) :
    versions (c :: saved) k = c :: versions saved k :=
  List.filter_cons_of_pos (decide_eq_true h)

theorem versions_cons_of_ne {saved : List σ} {k : κ} {c : σ} (h : key c ≠ k) :
    versions (c :: saved) k = versions saved k :=
  List.filter_cons_of_neg (by simpa using h)

theorem current_eq_head? (saved : List σ) (k : κ) : current saved k = (versions saved k).head? :=
  (List.head?_filter ..).symm

/-- A save is accepted when the stored version is the expected one. -/
def Accepts (saved : List σ) (c : σ) (expected : Option ℕ) : Prop :=
  (current saved (key c)).map version = expected

instance (saved : List σ) (c : σ) (e : Option ℕ) : Decidable (Accepts saved c e) :=
  inferInstanceAs (Decidable (_ = _))

/-- One step of a program on the log of saved values. -/
inductive Step (env : (q : Q) → A q → Prop) :
    List σ → Prog κ σ ε A α → List σ → Prog κ σ ε A α → Prop where
  /-- It reads the current value. -/
  | get {l : List σ} {k : κ} {next : Option σ → Prog κ σ ε A α} : Step env l (.get k next) l (next (current l k))
  /-- Its save is accepted. -/
  | saved {l : List σ} {c : σ} {e : Option ℕ} {next : Option σ → Prog κ σ ε A α} (h : Accepts l c e) :
      Step env l (.save c e next) (stored c e :: l) (next (some (stored c e)))
  /-- Its save is refused. -/
  | refused {l : List σ} {c : σ} {e : Option ℕ} {next : Option σ → Prog κ σ ε A α} (h : ¬ Accepts l c e) :
      Step env l (.save c e next) l (next none)
  /-- It is answered. -/
  | ask {l : List σ} {q : Q} {a : A q} {next : A q → Prog κ σ ε A α} (h : env q a) :
      Step env l (.ask q next) l (next a)

/-- The log of saved values, and the programs running. -/
structure Config (κ σ ε : Type) {Q : Type} (A : Q → Type) (α : Type) where
  /-- Every value ever saved, newest first. -/
  saved : List σ
  /-- What each program has left to do. -/
  threads : List (Prog κ σ ε A α)

/-- The configurations that requests, coming at any time and taking turns in any order, can reach. -/
inductive Reachable (env : (q : Q) → A q → Prop) (request : Prog κ σ ε A α → Prop) :
    Config κ σ ε A α → Prop where
  /-- Nothing saved, nothing running. -/
  | init : Reachable env request ⟨[], []⟩
  /-- A request comes. -/
  | spawn {l : List σ} {ps : List (Prog κ σ ε A α)} {p : Prog κ σ ε A α} :
      Reachable env request ⟨l, ps⟩ → request p → Reachable env request ⟨l, ps ++ [p]⟩
  /-- A program takes a step. -/
  | step {l l' : List σ} {ps qs : List (Prog κ σ ε A α)} {p p' : Prog κ σ ε A α} :
      Reachable env request ⟨l, ps ++ p :: qs⟩ → Step env l p l' p' →
        Reachable env request ⟨l', ps ++ p' :: qs⟩

/-- A step of a program when the world answers by `answer`; a finished program stays as it is. -/
def advance (answer : (q : Q) → A q) : List σ × Prog κ σ ε A α → List σ × Prog κ σ ε A α
  | (l, .ret a) => (l, .ret a)
  | (l, .raise e) => (l, .raise e)
  | (l, .get k next) => (l, next (current l k))
  | (l, .save c e next) => if Accepts l c e then (stored c e :: l, next (some (stored c e))) else (l, next none)
  | (l, .ask q next) => (l, next (answer q))

/-- What a scheduler does next. -/
inductive Turn (κ σ ε : Type) {Q : Type} (A : Q → Type) (α : Type) where
  /-- Let a request in. -/
  | spawn (p : Prog κ σ ε A α)
  /-- Let program `i` take `n` steps, answering its questions by `answer`. -/
  | steps (i n : ℕ) (answer : (q : Q) → A q)

/-- `n` steps of a program. -/
def advances (answer : (q : Q) → A q) : ℕ → List σ × Prog κ σ ε A α → List σ × Prog κ σ ε A α
  | 0, x => x
  | n + 1, x => advances answer n (advance answer x)

/-- Carry out one turn. -/
def Config.turn (cfg : Config κ σ ε A α) : Turn κ σ ε A α → Config κ σ ε A α
  | .spawn p => ⟨cfg.saved, cfg.threads ++ [p]⟩
  | .steps i n answer =>
    match cfg.threads[i]? with
    | none => cfg
    | some p =>
      let x := advances answer n (cfg.saved, p)
      ⟨x.1, cfg.threads.set i x.2⟩

/-- The run of a schedule, from nothing. -/
def Config.run (ts : List (Turn κ σ ε A α)) : Config κ σ ε A α := ts.foldl Config.turn ⟨[], []⟩

/-- A turn the environment and the requests allow. -/
def Turn.Allowed (env : (q : Q) → A q → Prop) (request : Prog κ σ ε A α → Prop) : Turn κ σ ε A α → Prop
  | .spawn p => request p
  | .steps _ _ answer => ∀ q, env q (answer q)

variable {env : (q : Q) → A q → Prop} {request : Prog κ σ ε A α → Prop}

/-- To advance is to take a step that the environment allows, unless the program has finished. -/
theorem advance_eq_or_step {answer : (q : Q) → A q} (ha : ∀ q, env q (answer q)) (l : List σ) (p : Prog κ σ ε A α) :
    advance answer (l, p) = (l, p) ∨ Step env l p (advance answer (l, p)).1 (advance answer (l, p)).2 := by
  cases p with
  | ret a => exact Or.inl rfl
  | raise e => exact Or.inl rfl
  | get k next => exact Or.inr Step.get
  | save c e next =>
    simp only [advance]
    split
    next hacc => exact Or.inr (Step.saved hacc)
    next hacc => exact Or.inr (Step.refused hacc)
  | ask q next => exact Or.inr (Step.ask (ha q))

theorem Reachable.advance {l : List σ} {ps qs : List (Prog κ σ ε A α)} {p : Prog κ σ ε A α}
    (h : Reachable env request ⟨l, ps ++ p :: qs⟩) {answer : (q : Q) → A q} (ha : ∀ q, env q (answer q)) :
    Reachable env request
      ⟨(DayMend.Base.advance answer (l, p)).1, ps ++ (DayMend.Base.advance answer (l, p)).2 :: qs⟩ := by
  rcases advance_eq_or_step ha l p with heq | hs
  · rw [heq]
    exact h
  · exact h.step hs

theorem Reachable.advances {ps qs : List (Prog κ σ ε A α)} {answer : (q : Q) → A q}
    (ha : ∀ q, env q (answer q)) (n : ℕ) : ∀ {l : List σ} {p : Prog κ σ ε A α},
    Reachable env request ⟨l, ps ++ p :: qs⟩ →
      Reachable env request
        ⟨(DayMend.Base.advances answer n (l, p)).1, ps ++ (DayMend.Base.advances answer n (l, p)).2 :: qs⟩ := by
  induction n with
  | zero => exact fun h => h
  | succ n ih => exact fun h => ih (h.advance ha)

theorem Reachable.turn {cfg : Config κ σ ε A α} (h : Reachable env request cfg) {t : Turn κ σ ε A α}
    (ht : t.Allowed env request) : Reachable env request (cfg.turn t) := by
  cases t with
  | spawn p => exact h.spawn ht
  | steps i n answer =>
    simp only [Config.turn]
    split
    next => exact h
    next p hp =>
      obtain ⟨hi, rfl⟩ := List.getElem?_eq_some_iff.mp hp
      have hsplit : cfg.threads = cfg.threads.take i ++ cfg.threads[i] :: cfg.threads.drop (i + 1) := by
        rw [← List.drop_eq_getElem_cons hi, List.take_append_drop]
      rw [List.set_eq_take_append_cons_drop, if_pos hi]
      exact Reachable.advances ht n (by rw [← hsplit]; exact h)

/-- **A schedule's run is reachable.** -/
theorem reachable_run {ts : List (Turn κ σ ε A α)} (h : ∀ t ∈ ts, t.Allowed env request) :
    Reachable env request (Config.run ts) := by
  suffices H : ∀ cfg : Config κ σ ε A α, Reachable env request cfg →
      Reachable env request (ts.foldl Config.turn cfg) from H _ Reachable.init
  induction ts with
  | nil => exact fun _ hcfg => hcfg
  | cons t ts ih =>
    intro cfg hcfg
    exact ih (fun u hu => h u (List.mem_cons_of_mem _ hu)) _ (hcfg.turn (h t (List.mem_cons_self ..)))

end Running

/-! ### What programs may save -/

/-- The rules of a store: what the world outside may answer, which values may be
saved at a new key, and which value may replace which, given the values seen. -/
structure Rules (σ : Type) {Q : Type} (A : Q → Type) where
  /-- What the world may answer. -/
  env : (q : Q) → A q → Prop
  /-- A value saved at a new key. -/
  init : σ → Prop
  /-- `step seen c c'`: a program that has seen `seen` may replace `c` by `c'`. -/
  step : Set σ → σ → σ → Prop
  /-- Seeing more forbids nothing. -/
  step_mono {s t : Set σ} {c c' : σ} : s ⊆ t → step s c c' → step t c c'

namespace Rules

variable [Versioned κ σ] (R : Rules σ A)

/-- What a save must satisfy when the program has seen `seen`: it is an allowed
step from a value of the same key that the program saw with the version it expects. -/
def Justified (seen : Set σ) (c : σ) : Option ℕ → Prop
  | none => R.init c
  | some v => ∃ c₀ ∈ seen, key c₀ = key c ∧ version c₀ = v ∧ R.step {x ∈ seen | key x = key c} c₀ c

/-- **The precondition** of a program for a postcondition on what it has seen and
returns: every save it makes is justified. A program that fails meets any postcondition. -/
def wp : Prog κ σ ε A α → Set σ → (Set σ → α → Prop) → Prop
  | .ret a, seen, post => post seen a
  | .raise _, _, _ => True
  | .get k next, seen, post =>
    (∀ c, key c = k → wp (next (some c)) (insert c seen) post) ∧ wp (next none) seen post
  | .save c e next, seen, post =>
    R.Justified seen c e ∧ wp (next (some (stored c e))) (insert (stored c e) seen) post ∧ wp (next none) seen post
  | .ask q next, seen, post => ∀ a, R.env q a → wp (next a) seen post

variable {R}

theorem wp_mono {p : Prog κ σ ε A α} {post post' : Set σ → α → Prop} (h : ∀ s a, post s a → post' s a) :
    ∀ {seen : Set σ}, R.wp p seen post → R.wp p seen post' := by
  induction p with
  | ret a => exact fun hp => h _ _ hp
  | raise e => exact fun hp => hp
  | get k next ih => exact fun hp => ⟨fun c hc => ih _ (hp.1 c hc), ih _ hp.2⟩
  | save c e next ih => exact fun hp => ⟨hp.1, ih _ hp.2.1, ih _ hp.2.2⟩
  | ask q next ih => exact fun hp a ha => ih _ (hp a ha)

/-- What a program has seen, it has still seen later. -/
theorem wp_subset {p : Prog κ σ ε A α} {post : Set σ → α → Prop} :
    ∀ {seen : Set σ}, R.wp p seen post → R.wp p seen fun s a => seen ⊆ s ∧ post s a := by
  induction p with
  | ret a => exact fun hp => ⟨subset_rfl, hp⟩
  | raise e => exact fun hp => hp
  | get k next ih =>
    intro seen hp
    refine ⟨fun c hc => ?_, ih _ hp.2⟩
    exact wp_mono (fun _ _ h => ⟨(Set.subset_insert ..).trans h.1, h.2⟩) (ih _ (hp.1 c hc))
  | save c e next ih =>
    intro seen hp
    refine ⟨hp.1, ?_, ih _ hp.2.2⟩
    exact wp_mono (fun _ _ h => ⟨(Set.subset_insert ..).trans h.1, h.2⟩) (ih _ hp.2.1)
  | ask q next ih => exact fun hp a ha => ih _ (hp a ha)

theorem wp_bind {p : Prog κ σ ε A α} {f : α → Prog κ σ ε A β} {post : Set σ → β → Prop} :
    ∀ {seen : Set σ}, R.wp (p >>= f) seen post ↔ R.wp p seen fun s a => R.wp (f a) s post := by
  change ∀ {seen : Set σ}, R.wp (p.bind f) seen post ↔ _
  induction p with
  | ret a => exact Iff.rfl
  | raise e => exact Iff.rfl
  | get k next ih => exact and_congr (forall_congr' fun c => imp_congr_right fun _ => ih _) (ih _)
  | save c e next ih => exact and_congr Iff.rfl (and_congr (ih _) (ih _))
  | ask q next ih => exact forall_congr' fun a => imp_congr_right fun _ => ih _

/-- What the rules allow, rules that allow more do too. -/
theorem wp_weaken {R' : Rules σ A} (henv : ∀ q a, R'.env q a → R.env q a) (hinit : ∀ c, R.init c → R'.init c)
    (hstep : ∀ s c c', R.step s c c' → R'.step s c c') {p : Prog κ σ ε A α} {post : Set σ → α → Prop} :
    ∀ {seen : Set σ}, R.wp p seen post → R'.wp p seen post := by
  induction p with
  | ret a => exact fun hp => hp
  | raise e => exact fun hp => hp
  | get k next ih => exact fun hp => ⟨fun c hc => ih _ (hp.1 c hc), ih _ hp.2⟩
  | save c e next ih =>
    refine fun hp => ⟨?_, ih _ hp.2.1, ih _ hp.2.2⟩
    cases e with
    | none => exact hinit c hp.1
    | some v =>
      obtain ⟨c₀, hc₀, hkey, hversion, h⟩ := hp.1
      exact ⟨c₀, hc₀, hkey, hversion, hstep _ _ _ h⟩
  | ask q next ih => exact fun hp a ha => ih _ (hp a (henv q a ha))

theorem wp_mapError {f : ε → ε} {p : Prog κ σ ε A α} {post : Set σ → α → Prop} :
    ∀ {seen : Set σ}, R.wp (p.mapError f) seen post ↔ R.wp p seen post := by
  induction p with
  | ret a => exact Iff.rfl
  | raise e => exact Iff.rfl
  | get k next ih => exact and_congr (forall_congr' fun c => imp_congr_right fun _ => ih _) (ih _)
  | save c e next ih => exact and_congr Iff.rfl (and_congr (ih _) (ih _))
  | ask q next ih => exact forall_congr' fun a => imp_congr_right fun _ => ih _

@[simp] theorem wp_pure {a : α} {seen : Set σ} {post : Set σ → α → Prop} :
    R.wp (pure a : Prog κ σ ε A α) seen post ↔ post seen a := Iff.rfl

@[simp] theorem wp_raise {e : ε} {seen : Set σ} {post : Set σ → α → Prop} :
    R.wp (Prog.raise e : Prog κ σ ε A α) seen post := trivial

theorem wp_ofExcept {x : Except ε α} {seen : Set σ} {post : Set σ → α → Prop} :
    R.wp (Prog.ofExcept x : Prog κ σ ε A α) seen post ↔ ∀ a, x = .ok a → post seen a := by
  cases x with
  | error e => simp [Prog.ofExcept]
  | ok a => simp [Prog.ofExcept, wp]

/-! ### Histories -/

variable (R)

/-- The successive values at a key, newest first: each is an allowed step from the
one before it, made with nothing but earlier values of the key in sight. -/
inductive Hist : List σ → Prop where
  /-- Nothing yet. -/
  | nil : Hist []
  /-- The first value. -/
  | start {c : σ} (h : R.init c) : Hist [stored c none]
  /-- A value replaced by the next. -/
  | step {c c' : σ} {past : List σ} (h : Hist (c :: past)) (hs : R.step {x | x ∈ c :: past} c c') :
      Hist (stored c' (some (version c)) :: c :: past)

variable {R}

/-- Versions only grow along a history. -/
theorem Hist.pairwise_version {l : List σ} (h : R.Hist l) : l.Pairwise fun c d => version d < version c := by
  induction h with
  | nil => exact List.Pairwise.nil
  | start => exact List.pairwise_singleton ..
  | step _ _ ih =>
    refine List.Pairwise.cons (fun d hd => ?_) ih
    rw [stored, Versioned.version_setVersion, Option.getD_some, Nat.lt_succ_iff]
    rcases List.mem_cons.mp hd with rfl | hd
    · exact le_rfl
    · exact (List.rel_of_pairwise_cons ih hd).le

/-- In a history the version tells the value. -/
theorem Hist.eq_head_of_version {c d : σ} {past : List σ} (h : R.Hist (c :: past)) (hd : d ∈ c :: past)
    (hv : version d = version c) : d = c := by
  rcases List.mem_cons.mp hd with rfl | hd
  · rfl
  · exact absurd hv (List.rel_of_pairwise_cons h.pairwise_version hd).ne

theorem Hist.of_append {newer l : List σ} (h : R.Hist (newer ++ l)) : R.Hist l := by
  induction newer with
  | nil => exact h
  | cons a newer ih =>
    apply ih
    cases hl : newer ++ l with
    | nil => exact Hist.nil
    | cons b past =>
      rw [List.cons_append, hl] at h
      cases h with
      | step h _ => exact h

/-- **Induction on the newest value** of a history. -/
@[elab_as_elim]
theorem Hist.head_induction {motive : ∀ (c : σ) (past : List σ), R.Hist (c :: past) → Prop}
    (start : ∀ c (h : R.init c), motive (stored c none) [] (.start h))
    (step : ∀ c c' past (h : R.Hist (c :: past)) (hs : R.step {x | x ∈ c :: past} c c'), motive c past h →
      motive (stored c' (some (version c))) (c :: past) (.step h hs)) :
    ∀ {c : σ} {past : List σ} (h : R.Hist (c :: past)), motive c past h
  | _, _, .start h => start _ h
  | _, _, .step h hs => step _ _ _ h hs (head_induction start step h)

/-- What holds of every first value and is kept by every allowed step, where `P` holds of the values stored, holds of
every value of a history of such values. -/
theorem Hist.forall_mem_of {P I : σ → Prop} (hinit : ∀ c, R.init c → P (stored c none) → I (stored c none))
    (hstep : ∀ past c c', R.Hist (c :: past) → (∀ x ∈ c :: past, I x) → R.step {x | x ∈ c :: past} c c' →
      P (stored c' (some (version c))) → I (stored c' (some (version c)))) {l : List σ} (h : R.Hist l)
    (hP : ∀ x ∈ l, P x) : ∀ x ∈ l, I x := by
  induction h with
  | nil => simp
  | start h => simpa using hinit _ h (hP _ (List.mem_singleton.mpr rfl))
  | step h hs ih =>
    obtain ⟨hnew, hold⟩ := List.forall_mem_cons.mp hP
    intro x hx
    rcases List.mem_cons.mp hx with rfl | hx
    · exact hstep _ _ _ h (ih hold) hs hnew
    · exact ih hold x hx

/-- What holds of every first value and is kept by every allowed step holds of every value ever stored. -/
theorem Hist.forall_mem {I : σ → Prop} (hinit : ∀ c, R.init c → I (stored c none))
    (hstep : ∀ past c c', R.Hist (c :: past) → (∀ x ∈ c :: past, I x) → R.step {x | x ∈ c :: past} c c' →
      I (stored c' (some (version c)))) {l : List σ} (h : R.Hist l) : ∀ x ∈ l, I x :=
  h.forall_mem_of (fun c hc _ => hinit c hc) (fun past c c' hist hold hs _ => hstep past c c' hist hold hs)
    fun _ _ => trivial

/-- What holds between a value and its successor, and is kept from step to step, holds between any value of a
history and the newest. -/
theorem Hist.rel_of_mem {r : σ → σ → Prop} (hrefl : ∀ c, r c c) (htrans : ∀ {a b c}, r a b → r b c → r a c)
    (hstep : ∀ seen c c', R.step seen c c' → r c (stored c' (some (version c)))) {c : σ} {past : List σ}
    (h : R.Hist (c :: past)) : ∀ d ∈ c :: past, r d c := by
  induction h using Hist.head_induction with
  | start c _ =>
    intro d hd
    rw [List.mem_singleton.mp hd]
    exact hrefl _
  | step c₀ c₁ older _ hs ih =>
    intro d hd
    rcases List.mem_cons.mp hd with rfl | hd
    · exact hrefl _
    · exact htrans (ih d hd) (hstep _ _ _ hs)

/-! ### Soundness -/

variable [DecidableEq κ]

/-- What is kept while programs take turns: every key has a history, and what each
program has left to do meets its precondition for what it has seen. -/
structure Invariant (R : Rules σ A) (cfg : Config κ σ ε A α) : Prop where
  hist (k : κ) : R.Hist (versions cfg.saved k)
  threads (p : Prog κ σ ε A α) (hp : p ∈ cfg.threads) :
    ∃ seen ⊆ {x | x ∈ cfg.saved}, R.wp p seen fun _ _ => True

/-- An accepted and justified save extends the history of its key. -/
theorem hist_stored {l : List σ} (hl : ∀ k, R.Hist (versions l k)) {seen : Set σ} (hseen : seen ⊆ {x | x ∈ l})
    {c : σ} {e : Option ℕ} (hj : R.Justified seen c e) (ha : Accepts l c e) (k : κ) :
    R.Hist (versions (stored c e :: l) k) := by
  by_cases hk : key c = k
  · subst hk
    have hv : versions (stored c e :: l) (key c) = stored c e :: versions l (key c) := by simp [versions]
    rw [hv]
    rw [Accepts, current_eq_head?] at ha
    have hist := hl (key c)
    have hmem : ∀ x ∈ seen, key x = key c → x ∈ versions l (key c) := fun x hx hxk =>
      List.mem_filter.mpr ⟨hseen hx, by simpa using hxk⟩
    cases e with
    | none =>
      have : versions l (key c) = [] := by
        rw [← List.head?_eq_none_iff]
        simpa using ha
      rw [this]
      exact Hist.start hj
    | some v =>
      obtain ⟨c₀, hc₀, hk₀, rfl, hs⟩ := hj
      have hm := hmem c₀ hc₀ hk₀
      cases hvs : versions l (key c) with
      | nil => simp [hvs] at hm
      | cons d past =>
        rw [hvs] at ha hm hist hmem
        have hd : version d = version c₀ := by simpa using ha
        -- the value seen with the stored version is the stored value
        have hcd : c₀ = d := hist.eq_head_of_version hm hd.symm
        subst hcd
        exact Hist.step hist (R.step_mono (fun x hx => hmem x hx.1 hx.2) hs)
  · have hv : versions (stored c e :: l) k = versions l k := by simp [versions, hk]
    rw [hv]
    exact hl k

/-- The values already saved stay saved. -/
theorem saved_subset_of_step {env : (q : Q) → A q → Prop} {l l' : List σ} {p p' : Prog κ σ ε A α}
    (h : Step env l p l' p') : l ⊆ l' := by
  cases h with
  | get => exact List.Subset.refl _
  | saved => exact List.subset_cons_self ..
  | refused => exact List.Subset.refl _
  | ask => exact List.Subset.refl _

theorem Invariant.step {l l' : List σ} {ps qs : List (Prog κ σ ε A α)} {p p' : Prog κ σ ε A α}
    (h : Invariant R ⟨l, ps ++ p :: qs⟩) (hs : Step R.env l p l' p') : Invariant R ⟨l', ps ++ p' :: qs⟩ := by
  obtain ⟨seen, hseen, hwp⟩ := h.threads p (by simp)
  have hold : ∀ p₁ ∈ ps ++ qs, ∃ seen ⊆ {x | x ∈ l'}, R.wp p₁ seen fun _ _ => True := fun p₁ hp₁ => by
    obtain ⟨s₁, hs₁, hw₁⟩ := h.threads p₁ (by simp at hp₁ ⊢; tauto)
    exact ⟨s₁, fun x hx => saved_subset_of_step hs (hs₁ hx), hw₁⟩
  have hthreads : (∃ seen ⊆ {x | x ∈ l'}, R.wp p' seen fun _ _ => True) →
      ∀ p₁ ∈ ps ++ p' :: qs, ∃ seen ⊆ {x | x ∈ l'}, R.wp p₁ seen fun _ _ => True := fun hp' p₁ hp₁ => by
    rcases List.mem_append.mp hp₁ with hp₁ | hp₁
    · exact hold p₁ (List.mem_append_left _ hp₁)
    · rcases List.mem_cons.mp hp₁ with rfl | hp₁
      · exact hp'
      · exact hold p₁ (List.mem_append_right _ hp₁)
  have hsub : seen ⊆ {x | x ∈ l'} := fun x hx => saved_subset_of_step hs (hseen hx)
  cases hs with
  | @get k next =>
    refine ⟨h.hist, hthreads ?_⟩
    cases hc : current l k with
    | none => exact ⟨seen, hseen, hwp.2⟩
    | some c =>
      have hm : c ∈ l := List.mem_of_find?_eq_some hc
      exact ⟨insert c seen, Set.insert_subset hm hseen, hwp.1 c (key_of_current hc)⟩
  | saved hacc =>
    exact ⟨hist_stored h.hist hseen hwp.1 hacc,
      hthreads ⟨insert _ seen, Set.insert_subset (List.mem_cons_self ..) hsub, hwp.2.1⟩⟩
  | refused => exact ⟨h.hist, hthreads ⟨seen, hseen, hwp.2.2⟩⟩
  | ask ha => exact ⟨h.hist, hthreads ⟨seen, hseen, hwp _ ha⟩⟩

theorem invariant_of_reachable {request : Prog κ σ ε A α → Prop}
    (hreq : ∀ p, request p → R.wp p ∅ fun _ _ => True) {cfg : Config κ σ ε A α}
    (h : Reachable R.env request cfg) : Invariant R cfg := by
  induction h with
  | init => exact ⟨fun _ => Hist.nil, by simp⟩
  | spawn _ hp ih =>
    refine ⟨ih.hist, fun p₁ hp₁ => ?_⟩
    rcases List.mem_append.mp hp₁ with hp₁ | hp₁
    · exact ih.threads p₁ hp₁
    · exact ⟨∅, Set.empty_subset _, List.mem_singleton.mp hp₁ ▸ hreq _ hp⟩
  | step _ hs ih => exact ih.step hs

/-- **Soundness**: whatever the order of turns, the values at each key form a history. -/
theorem hist_of_reachable {request : Prog κ σ ε A α → Prop}
    (hreq : ∀ p, request p → R.wp p ∅ fun _ _ => True) {cfg : Config κ σ ε A α}
    (h : Reachable R.env request cfg) (k : κ) : R.Hist (versions cfg.saved k) :=
  (invariant_of_reachable hreq h).hist k

end Rules

end DayMend.Base
