import DayMend.Base.Store

/-!
# Programs running alone

What a program does when no other program takes a turn before it has finished: from one
log it comes to another, and returns or raises (`Prog.Ends`). How programs are composed
is said once (`ends_bind`, and `always_bind` for what holds however they end); a program
that runs alone among others is a run of all of them (`Reachable.exists_ends`), and what
the scheduler computes is such a run (`ends_of_result?`).
-/

namespace DayMend.Base

variable {κ σ ε Q : Type} {A : Q → Type} {α β : Type} [Versioned κ σ] [DecidableEq κ]
  (env : (q : Q) → A q → Prop)

/-- **Running alone** from the log `l`, a program may end with the log `l'` and the result `r`. -/
def Prog.Ends : Prog κ σ ε A α → List σ → List σ → Except ε α → Prop
  | .ret a, l, l', r => l' = l ∧ r = .ok a
  | .raise e, l, l', r => l' = l ∧ r = .error e
  | .get k next, l, l', r => (next (current l k)).Ends l l' r
  | .save c e next, l, l', r =>
    if Accepts l c e then (next (some (stored c e))).Ends (stored c e :: l) l' r else (next none).Ends l l' r
  | .ask q next, l, l', r => ∃ a, env q a ∧ (next a).Ends l l' r

/-- **The precondition** of a program that runs alone from the log `l`: when it returns, the postcondition holds of
the log and its result, and when it raises, `fail` holds of the log and the failure. -/
def Prog.Always : Prog κ σ ε A α → List σ → (List σ → α → Prop) → (List σ → ε → Prop) → Prop
  | .ret a, l, post, _ => post l a
  | .raise e, l, _, fail => fail l e
  | .get k next, l, post, fail => (next (current l k)).Always l post fail
  | .save c e next, l, post, fail =>
    if Accepts l c e then (next (some (stored c e))).Always (stored c e :: l) post fail
    else (next none).Always l post fail
  | .ask q next, l, post, fail => ∀ a, env q a → (next a).Always l post fail

variable {env} {l l' : List σ} {r : Except ε β} {p : Prog κ σ ε A α} {post : List σ → β → Prop}
  {fail : List σ → ε → Prop}

/-- The first program raises, or the second goes on from its result. -/
theorem ends_bind {f : α → Prog κ σ ε A β} : ∀ {l : List σ}, (p >>= f).Ends env l l' r ↔
    (∃ l₁ a, p.Ends env l l₁ (.ok a) ∧ (f a).Ends env l₁ l' r) ∨ ∃ e, p.Ends env l l' (.error e) ∧ r = .error e := by
  change ∀ {l : List σ}, (p.bind f).Ends env l l' r ↔ _
  induction p with
  | ret a => simp [Prog.bind, Prog.Ends]
  | raise e => simp [Prog.bind, Prog.Ends]
  | get k next ih => exact ih _
  | save c e next ih =>
    intro l
    simp only [Prog.bind, Prog.Ends]
    split
    · exact ih _
    · exact ih _
  | ask q next ih =>
    intro l
    simp only [Prog.bind, Prog.Ends, ih]
    constructor
    · rintro ⟨a, ha, ⟨l₁, b, hb, hf⟩ | ⟨e, he, hr⟩⟩
      · exact Or.inl ⟨l₁, b, ⟨a, ha, hb⟩, hf⟩
      · exact Or.inr ⟨e, ⟨a, ha, he⟩, hr⟩
    · rintro (⟨l₁, b, ⟨a, ha, hb⟩, hf⟩ | ⟨e, ⟨a, ha, he⟩, hr⟩)
      · exact ⟨a, ha, Or.inl ⟨l₁, b, hb, hf⟩⟩
      · exact ⟨a, ha, Or.inr ⟨e, he, hr⟩⟩

/-- Two programs return when each of them does. -/
theorem ends_bind_ok {f : α → Prog κ σ ε A β} {l : List σ} {b : β} : (p >>= f).Ends env l l' (.ok b) ↔
    ∃ l₁ a, p.Ends env l l₁ (.ok a) ∧ (f a).Ends env l₁ l' (.ok b) := by
  rw [ends_bind]
  constructor
  · rintro (h | ⟨e, -, ⟨⟩⟩)
    exact h
  · exact Or.inl

/-- The second program goes on from where the first ended. -/
theorem Prog.Ends.bind {f : α → Prog κ σ ε A β} {l₁ : List σ} {a : α} (hp : p.Ends env l l₁ (.ok a))
    (hf : (f a).Ends env l₁ l' r) : (p >>= f).Ends env l l' r :=
  ends_bind.mpr (Or.inl ⟨l₁, a, hp, hf⟩)

theorem ends_ofExcept {x : Except ε β} : (Prog.ofExcept x : Prog κ σ ε A β).Ends env l l' r ↔ l' = l ∧ r = x := by
  cases x <;> rfl

/-- Changing failures changes what is raised and nothing else. -/
theorem ends_mapError {f : ε → ε} {p : Prog κ σ ε A β} : ∀ {l : List σ}, (p.mapError f).Ends env l l' r ↔
    ∃ r', p.Ends env l l' r' ∧ r = r'.mapError f := by
  induction p with
  | ret a => simp [Prog.mapError, Prog.Ends, Except.mapError]
  | raise e => simp [Prog.mapError, Prog.Ends, Except.mapError]
  | get k next ih => exact ih _
  | save c e next ih =>
    intro l
    simp only [Prog.mapError, Prog.Ends]
    split
    · exact ih _
    · exact ih _
  | ask q next ih =>
    intro l
    simp only [Prog.mapError, Prog.Ends, ih]
    constructor
    · rintro ⟨a, ha, r', hr', hr⟩
      exact ⟨r', ⟨a, ha, hr'⟩, hr⟩
    · rintro ⟨r', ⟨a, ha, hr'⟩, hr⟩
      exact ⟨a, ha, r', hr', hr⟩

theorem always_bind {f : α → Prog κ σ ε A β} : ∀ {l : List σ}, (p >>= f).Always env l post fail ↔
    p.Always env l (fun l₁ a => (f a).Always env l₁ post fail) fail := by
  change ∀ {l : List σ}, (p.bind f).Always env l post fail ↔ _
  induction p with
  | ret a => exact Iff.rfl
  | raise e => exact Iff.rfl
  | get k next ih => exact ih _
  | save c e next ih =>
    intro l
    simp only [Prog.bind, Prog.Always]
    split
    · exact ih _
    · exact ih _
  | ask q next ih => exact forall_congr' fun a => imp_congr_right fun _ => ih a

theorem Prog.Always.imp {p : Prog κ σ ε A β} {post' : List σ → β → Prop} {fail' : List σ → ε → Prop}
    (hpost : ∀ l₁ b, post l₁ b → post' l₁ b) (hfail : ∀ l₁ e, fail l₁ e → fail' l₁ e) :
    ∀ {l : List σ}, p.Always env l post fail → p.Always env l post' fail' := by
  induction p with
  | ret a => exact fun h => hpost _ _ h
  | raise e => exact fun h => hfail _ _ h
  | get k next ih => exact fun h => ih _ h
  | save c e next ih =>
    intro l h
    rw [Prog.Always] at h ⊢
    split at h
    next hacc =>
      rw [if_pos hacc]
      exact ih _ h
    next hacc =>
      rw [if_neg hacc]
      exact ih _ h
  | ask q next ih => exact fun h a ha => ih a (h a ha)

theorem Prog.Always.mono {p : Prog κ σ ε A β} {post' : List σ → β → Prop} (hpost : ∀ l₁ b, post l₁ b → post' l₁ b)
    {l : List σ} (h : p.Always env l post fail) : p.Always env l post' fail :=
  h.imp hpost fun _ _ he => he

theorem always_ofExcept {x : Except ε β} :
    (Prog.ofExcept x : Prog κ σ ε A β).Always env l post fail ↔
      (∀ b, x = .ok b → post l b) ∧ ∀ e, x = .error e → fail l e := by
  cases x with
  | error e => simp [Prog.ofExcept, Prog.Always]
  | ok b => simp [Prog.ofExcept, Prog.Always]

/-- **Soundness**: however a program ends when it runs alone, it ends as its precondition says. -/
theorem Prog.Always.of_ends {p : Prog κ σ ε A β} :
    ∀ {l : List σ}, p.Always env l post fail → p.Ends env l l' r →
      (∀ b, r = .ok b → post l' b) ∧ ∀ e, r = .error e → fail l' e := by
  induction p with
  | ret a =>
    rintro l h ⟨rfl, rfl⟩
    exact ⟨fun b hb => Except.ok.inj hb ▸ h, fun e he => by cases he⟩
  | raise e =>
    rintro l h ⟨rfl, rfl⟩
    exact ⟨fun b hb => (by cases hb), fun e' he => Except.error.inj he ▸ h⟩
  | get k next ih => exact fun h hends => ih _ h hends
  | save c e next ih =>
    intro l h hends
    rw [Prog.Always] at h
    rw [Prog.Ends] at hends
    split at h
    next hacc =>
      rw [if_pos hacc] at hends
      exact ih _ h hends
    next hacc =>
      rw [if_neg hacc] at hends
      exact ih _ h hends
  | ask q next ih =>
    rintro l h ⟨a, ha, hends⟩
    exact ih a (h a ha) hends

/-- **Completeness**: what holds however the program ends is its precondition. -/
theorem always_of_ends {p : Prog κ σ ε A β} : ∀ {l : List σ}, (∀ l' b, p.Ends env l l' (.ok b) → post l' b) →
    (∀ l' e, p.Ends env l l' (.error e) → fail l' e) → p.Always env l post fail := by
  induction p with
  | ret a => exact fun hpost _ => hpost _ a ⟨rfl, rfl⟩
  | raise e => exact fun _ hfail => hfail _ e ⟨rfl, rfl⟩
  | get k next ih => exact fun hpost hfail => ih _ hpost hfail
  | save c e next ih =>
    intro l hpost hfail
    simp only [Prog.Ends] at hpost hfail
    rw [Prog.Always]
    split
    next hacc =>
      simp only [if_pos hacc] at hpost hfail
      exact ih _ hpost hfail
    next hacc =>
      simp only [if_neg hacc] at hpost hfail
      exact ih _ hpost hfail
  | ask q next ih =>
    exact fun hpost hfail a ha => ih a (fun l' b h => hpost l' b ⟨a, ha, h⟩) fun l' e h => hfail l' e ⟨a, ha, h⟩

/-- What holds when the program returns, and that it has returned so. -/
theorem Prog.Always.with_ends {p : Prog κ σ ε A β} (h : p.Always env l post fail) :
    p.Always env l (fun l₁ b => post l₁ b ∧ p.Ends env l l₁ (.ok b)) fail :=
  always_of_ends (fun _ b hends => ⟨(h.of_ends hends).1 b rfl, hends⟩) fun _ e hends => (h.of_ends hends).2 e rfl

theorem always_mapError {f : ε → ε} {p : Prog κ σ ε A β} : ∀ {l : List σ}, (p.mapError f).Always env l post fail ↔
    p.Always env l post fun l₁ e => fail l₁ (f e) := by
  induction p with
  | ret a => exact Iff.rfl
  | raise e => exact Iff.rfl
  | get k next ih => exact ih _
  | save c e next ih =>
    intro l
    simp only [Prog.mapError, Prog.Always]
    split
    · exact ih _
    · exact ih _
  | ask q next ih => exact forall_congr' fun a => imp_congr_right fun _ => ih a

/-- Where every question has an answer, every program comes to an end. -/
theorem Prog.exists_ends (henv : ∀ q, ∃ a, env q a) (p : Prog κ σ ε A β) :
    ∀ l : List σ, ∃ l' r, p.Ends env l l' r := by
  induction p with
  | ret a => exact fun l => ⟨l, .ok a, rfl, rfl⟩
  | raise e => exact fun l => ⟨l, .error e, rfl, rfl⟩
  | get k next ih => exact fun l => ih _ l
  | save c e next ih =>
    intro l
    by_cases hacc : Accepts l c e
    · obtain ⟨l', r, h⟩ := ih (some (stored c e)) (stored c e :: l)
      exact ⟨l', r, by rw [Prog.Ends, if_pos hacc]; exact h⟩
    · obtain ⟨l', r, h⟩ := ih none l
      exact ⟨l', r, by rw [Prog.Ends, if_neg hacc]; exact h⟩
  | ask q next ih =>
    intro l
    obtain ⟨a, ha⟩ := henv q
    obtain ⟨l', r, h⟩ := ih a l
    exact ⟨l', r, a, ha, h⟩

/-- A save for the version that is stored is accepted. -/
theorem accepts_of_current {c c' : σ} (h : current l (key c') = some c) : Accepts l c' (some (version c)) := by
  rw [Accepts, h]
  rfl

/-! ### What a program asks -/

variable (env) in
/-- **Running alone** from the log `l`, a program may ask the questions in `asked`, be answered as it says there, and
end with the log `l'` and the result `r`. -/
def Prog.EndsAsking : Prog κ σ ε A α → List σ → List ((q : Q) × A q) → List σ → Except ε α → Prop
  | .ret a, l, asked, l', r => asked = [] ∧ l' = l ∧ r = .ok a
  | .raise e, l, asked, l', r => asked = [] ∧ l' = l ∧ r = .error e
  | .get k next, l, asked, l', r => (next (current l k)).EndsAsking l asked l' r
  | .save c e next, l, asked, l', r =>
    if Accepts l c e then (next (some (stored c e))).EndsAsking (stored c e :: l) asked l' r
    else (next none).EndsAsking l asked l' r
  | .ask q next, l, asked, l', r => ∃ a later, env q a ∧ asked = ⟨q, a⟩ :: later ∧ (next a).EndsAsking l later l' r

variable {asked : List ((q : Q) × A q)}

/-- The first program raises, or the second goes on from its result, with its own questions. -/
theorem endsAsking_bind {f : α → Prog κ σ ε A β} : ∀ {l : List σ} {asked : List ((q : Q) × A q)},
    (p >>= f).EndsAsking env l asked l' r ↔
      (∃ l₁ a first second, asked = first ++ second ∧ p.EndsAsking env l first l₁ (.ok a) ∧
        (f a).EndsAsking env l₁ second l' r) ∨
      ∃ e, p.EndsAsking env l asked l' (.error e) ∧ r = .error e := by
  change ∀ {l : List σ} {asked : List ((q : Q) × A q)}, (p.bind f).EndsAsking env l asked l' r ↔ _
  induction p with
  | ret a => simp [Prog.bind, Prog.EndsAsking]
  | raise e => simp [Prog.bind, Prog.EndsAsking, and_assoc]
  | get k next ih => exact ih _
  | save c e next ih =>
    intro l asked
    simp only [Prog.bind, Prog.EndsAsking]
    split
    · exact ih _
    · exact ih _
  | ask q next ih =>
    intro l asked
    simp only [Prog.bind, Prog.EndsAsking, ih]
    constructor
    · rintro ⟨a, later, ha, rfl, ⟨l₁, b, first, second, rfl, hb, hf⟩ | ⟨e, he, hr⟩⟩
      · exact Or.inl ⟨l₁, b, ⟨q, a⟩ :: first, second, rfl, ⟨a, first, ha, rfl, hb⟩, hf⟩
      · exact Or.inr ⟨e, ⟨a, later, ha, rfl, he⟩, hr⟩
    · rintro (⟨l₁, b, first, second, rfl, ⟨a, later, ha, rfl, hb⟩, hf⟩ | ⟨e, ⟨a, later, ha, rfl, he⟩, hr⟩)
      · exact ⟨a, later ++ second, ha, rfl, Or.inl ⟨l₁, b, later, second, rfl, hb, hf⟩⟩
      · exact ⟨a, later, ha, rfl, Or.inr ⟨e, he, hr⟩⟩

/-- A program that asks nothing and can only end well hands its result on. -/
theorem endsAsking_bind_of_ok {f : α → Prog κ σ ε A β} {l l₁ : List σ} {a : α}
    (hp : ∀ {asked : List ((q : Q) × A q)} {l' : List σ} {r : Except ε α},
      p.EndsAsking env l asked l' r ↔ asked = [] ∧ l' = l₁ ∧ r = .ok a) {asked : List ((q : Q) × A q)} :
    (p >>= f).EndsAsking env l asked l' r ↔ (f a).EndsAsking env l₁ asked l' r := by
  rw [endsAsking_bind]
  constructor
  · rintro (⟨_, _, first, second, rfl, hfirst, h⟩ | ⟨e, he, -⟩)
    · obtain ⟨rfl, rfl, hok⟩ := hp.mp hfirst
      obtain rfl := Except.ok.inj hok
      exact h
    · cases (hp.mp he).2.2
  · intro h
    exact Or.inl ⟨l₁, a, [], asked, rfl, hp.mpr ⟨rfl, rfl, rfl⟩, h⟩

theorem endsAsking_ofExcept {x : Except ε β} :
    (Prog.ofExcept x : Prog κ σ ε A β).EndsAsking env l asked l' r ↔ asked = [] ∧ l' = l ∧ r = x := by
  cases x <;> rfl

/-- **Every way to end** has its questions and answers. -/
theorem ends_iff_exists_asked {p : Prog κ σ ε A β} :
    ∀ {l : List σ}, p.Ends env l l' r ↔ ∃ asked, p.EndsAsking env l asked l' r := by
  induction p with
  | ret a => simp [Prog.Ends, Prog.EndsAsking]
  | raise e => simp [Prog.Ends, Prog.EndsAsking]
  | get k next ih => exact ih _
  | save c e next ih =>
    intro l
    simp only [Prog.Ends, Prog.EndsAsking]
    split
    · exact ih _
    · exact ih _
  | ask q next ih =>
    intro l
    simp only [Prog.Ends, Prog.EndsAsking, ih]
    constructor
    · rintro ⟨a, ha, later, h⟩
      exact ⟨_, a, later, ha, rfl, h⟩
    · rintro ⟨_, a, later, ha, -, h⟩
      exact ⟨a, ha, later, h⟩

/-! ### Programs that save nothing -/

/-- Whatever it is answered, a program saves nothing. -/
def Prog.Saveless : Prog κ σ ε A α → Prop
  | .ret _ => True
  | .raise _ => True
  | .get _ next => ∀ r, (next r).Saveless
  | .save _ _ _ => False
  | .ask _ next => ∀ a, (next a).Saveless

omit [Versioned κ σ] [DecidableEq κ] in
theorem Prog.Saveless.bind {f : α → Prog κ σ ε A β} (hp : p.Saveless) (hf : ∀ a, (f a).Saveless) :
    (p >>= f).Saveless := by
  change (p.bind f).Saveless
  induction p with
  | ret a => exact hf a
  | raise e => trivial
  | get k next ih => exact fun r => ih r (hp r)
  | save c e next _ => exact hp.elim
  | ask q next ih => exact fun a => ih a (hp a)

omit [Versioned κ σ] [DecidableEq κ] in
theorem Prog.saveless_ofExcept (x : Except ε α) : (Prog.ofExcept x : Prog κ σ ε A α).Saveless := by
  cases x <;> trivial

/-- **A program that saves nothing** leaves the log as it was. -/
theorem Prog.Saveless.log_eq {p : Prog κ σ ε A β} (hp : p.Saveless) (h : p.Ends env l l' r) : l' = l := by
  induction p with
  | ret a => exact h.1
  | raise e => exact h.1
  | get k next ih => exact ih _ (hp _) h
  | save c e next _ => exact hp.elim
  | ask q next ih =>
    obtain ⟨a, -, h⟩ := h
    exact ih a (hp a) h

/-- A program that saves nothing, however it ends. -/
theorem Prog.Saveless.always {p : Prog κ σ ε A β} (hp : p.Saveless)
    (hpost : ∀ b, p.Ends env l l (.ok b) → post l b) (hfail : ∀ e, fail l e) : p.Always env l post fail := by
  refine always_of_ends (fun l' b h => ?_) fun l' e h => ?_
  · obtain rfl := hp.log_eq h
    exact hpost b h
  · obtain rfl := hp.log_eq h
    exact hfail e

/-- **What a program returns** when it runs alone meets its postcondition. -/
theorem Prog.Ends.post_of_wp {R : Rules σ A} {p : Prog κ σ ε A β} {post : Set σ → β → Prop} {b : β} :
    ∀ {seen : Set σ} {l : List σ}, R.wp p seen post → p.Ends R.env l l' (.ok b) → ∃ seen, post seen b := by
  induction p with
  | ret a =>
    rintro seen l hp ⟨-, hb⟩
    exact ⟨seen, Except.ok.inj hb ▸ hp⟩
  | raise e =>
    rintro seen l - ⟨-, hb⟩
    cases hb
  | get k next ih =>
    intro seen l hp h
    rw [Prog.Ends] at h
    cases hc : current l k with
    | none => exact ih _ hp.2 (hc ▸ h)
    | some c => exact ih _ (hp.1 c (key_of_current hc)) (hc ▸ h)
  | save c e next ih =>
    intro seen l hp h
    rw [Prog.Ends] at h
    split at h
    · exact ih _ hp.2.1 h
    · exact ih _ hp.2.2 h
  | ask q next ih =>
    rintro seen l hp ⟨a, ha, h⟩
    exact ih a (hp a ha) h

/-! ### Runs -/

variable {request : Prog κ σ ε A β → Prop}

/-- **A program that runs alone** among others that wait: the configuration that it leads to is reachable. -/
theorem Reachable.exists_ends {ps qs : List (Prog κ σ ε A β)} {p : Prog κ σ ε A β} :
    ∀ {l : List σ}, Reachable env request ⟨l, ps ++ p :: qs⟩ → p.Ends env l l' r →
      ∃ q, Reachable env request ⟨l', ps ++ q :: qs⟩ ∧ q.Ends env l' l' r := by
  induction p with
  | ret a =>
    rintro l h ⟨rfl, rfl⟩
    exact ⟨_, h, rfl, rfl⟩
  | raise e =>
    rintro l h ⟨rfl, rfl⟩
    exact ⟨_, h, rfl, rfl⟩
  | get k next ih => exact fun h hends => ih _ (h.step .get) hends
  | save c e next ih =>
    intro l h hends
    rw [Prog.Ends] at hends
    split at hends
    next hacc => exact ih _ (h.step (.saved hacc)) hends
    next hacc => exact ih _ (h.step (.refused hacc)) hends
  | ask q next ih =>
    rintro l h ⟨a, ha, hends⟩
    exact ih a (h.step (.ask ha)) hends

theorem ends_of_advances {answer : (q : Q) → A q} (ha : ∀ q, env q (answer q)) (n : ℕ) :
    ∀ {l : List σ} {p : Prog κ σ ε A β},
      (advances answer n (l, p)).2.Ends env (advances answer n (l, p)).1 l' r → p.Ends env l l' r := by
  induction n with
  | zero => exact fun h => h
  | succ n ih =>
    intro l p h
    have hnext := ih h
    cases p with
    | ret a => exact hnext
    | raise e => exact hnext
    | get k next => exact hnext
    | save c e next =>
      rw [Prog.Ends]
      dsimp only at hnext
      split at hnext
      next hacc =>
        rw [if_pos hacc]
        exact hnext
      next hacc =>
        rw [if_neg hacc]
        exact hnext
    | ask q next => exact ⟨answer q, ha q, hnext⟩

/-- What the scheduler computes for a program that fails is a way to fail alone. -/
theorem ends_of_failure? {answer : (q : Q) → A q} (ha : ∀ q, env q (answer q)) {n : ℕ} {p : Prog κ σ ε A β}
    {run : List σ × Prog κ σ ε A β} (hrun : run = advances answer n (l, p)) {e : ε}
    (h : run.2.failure? = some e) : p.Ends env l run.1 (.error e) := by
  subst hrun
  apply ends_of_advances ha n
  rw [Prog.eq_raise_of_failure? h]
  exact ⟨rfl, rfl⟩

/-- **What the scheduler computes** for a program is a way to end alone. -/
theorem ends_of_result? {answer : (q : Q) → A q} (ha : ∀ q, env q (answer q)) {n : ℕ} {p : Prog κ σ ε A β} {b : β}
    (h : (advances answer n (l, p)).2.result? = some b) : p.Ends env l (advances answer n (l, p)).1 (.ok b) := by
  apply ends_of_advances ha n
  rw [Prog.eq_ret_of_result? h]
  exact ⟨rfl, rfl⟩

end DayMend.Base
