import DayMend.Base.Store

/-!
# Programs that rely on one another

The rules of a store hold whatever the other programs do. Some things hold only while
the others keep to something, which a program relies on until it has come to its end
(`Rely.rely`). A run is *quiet* when a step that does not keep to it is taken only while
every other program has finished (`QuietlyReachable`).

`Rely.wp` is the precondition of a program among such others: before each of its steps
the log may have changed as it relies on, and with each of its saves the log stays in
order. If every request satisfies its precondition, the log is in order in every quiet
run (`Rely.ok_of_quietlyReachable`).
-/

namespace DayMend.Base

variable {κ σ ε Q : Type} {A : Q → Type} {α β : Type} [Versioned κ σ] [DecidableEq κ]

/-- The program has come to its end. -/
def Prog.Finished : Prog κ σ ε A α → Prop
  | .ret _ => True
  | .raise _ => True
  | _ => False

instance : DecidablePred (Prog.Finished : Prog κ σ ε A α → Prop)
  | .ret _ => .isTrue trivial
  | .raise _ => .isTrue trivial
  | .get _ _ => .isFalse id
  | .save _ _ _ => .isFalse id
  | .ask _ _ => .isFalse id

/-- The configurations that requests can reach when a step outside `rely` is taken only while every other
program has finished. -/
inductive QuietlyReachable (env : (q : Q) → A q → Prop) (rely : List σ → List σ → Prop)
    (request : Prog κ σ ε A α → Prop) : Config κ σ ε A α → Prop where
  /-- Nothing saved, nothing running. -/
  | init : QuietlyReachable env rely request ⟨[], []⟩
  /-- A request comes. -/
  | spawn {l : List σ} {ps : List (Prog κ σ ε A α)} {p : Prog κ σ ε A α} :
      QuietlyReachable env rely request ⟨l, ps⟩ → request p → QuietlyReachable env rely request ⟨l, ps ++ [p]⟩
  /-- A program takes a step. -/
  | step {l l' : List σ} {ps qs : List (Prog κ σ ε A α)} {p p' : Prog κ σ ε A α} :
      QuietlyReachable env rely request ⟨l, ps ++ p :: qs⟩ → Step env l p l' p' →
        (rely l l' ∨ ∀ p₁ ∈ ps ++ qs, p₁.Finished) → QuietlyReachable env rely request ⟨l', ps ++ p' :: qs⟩

/-- What can be reached quietly can be reached. -/
theorem QuietlyReachable.reachable {env : (q : Q) → A q → Prop} {rely : List σ → List σ → Prop}
    {request : Prog κ σ ε A α → Prop} {cfg : Config κ σ ε A α} (h : QuietlyReachable env rely request cfg) :
    Reachable env request cfg := by
  induction h with
  | init => exact .init
  | spawn _ hp ih => exact ih.spawn hp
  | step _ hs _ ih => exact ih.step hs

/-- A program may take its steps alone once the others have finished. -/
theorem QuietlyReachable.advances {env : (q : Q) → A q → Prop} {rely : List σ → List σ → Prop}
    {request : Prog κ σ ε A α → Prop} {ps : List (Prog κ σ ε A α)} (hps : ∀ p ∈ ps, p.Finished)
    {answer : (q : Q) → A q} (ha : ∀ q, env q (answer q)) (n : ℕ) : ∀ {l : List σ} {p : Prog κ σ ε A α},
    QuietlyReachable env rely request ⟨l, ps ++ [p]⟩ →
      QuietlyReachable env rely request
        ⟨(DayMend.Base.advances answer n (l, p)).1, ps ++ [(DayMend.Base.advances answer n (l, p)).2]⟩ := by
  induction n with
  | zero => exact fun h => h
  | succ n ih =>
    intro l p h
    refine @ih (advance answer (l, p)).1 (advance answer (l, p)).2 ?_
    rcases advance_eq_or_step ha l p with heq | hs
    · rw [heq]
      exact h
    · exact h.step hs (Or.inr (by simpa using hps))

/-- **Requests that come one after the other make a quiet run**, whatever they change. -/
theorem QuietlyReachable.alone {env : (q : Q) → A q → Prop} {rely : List σ → List σ → Prop}
    {request : Prog κ σ ε A α → Prop} {l : List σ} {ps : List (Prog κ σ ε A α)} {p : Prog κ σ ε A α}
    (h : QuietlyReachable env rely request ⟨l, ps⟩) (hps : ∀ p ∈ ps, p.Finished) (hp : request p)
    {answer : (q : Q) → A q} (ha : ∀ q, env q (answer q)) (n : ℕ) :
    QuietlyReachable env rely request
      ⟨(DayMend.Base.advances answer n (l, p)).1, ps ++ [(DayMend.Base.advances answer n (l, p)).2]⟩ :=
  .advances hps ha n (h.spawn hp)

/-- What programs rely on, and what is to be kept. -/
structure Rely (σ : Type) {Q : Type} (A : Q → Type) where
  /-- What the world may answer. -/
  env : (q : Q) → A q → Prop
  /-- How the others may change the log while a program is running. -/
  rely : List σ → List σ → Prop
  rely_refl (l : List σ) : rely l l
  rely_trans {l₀ l₁ l₂ : List σ} : rely l₀ l₁ → rely l₁ l₂ → rely l₀ l₂
  /-- The log is in order. -/
  ok : List σ → Prop

namespace Rely

variable (G : Rely σ A)

/-- **The precondition** of a program for a postcondition on the log and the result, among programs that change
the log as it relies on. -/
def wp : Prog κ σ ε A α → List σ → (List σ → α → Prop) → Prop
  | .ret a, l, post => post l a
  | .raise _, _, _ => True
  | .get k next, l, post => ∀ l', G.rely l l' → G.ok l' → wp (next (current l' k)) l' post
  | .save c e next, l, post => ∀ l', G.rely l l' → G.ok l' →
    (Accepts l' c e → G.ok (stored c e :: l') ∧ wp (next (some (stored c e))) (stored c e :: l') post) ∧
      (¬ Accepts l' c e → wp (next none) l' post)
  | .ask q next, l, post => ∀ a, G.env q a → wp (next a) l post

variable {G}

theorem wp_mono {p : Prog κ σ ε A α} {post post' : List σ → α → Prop} (h : ∀ l a, post l a → post' l a) :
    ∀ {l : List σ}, G.wp p l post → G.wp p l post' := by
  induction p with
  | ret a => exact fun hp => h _ _ hp
  | raise e => exact fun hp => hp
  | get k next ih => exact fun hp l' hl hok => ih _ (hp l' hl hok)
  | save c e next ih =>
    intro l hp l' hl hok
    obtain ⟨haccepted, hrefused⟩ := hp l' hl hok
    exact ⟨fun ha => ⟨(haccepted ha).1, ih _ (haccepted ha).2⟩, fun ha => ih _ (hrefused ha)⟩
  | ask q next ih => exact fun hp a ha => ih _ (hp a ha)

theorem wp_bind {p : Prog κ σ ε A α} {f : α → Prog κ σ ε A β} {post : List σ → β → Prop} :
    ∀ {l : List σ}, G.wp (p >>= f) l post ↔ G.wp p l fun l' a => G.wp (f a) l' post := by
  change ∀ {l : List σ}, G.wp (p.bind f) l post ↔ _
  induction p with
  | ret a => exact Iff.rfl
  | raise e => exact Iff.rfl
  | get k next ih => exact forall_congr' fun l' => imp_congr_right fun _ => imp_congr_right fun _ => ih _
  | save c e next ih =>
    refine forall_congr' fun l' => imp_congr_right fun _ => imp_congr_right fun _ => ?_
    exact and_congr (imp_congr_right fun _ => and_congr_right fun _ => ih _) (imp_congr_right fun _ => ih _)
  | ask q next ih => exact forall_congr' fun a => imp_congr_right fun _ => ih _

theorem wp_mapError {f : ε → ε} {p : Prog κ σ ε A α} {post : List σ → α → Prop} :
    ∀ {l : List σ}, G.wp (p.mapError f) l post ↔ G.wp p l post := by
  induction p with
  | ret a => exact Iff.rfl
  | raise e => exact Iff.rfl
  | get k next ih => exact forall_congr' fun l' => imp_congr_right fun _ => imp_congr_right fun _ => ih _
  | save c e next ih =>
    refine forall_congr' fun l' => imp_congr_right fun _ => imp_congr_right fun _ => ?_
    exact and_congr (imp_congr_right fun _ => and_congr_right fun _ => ih _) (imp_congr_right fun _ => ih _)
  | ask q next ih => exact forall_congr' fun a => imp_congr_right fun _ => ih _

theorem wp_ofExcept {x : Except ε α} {l : List σ} {post : List σ → α → Prop} :
    G.wp (Prog.ofExcept x : Prog κ σ ε A α) l post ↔ ∀ a, x = .ok a → post l a := by
  cases x with
  | error e => simp [Prog.ofExcept, wp]
  | ok a => simp [Prog.ofExcept, wp]

/-- What the others do while a program is running leaves its precondition intact. -/
theorem wp_of_rely {p : Prog κ σ ε A α} : ∀ {l l' : List σ}, G.rely l l' →
    (G.wp p l fun _ _ => True) → G.wp p l' fun _ _ => True := by
  induction p with
  | ret a => exact fun _ _ => trivial
  | raise e => exact fun _ _ => trivial
  | get k next ih => exact fun hl hp l'' hl' hok => hp l'' (G.rely_trans hl hl') hok
  | save c e next ih => exact fun hl hp l'' hl' hok => hp l'' (G.rely_trans hl hl') hok
  | ask q next ih => exact fun hl hp a ha => ih _ hl (hp a ha)

/-- A finished program relies on nothing. -/
theorem wp_of_finished {p : Prog κ σ ε A α} (h : p.Finished) (l : List σ) : G.wp p l fun _ _ => True := by
  cases p with
  | ret a => trivial
  | raise e => trivial
  | get k next => exact h.elim
  | save c e next => exact h.elim
  | ask q next => exact h.elim

/-- **A step keeps the log in order**, and the precondition of the program that takes it. -/
theorem wp_step {l l' : List σ} {p p' : Prog κ σ ε A α} (hs : Step G.env l p l' p') (hok : G.ok l)
    (h : G.wp p l fun _ _ => True) : G.ok l' ∧ G.wp p' l' fun _ _ => True := by
  cases hs with
  | get => exact ⟨hok, h l (G.rely_refl l) hok⟩
  | saved hacc => exact (h l (G.rely_refl l) hok).1 hacc
  | refused hacc => exact ⟨hok, (h l (G.rely_refl l) hok).2 hacc⟩
  | ask ha => exact ⟨hok, h _ ha⟩

/-- **Soundness**: in every quiet run the log is in order, and every program meets its precondition. -/
theorem ok_of_quietlyReachable {request : Prog κ σ ε A α → Prop} (hstart : G.ok [])
    (hreq : ∀ p, request p → ∀ l, G.wp p l fun _ _ => True) {cfg : Config κ σ ε A α}
    (h : QuietlyReachable G.env G.rely request cfg) :
    G.ok cfg.saved ∧ ∀ p ∈ cfg.threads, G.wp p cfg.saved fun _ _ => True := by
  induction h with
  | init => exact ⟨hstart, by simp⟩
  | @spawn l ps p _ hp ih =>
    refine ⟨ih.1, fun p₁ hp₁ => ?_⟩
    rcases List.mem_append.mp hp₁ with hp₁ | hp₁
    · exact ih.2 p₁ hp₁
    · exact List.mem_singleton.mp hp₁ ▸ hreq p hp l
  | @step l l' ps qs p p' _ hs hquiet ih =>
    obtain ⟨hok, hthreads⟩ := ih
    obtain ⟨hok', hp'⟩ := wp_step hs hok (hthreads p (by simp))
    have hothers : ∀ p₁ ∈ ps ++ qs, G.wp p₁ l' fun _ _ => True := by
      intro p₁ hp₁
      rcases hquiet with hrely | hfinished
      · exact wp_of_rely hrely (hthreads p₁ (by simp at hp₁ ⊢; tauto))
      · exact wp_of_finished (hfinished p₁ hp₁) l'
    refine ⟨hok', fun p₁ hp₁ => ?_⟩
    rcases List.mem_append.mp hp₁ with hp₁ | hp₁
    · exact hothers p₁ (List.mem_append_left _ hp₁)
    · rcases List.mem_cons.mp hp₁ with rfl | hp₁
      · exact hp'
      · exact hothers p₁ (List.mem_append_right _ hp₁)

/-! ### Invariants of values -/

section Values

variable {env : (q : Q) → A q → Prop} {I : σ → Prop} {l : List σ}

/-- Programs that rely on nothing but that every stored value is in order. -/
def ofValues (env : (q : Q) → A q → Prop) (I : σ → Prop) : Rely σ A where
  env := env
  rely _ _ := True
  rely_refl _ := trivial
  rely_trans _ _ := trivial
  ok l := ∀ c ∈ l, I c

/-- What is read is in order. -/
theorem wp_ofValues_get {k : κ} {next : Option σ → Prog κ σ ε A α} {post : List σ → α → Prop}
    (hsome : ∀ l c, I c → (ofValues env I).wp (next (some c)) l post)
    (hnone : ∀ l, (ofValues env I).wp (next none) l post) : (ofValues env I).wp (.get k next) l post := by
  intro l' _ hok
  cases hc : current l' k with
  | none => exact hnone l'
  | some c => exact hsome l' c (hok c (List.mem_of_find?_eq_some hc))

/-- What is saved has to be. -/
theorem wp_ofValues_save {c : σ} {e : Option ℕ} {next : Option σ → Prog κ σ ε A α} {post : List σ → α → Prop}
    (h : I (stored c e)) (hsaved : ∀ l, (ofValues env I).wp (next (some (stored c e))) l post)
    (hrefused : ∀ l, (ofValues env I).wp (next none) l post) : (ofValues env I).wp (.save c e next) l post :=
  fun _ _ hok => ⟨fun _ => ⟨List.forall_mem_cons.mpr ⟨h, hok⟩, hsaved _⟩, fun _ => hrefused _⟩

/-- **Soundness**: in every run every stored value is in order. -/
theorem forall_saved_of_reachable {request : Prog κ σ ε A α → Prop}
    (hreq : ∀ p, request p → ∀ l, (ofValues env I).wp p l fun _ _ => True) {cfg : Config κ σ ε A α}
    (h : Reachable env request cfg) : ∀ c ∈ cfg.saved, I c := by
  have hquiet : QuietlyReachable env (ofValues env I).rely request cfg := by
    induction h with
    | init => exact .init
    | spawn _ hp ih => exact ih.spawn hp
    | step _ hs ih => exact ih.step hs (Or.inl trivial)
  exact (ok_of_quietlyReachable (G := ofValues env I) (List.forall_mem_nil _) hreq hquiet).1

end Values

end Rely

end DayMend.Base
