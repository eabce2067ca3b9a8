import DayMend.Base.Store

/-!
# Runs with their events

A configuration says what has been saved, but not who read what when, nor what the
world outside was asked. `Traced` is a run with all of this: the programs in the order
in which they came, and the events of all programs, newest first, each with the number
of its program. Every reachable configuration has such a run (`Traced.of_reachable`),
and the log of saved values can be read off its events (`Traced.saved_eq`).

What a program does by itself is said by `Prog.Obeys`, a precondition for its own
events: each of them is allowed by what the program has noticed before. `Traced.keeps`
puts it to use: in every run the events of a program (`own`) keep to it.
-/

namespace DayMend.Base

variable {κ σ ε Q : Type} {A : Q → Type} {α β : Type}

/-- What a program notices in one step. -/
inductive Event (κ σ : Type) {Q : Type} (A : Q → Type) : Type where
  /-- It has read a key. -/
  | read (k : κ) (r : Option σ)
  /-- Its save was accepted. -/
  | saved (c : σ) (expected : Option ℕ)
  /-- Its save was refused. -/
  | refused (c : σ) (expected : Option ℕ)
  /-- It was answered. -/
  | asked (q : Q) (a : A q)

/-- The events of a run, newest first, each with the number of its program. -/
abbrev Trace (κ σ : Type) {Q : Type} (A : Q → Type) := List (ℕ × Event κ σ A)

/-- The events of program `i`. -/
def own (i : ℕ) (trace : Trace κ σ A) : List (Event κ σ A) :=
  trace.filterMap fun e => if e.1 = i then some e.2 else none

@[simp] theorem own_cons_self (i : ℕ) (ev : Event κ σ A) (trace : Trace κ σ A) :
    own i ((i, ev) :: trace) = ev :: own i trace := by
  simp [own]

theorem own_cons_of_ne {i j : ℕ} (h : j ≠ i) (ev : Event κ σ A) (trace : Trace κ σ A) :
    own i ((j, ev) :: trace) = own i trace := by
  simp [own, h]

theorem own_suffix (i : ℕ) {earlier trace : Trace κ σ A} (h : earlier <:+ trace) : own i earlier <:+ own i trace :=
  h.filterMap _

/-! ### What a program has read last -/

/-- The key that was read last, and what was there. -/
def lastRead : List (Event κ σ A) → Option (κ × Option σ)
  | [] => none
  | .read k r :: _ => some (k, r)
  | _ :: earlier => lastRead earlier

/-- The run up to what program `i` has read last. -/
def beforeRead (i : ℕ) : Trace κ σ A → Trace κ σ A
  | [] => []
  | (j, ev) :: earlier =>
    match ev with
    | .read _ _ => if j = i then earlier else beforeRead i earlier
    | _ => beforeRead i earlier

theorem beforeRead_suffix (i : ℕ) (trace : Trace κ σ A) : beforeRead i trace <:+ trace := by
  induction trace with
  | nil => exact List.suffix_rfl
  | cons e earlier ih =>
    obtain ⟨j, ev⟩ := e
    have hlonger : beforeRead i earlier <:+ (j, ev) :: earlier := ih.trans (List.suffix_cons ..)
    cases ev with
    | read k r =>
      simp only [beforeRead]
      split
      · exact List.suffix_cons ..
      · exact hlonger
    | saved c e => exact hlonger
    | refused c e => exact hlonger
    | asked q a => exact hlonger

section Running

variable [Versioned κ σ]

/-- The values saved in a run. -/
def logOf (trace : Trace κ σ A) : List σ :=
  trace.filterMap fun e =>
    match e.2 with
    | .saved c expected => some (stored c expected)
    | _ => none

/-- What has been saved stays saved. -/
theorem logOf_suffix {earlier trace : Trace κ σ A} (h : earlier <:+ trace) :
    logOf earlier <:+ logOf trace := h.filterMap _

variable [DecidableEq κ]

theorem versions_suffix {earlier trace : Trace κ σ A} (h : earlier <:+ trace) (k : κ) :
    versions (logOf earlier) k <:+ versions (logOf trace) k := (logOf_suffix h).filter _

/-- The event agrees with the log and with what the world may answer. -/
def Agrees (env : (q : Q) → A q → Prop) (l : List σ) : Event κ σ A → Prop
  | .read k r => r = current l k
  | .saved c expected => Accepts l c expected
  | .refused c expected => ¬ Accepts l c expected
  | .asked q a => env q a

/-- One step of a program, with what it notices. -/
inductive Emits (env : (q : Q) → A q → Prop) (l : List σ) :
    Prog κ σ ε A α → Event κ σ A → List σ → Prog κ σ ε A α → Prop where
  /-- It reads the current value. -/
  | get {k : κ} {next : Option σ → Prog κ σ ε A α} :
      Emits env l (.get k next) (.read k (current l k)) l (next (current l k))
  /-- Its save is accepted. -/
  | saved {c : σ} {e : Option ℕ} {next : Option σ → Prog κ σ ε A α} (h : Accepts l c e) :
      Emits env l (.save c e next) (.saved c e) (stored c e :: l) (next (some (stored c e)))
  /-- Its save is refused. -/
  | refused {c : σ} {e : Option ℕ} {next : Option σ → Prog κ σ ε A α} (h : ¬ Accepts l c e) :
      Emits env l (.save c e next) (.refused c e) l (next none)
  /-- It is answered. -/
  | ask {q : Q} {a : A q} {next : A q → Prog κ σ ε A α} (h : env q a) :
      Emits env l (.ask q next) (.asked q a) l (next a)

variable {env : (q : Q) → A q → Prop} {request : Prog κ σ ε A α → Prop} {l l' : List σ} {p p' : Prog κ σ ε A α}
  {ev : Event κ σ A}

theorem Emits.step (h : Emits env l p ev l' p') : Step env l p l' p' := by
  cases h with
  | get => exact .get
  | saved h => exact .saved h
  | refused h => exact .refused h
  | ask h => exact .ask h

/-- Every step has its event. -/
theorem Step.exists_emits (h : Step env l p l' p') : ∃ ev, Emits env l p ev l' p' := by
  cases h with
  | get => exact ⟨_, .get⟩
  | saved h => exact ⟨_, .saved h⟩
  | refused h => exact ⟨_, .refused h⟩
  | ask h => exact ⟨_, .ask h⟩

theorem Emits.agrees (h : Emits env l p ev l' p') : Agrees env l ev := by
  cases h with
  | get => rfl
  | saved h => exact h
  | refused h => exact h
  | ask h => exact h

/-- The runs of requests that come at any time and take turns in any order: the requests, the events, and the
configuration they lead to. -/
inductive Traced (env : (q : Q) → A q → Prop) (request : Prog κ σ ε A α → Prop) :
    List (Prog κ σ ε A α) → Trace κ σ A → Config κ σ ε A α → Prop where
  /-- Nothing saved, nothing running. -/
  | init : Traced env request [] [] ⟨[], []⟩
  /-- A request comes. -/
  | spawn {starts : List (Prog κ σ ε A α)} {trace : Trace κ σ A} {l : List σ} {ps : List (Prog κ σ ε A α)}
      {p : Prog κ σ ε A α} : Traced env request starts trace ⟨l, ps⟩ → request p →
        Traced env request (starts ++ [p]) trace ⟨l, ps ++ [p]⟩
  /-- A program takes a step. -/
  | step {starts : List (Prog κ σ ε A α)} {trace : Trace κ σ A} {l l' : List σ} {ps qs : List (Prog κ σ ε A α)}
      {p p' : Prog κ σ ε A α} {ev : Event κ σ A} : Traced env request starts trace ⟨l, ps ++ p :: qs⟩ →
        Emits env l p ev l' p' →
          Traced env request starts ((ps.length, ev) :: trace) ⟨l', ps ++ p' :: qs⟩

variable {starts : List (Prog κ σ ε A α)} {trace : Trace κ σ A} {cfg : Config κ σ ε A α}

theorem Traced.reachable (h : Traced env request starts trace cfg) : Reachable env request cfg := by
  induction h with
  | init => exact .init
  | spawn _ hp ih => exact ih.spawn hp
  | step _ hs ih => exact ih.step hs.step

/-- **Every reachable configuration has a run.** -/
theorem Traced.of_reachable (h : Reachable env request cfg) :
    ∃ starts trace, Traced env request starts trace cfg := by
  induction h with
  | init => exact ⟨[], [], .init⟩
  | spawn _ hp ih =>
    obtain ⟨starts, trace, ht⟩ := ih
    exact ⟨_, _, ht.spawn hp⟩
  | step _ hs ih =>
    obtain ⟨starts, trace, ht⟩ := ih
    obtain ⟨ev, hev⟩ := hs.exists_emits
    exact ⟨_, _, ht.step hev⟩

/-- The log is read off the events. -/
theorem Traced.saved_eq (h : Traced env request starts trace cfg) : cfg.saved = logOf trace := by
  induction h with
  | init => rfl
  | spawn _ _ ih => exact ih
  | step _ hs ih =>
    cases hs with
    | get => exact ih
    | saved _ => exact congrArg _ ih
    | refused _ => exact ih
    | ask _ => exact ih

theorem Traced.length_starts (h : Traced env request starts trace cfg) : starts.length = cfg.threads.length := by
  induction h with
  | init => rfl
  | spawn _ _ ih => simpa using ih
  | step _ _ ih => simpa using ih

/-- A run up to any of its events is a run, of some of the requests. -/
theorem Traced.of_suffix (h : Traced env request starts trace cfg) {earlier : Trace κ σ A}
    (hsuffix : earlier <:+ trace) :
    ∃ starts' cfg', starts' <+: starts ∧ Traced env request starts' earlier cfg' := by
  induction h with
  | init =>
    rw [List.suffix_nil.mp hsuffix]
    exact ⟨[], _, List.prefix_rfl, .init⟩
  | spawn ht hp ih =>
    obtain ⟨starts', cfg', hprefix, ht'⟩ := ih hsuffix
    exact ⟨starts', cfg', hprefix.trans (List.prefix_append ..), ht'⟩
  | step ht hs ih =>
    rcases List.suffix_cons_iff.mp hsuffix with rfl | hsuffix
    · exact ⟨_, _, List.prefix_rfl, ht.step hs⟩
    · exact ih hsuffix

/-- Every event agrees with the log of its time. -/
theorem Traced.agrees (h : Traced env request starts trace cfg) {i : ℕ} {earlier : Trace κ σ A}
    (hsuffix : (i, ev) :: earlier <:+ trace) : Agrees env (logOf earlier) ev := by
  obtain ⟨starts', cfg', -, ht⟩ := h.of_suffix hsuffix
  generalize hfull : (i, ev) :: earlier = full at ht
  induction ht with
  | init => cases hfull
  | spawn _ _ ih => exact ih hfull
  | step ht hs _ =>
    obtain ⟨he, rfl⟩ := List.cons.inj hfull
    obtain ⟨-, rfl⟩ := Prod.mk.inj he
    rw [← ht.saved_eq]
    exact hs.agrees

/-- What a program has read last was stored then. -/
theorem Traced.lastRead_eq (h : Traced env request starts trace cfg) {i : ℕ} {k : κ} {r : Option σ}
    {earlier : Trace κ σ A} (hsuffix : earlier <:+ trace) (hread : lastRead (own i earlier) = some (k, r)) :
    r = current (logOf (beforeRead i earlier)) k := by
  induction earlier with
  | nil => cases hread
  | cons e earlier ih =>
    obtain ⟨j, ev⟩ := e
    have hold := (List.suffix_cons (j, ev) earlier).trans hsuffix
    by_cases hj : j = i
    · subst hj
      rw [own_cons_self] at hread
      cases ev with
      | read k' r' =>
        obtain ⟨rfl, rfl⟩ := Prod.mk.inj (Option.some.inj hread)
        rw [show beforeRead j ((j, .read k' r') :: earlier) = earlier by simp [beforeRead]]
        exact h.agrees hsuffix
      | saved c e => exact ih hold hread
      | refused c e => exact ih hold hread
      | asked q a => exact ih hold hread
    · rw [own_cons_of_ne hj] at hread
      cases ev with
      | read k' r' =>
        rw [show beforeRead i ((j, .read k' r') :: earlier) = beforeRead i earlier by simp [beforeRead, hj]]
        exact ih hold hread
      | saved c e => exact ih hold hread
      | refused c e => exact ih hold hread
      | asked q a => exact ih hold hread

/-! ### What a program does by itself -/

/-- Each event is allowed by the ones before it. -/
def Keeps (allowed : List (Event κ σ A) → Event κ σ A → Prop) : List (Event κ σ A) → Prop
  | [] => True
  | ev :: earlier => allowed earlier ev ∧ Keeps allowed earlier

omit [Versioned κ σ] [DecidableEq κ] in
theorem Keeps.of_suffix {allowed : List (Event κ σ A) → Event κ σ A → Prop} {earlier events : List (Event κ σ A)}
    (h : Keeps allowed events) (hsuffix : ev :: earlier <:+ events) : allowed earlier ev := by
  induction events with
  | nil => cases List.suffix_nil.mp hsuffix
  | cons e events ih =>
    rcases List.suffix_cons_iff.mp hsuffix with heq | hsuffix
    · obtain ⟨rfl, rfl⟩ := List.cons.inj heq
      exact h.1
    · exact ih h.2 hsuffix

variable (env) in
/-- **The precondition** of a program that has noticed `events`: each further event is allowed by the ones before
it, and the postcondition holds of its events and its result. -/
def Prog.Obeys (allowed : List (Event κ σ A) → Event κ σ A → Prop) :
    Prog κ σ ε A α → List (Event κ σ A) → (List (Event κ σ A) → α → Prop) → Prop
  | .ret a, events, post => post events a
  | .raise _, _, _ => True
  | .get k next, events, post => ∀ r : Option σ, (∀ c, r = some c → key c = k) →
    allowed events (.read k r) ∧ (next r).Obeys allowed (.read k r :: events) post
  | .save c e next, events, post =>
    (allowed events (.saved c e) ∧ (next (some (stored c e))).Obeys allowed (.saved c e :: events) post) ∧
      allowed events (.refused c e) ∧ (next none).Obeys allowed (.refused c e :: events) post
  | .ask q next, events, post => ∀ a, env q a →
    allowed events (.asked q a) ∧ (next a).Obeys allowed (.asked q a :: events) post

variable {allowed : List (Event κ σ A) → Event κ σ A → Prop}

omit [DecidableEq κ] in
theorem Prog.Obeys.mono {p : Prog κ σ ε A α} {post post' : List (Event κ σ A) → α → Prop}
    (h : ∀ events a, post events a → post' events a) : ∀ {events : List (Event κ σ A)},
    p.Obeys env allowed events post → p.Obeys env allowed events post' := by
  induction p with
  | ret a => exact fun hp => h _ _ hp
  | raise e => exact fun hp => hp
  | get k next ih => exact fun hp r hr => ⟨(hp r hr).1, ih _ (hp r hr).2⟩
  | save c e next ih => exact fun hp => ⟨⟨hp.1.1, ih _ hp.1.2⟩, hp.2.1, ih _ hp.2.2⟩
  | ask q next ih => exact fun hp a ha => ⟨(hp a ha).1, ih _ (hp a ha).2⟩

omit [DecidableEq κ] in
theorem Prog.obeys_bind {p : Prog κ σ ε A α} {f : α → Prog κ σ ε A β} {post : List (Event κ σ A) → β → Prop} :
    ∀ {events : List (Event κ σ A)}, (p >>= f).Obeys env allowed events post ↔
      p.Obeys env allowed events fun later a => (f a).Obeys env allowed later post := by
  change ∀ {events : List (Event κ σ A)}, (p.bind f).Obeys env allowed events post ↔ _
  induction p with
  | ret a => exact Iff.rfl
  | raise e => exact Iff.rfl
  | get k next ih => exact forall_congr' fun r => imp_congr_right fun _ => and_congr_right fun _ => ih _
  | save c e next ih =>
    exact and_congr (and_congr_right fun _ => ih _) (and_congr_right fun _ => ih _)
  | ask q next ih => exact forall_congr' fun a => imp_congr_right fun _ => and_congr_right fun _ => ih _

omit [DecidableEq κ] in
theorem Prog.obeys_ofExcept {x : Except ε α} {events : List (Event κ σ A)}
    {post : List (Event κ σ A) → α → Prop} :
    (Prog.ofExcept x : Prog κ σ ε A α).Obeys env allowed events post ↔ ∀ a, x = .ok a → post events a := by
  cases x with
  | error e => simp [Prog.ofExcept, Prog.Obeys]
  | ok a => simp [Prog.ofExcept, Prog.Obeys]

/-- All questions that a program may ask are of a kind. -/
def Prog.Asks (kind : Q → Prop) : Prog κ σ ε A α → Prop
  | .ret _ => True
  | .raise _ => True
  | .get _ next => ∀ r, (next r).Asks kind
  | .save _ _ next => ∀ r, (next r).Asks kind
  | .ask q next => kind q ∧ ∀ a, (next a).Asks kind

variable {kind : Q → Prop}

omit [Versioned κ σ] [DecidableEq κ] in
theorem Prog.Asks.bind {p : Prog κ σ ε A α} {f : α → Prog κ σ ε A β} (hp : p.Asks kind)
    (hf : ∀ a, (f a).Asks kind) : (p >>= f).Asks kind := by
  change (p.bind f).Asks kind
  induction p with
  | ret a => exact hf a
  | raise e => trivial
  | get k next ih => exact fun r => ih r (hp r)
  | save c e next ih => exact fun r => ih r (hp r)
  | ask q next ih => exact ⟨hp.1, fun a => ih a (hp.2 a)⟩

omit [Versioned κ σ] [DecidableEq κ] in
theorem Prog.Asks.mapError {p : Prog κ σ ε A α} (hp : p.Asks kind) (f : ε → ε) : (p.mapError f).Asks kind := by
  induction p with
  | ret a => trivial
  | raise e => trivial
  | get k next ih => exact fun r => ih r (hp r)
  | save c e next ih => exact fun r => ih r (hp r)
  | ask q next ih => exact ⟨hp.1, fun a => ih a (hp.2 a)⟩

omit [Versioned κ σ] [DecidableEq κ] in
theorem Prog.asks_ofExcept (x : Except ε α) : (Prog.ofExcept x : Prog κ σ ε A α).Asks kind := by
  cases x <;> trivial

omit [Versioned κ σ] [DecidableEq κ] in
theorem Prog.asks_ofExcept_bind {x : Except ε α} {f : α → Prog κ σ ε A β} :
    ((Prog.ofExcept x : Prog κ σ ε A α) >>= f).Asks kind ↔ ∀ a, x = .ok a → (f a).Asks kind := by
  change ((Prog.ofExcept x).bind f).Asks kind ↔ _
  cases x with
  | error e => simp [Prog.ofExcept, Prog.bind, Prog.Asks]
  | ok a => simp [Prog.ofExcept, Prog.bind]

omit [DecidableEq κ] in
/-- **A program that asks only questions of a kind** obeys what such events keep up. -/
theorem Prog.Asks.obeys {p : Prog κ σ ε A α} {inv : List (Event κ σ A) → Prop} (hp : p.Asks kind)
    (h : ∀ events ev, inv events → (∀ q a, ev = .asked q a → kind q) → allowed events ev ∧ inv (ev :: events)) :
    ∀ {events : List (Event κ σ A)}, inv events → p.Obeys env allowed events fun later _ => inv later := by
  induction p with
  | ret a => exact fun hinv => hinv
  | raise e => exact fun _ => trivial
  | get k next ih =>
    intro events hinv r _
    obtain ⟨hallowed, hnext⟩ := h events (.read k r) hinv (by simp)
    exact ⟨hallowed, ih r (hp r) hnext⟩
  | save c e next ih =>
    intro events hinv
    obtain ⟨hsaved, hnext⟩ := h events (.saved c e) hinv (by simp)
    obtain ⟨hrefused, hnext'⟩ := h events (.refused c e) hinv (by simp)
    exact ⟨⟨hsaved, ih _ (hp _) hnext⟩, hrefused, ih _ (hp _) hnext'⟩
  | ask q next ih =>
    intro events hinv a _
    obtain ⟨hallowed, hnext⟩ := h events (.asked q a) hinv (by rintro _ _ ⟨⟩; exact hp.1)
    exact ⟨hallowed, ih a (hp.2 a) hnext⟩

/-- A step keeps to what the program obeys. -/
theorem Emits.obeys (h : Emits env l p ev l' p') {events : List (Event κ σ A)} {post : List (Event κ σ A) → α → Prop}
    (hp : p.Obeys env allowed events post) : allowed events ev ∧ p'.Obeys env allowed (ev :: events) post := by
  cases h with
  | get => exact hp _ fun c hc => key_of_current hc
  | saved _ => exact hp.1
  | refused _ => exact hp.2
  | ask ha => exact hp _ ha

/-- A program that has not come yet has no events. -/
theorem Traced.own_eq_nil (h : Traced env request starts trace cfg) {i : ℕ} (hi : starts.length ≤ i) :
    own i trace = [] := by
  induction h with
  | init => rfl
  | spawn _ _ ih => exact ih (by simp at hi; omega)
  | step ht _ ih =>
    have hlength := ht.length_starts
    rw [own_cons_of_ne]
    · exact ih hi
    · simp at hlength
      omega

/-- **Soundness**: in every run the events of a program keep to what it obeys, and so does what it has left to do. -/
theorem Traced.keeps (h : Traced env request starts trace cfg) {i : ℕ} {p : Prog κ σ ε A α}
    {post : List (Event κ σ A) → α → Prop} (hstart : starts[i]? = some p) (hp : p.Obeys env allowed [] post) :
    Keeps allowed (own i trace) ∧ ∃ q, cfg.threads[i]? = some q ∧ q.Obeys env allowed (own i trace) post := by
  induction h with
  | init => cases hstart
  | @spawn starts trace l ps p₁ ht _ ih =>
    have hlength : starts.length = ps.length := ht.length_starts
    by_cases hi : i < starts.length
    · rw [List.getElem?_append_left hi] at hstart
      obtain ⟨hkeeps, q, hq, hobeys⟩ := ih hstart
      refine ⟨hkeeps, q, ?_, hobeys⟩
      rw [List.getElem?_append_left (hlength ▸ hi)]
      exact hq
    · rw [List.getElem?_append_right (Nat.le_of_not_lt hi), List.getElem?_singleton] at hstart
      split at hstart
      next hlast =>
        obtain rfl := Option.some.inj hstart
        rw [ht.own_eq_nil (Nat.le_of_not_lt hi)]
        refine ⟨trivial, p₁, ?_, hp⟩
        rw [List.getElem?_append_right (hlength ▸ Nat.le_of_not_lt hi)]
        simp [← hlength, hlast]
      next => cases hstart
  | @step starts trace l l' ps qs p₀ p₁ ev ht hs ih =>
    obtain ⟨hkeeps, q, hq, hobeys⟩ := ih hstart
    by_cases hi : ps.length = i
    · subst hi
      obtain rfl : p₀ = q := by simpa using hq
      rw [own_cons_self]
      obtain ⟨hallowed, hnext⟩ := hs.obeys hobeys
      exact ⟨⟨hallowed, hkeeps⟩, p₁, by simp, hnext⟩
    · rw [own_cons_of_ne hi]
      refine ⟨hkeeps, q, ?_, hobeys⟩
      rw [← hq]
      rcases lt_or_gt_of_ne hi with hlt | hgt
      · obtain ⟨m, hm⟩ := Nat.exists_eq_add_of_lt hlt
        rw [List.getElem?_append_right (by omega), List.getElem?_append_right (by omega),
          show i - ps.length = m + 1 by omega, List.getElem?_cons_succ, List.getElem?_cons_succ]
      · rw [List.getElem?_append_left hgt, List.getElem?_append_left hgt]

/-- **What a program returns** meets its postcondition. -/
theorem Traced.post_of_ret (h : Traced env request starts trace cfg) {i : ℕ} {p : Prog κ σ ε A α} {a : α}
    {post : List (Event κ σ A) → α → Prop} (hstart : starts[i]? = some p) (hp : p.Obeys env allowed [] post)
    (hret : cfg.threads[i]? = some (.ret a)) : post (own i trace) a := by
  obtain ⟨-, q, hq, hobeys⟩ := h.keeps hstart hp
  obtain rfl := Option.some.inj (hret.symm.trans hq)
  exact hobeys

theorem Traced.request_of_mem (h : Traced env request starts trace cfg) : ∀ p ∈ starts, request p := by
  induction h with
  | init => simp
  | spawn _ hp ih =>
    intro p₁ hp₁
    rcases List.mem_append.mp hp₁ with hp₁ | hp₁
    · exact ih p₁ hp₁
    · exact List.mem_singleton.mp hp₁ ▸ hp
  | step _ _ ih => exact ih

/-- **Soundness**: if every request obeys it, every event of a run is allowed by the earlier ones of its program. -/
theorem Traced.allowed_of_obeys (h : Traced env request starts trace cfg)
    (hreq : ∀ p, request p → p.Obeys env allowed [] fun _ _ => True) {i : ℕ} {earlier : Trace κ σ A}
    (hsuffix : (i, ev) :: earlier <:+ trace) : allowed (own i earlier) ev := by
  have hown : ev :: own i earlier <:+ own i trace := by
    rw [← own_cons_self]
    exact own_suffix i hsuffix
  have hi : i < starts.length := by
    by_contra hi
    rw [h.own_eq_nil (Nat.le_of_not_lt hi)] at hown
    cases List.suffix_nil.mp hown
  have hkeeps := (h.keeps (List.getElem?_eq_getElem hi) (hreq _ (h.request_of_mem _ (List.getElem_mem hi)))).1
  exact hkeeps.of_suffix hown

/-! ### The first save of a program -/

/-- The program has saved something. -/
def HasSaved (events : List (Event κ σ A)) : Prop := ∃ c e, Event.saved c e ∈ events

instance decidableHasSaved : (events : List (Event κ σ A)) → Decidable (HasSaved events)
  | [] => .isFalse (by rintro ⟨_, _, h⟩; cases h)
  | .saved c e :: earlier => .isTrue ⟨c, e, List.mem_cons_self ..⟩
  | .read k r :: earlier =>
    have := decidableHasSaved earlier
    decidable_of_iff (HasSaved earlier) (by simp [HasSaved])
  | .refused c e :: earlier =>
    have := decidableHasSaved earlier
    decidable_of_iff (HasSaved earlier) (by simp [HasSaved])
  | .asked q a :: earlier =>
    have := decidableHasSaved earlier
    decidable_of_iff (HasSaved earlier) (by simp [HasSaved])

/-- Program `i` makes its first accepted save, of `c` for the version `e`, after the run `before`; its first step
came after the run `start`. -/
structure FirstSave (i : ℕ) (trace start before : Trace κ σ A) (c : σ) (e : Option ℕ) : Prop where
  saved : (i, .saved c e) :: before <:+ trace
  first : ¬ HasSaved (own i before)
  started : ∃ ev, (i, ev) :: start <:+ before
  came : own i start = []

omit [Versioned κ σ] [DecidableEq κ] in
/-- Every program that has taken a step has taken a first one. -/
theorem exists_start {i : ℕ} {trace : Trace κ σ A} (h : own i trace ≠ []) :
    ∃ ev start, (i, ev) :: start <:+ trace ∧ own i start = [] := by
  induction trace with
  | nil => exact absurd rfl h
  | cons e trace ih =>
    obtain ⟨j, ev⟩ := e
    by_cases hlater : own i trace = []
    · by_cases hj : j = i
      · subst hj
        exact ⟨ev, trace, List.suffix_rfl, hlater⟩
      · rw [own_cons_of_ne hj] at h
        exact absurd hlater h
    · obtain ⟨ev', start, hsuffix, hnil⟩ := ih hlater
      exact ⟨ev', start, hsuffix.trans (List.suffix_cons ..), hnil⟩

omit [Versioned κ σ] [DecidableEq κ] in
/-- Every program that has saved something has made a first save. -/
theorem exists_first_save {i : ℕ} {trace : Trace κ σ A} (h : HasSaved (own i trace)) :
    ∃ before c e, (i, .saved c e) :: before <:+ trace ∧ ¬ HasSaved (own i before) := by
  induction trace with
  | nil =>
    obtain ⟨c, e, hmem⟩ := h
    cases hmem
  | cons x trace ih =>
    obtain ⟨j, ev⟩ := x
    by_cases hlater : HasSaved (own i trace)
    · obtain ⟨before, c, e, hsuffix, hfirst⟩ := ih hlater
      exact ⟨before, c, e, hsuffix.trans (List.suffix_cons ..), hfirst⟩
    · obtain ⟨c, e, hmem⟩ := h
      by_cases hj : j = i
      · subst hj
        rw [own_cons_self] at hmem
        rcases List.mem_cons.mp hmem with rfl | hmem
        · exact ⟨trace, c, e, List.suffix_rfl, hlater⟩
        · exact absurd ⟨c, e, hmem⟩ hlater
      · rw [own_cons_of_ne hj] at hmem
        exact absurd ⟨c, e, hmem⟩ hlater

/-! ### Schedules -/

/-- The event of a program's next step, unless it has finished. -/
def emit (answer : (q : Q) → A q) : List σ × Prog κ σ ε A α → Option (Event κ σ A)
  | (_, .ret _) => none
  | (_, .raise _) => none
  | (l, .get k _) => some (.read k (current l k))
  | (l, .save c e _) => if Accepts l c e then some (.saved c e) else some (.refused c e)
  | (_, .ask q _) => some (.asked q (answer q))

/-- The events of `n` steps of a program, newest first. -/
def emits (answer : (q : Q) → A q) : ℕ → List σ × Prog κ σ ε A α → List (Event κ σ A)
  | 0, _ => []
  | n + 1, x => emits answer n (advance answer x) ++ (emit answer x).toList

/-- A run: the requests, the events, and the configuration they lead to. -/
structure Run (κ σ ε : Type) {Q : Type} (A : Q → Type) (α : Type) where
  starts : List (Prog κ σ ε A α) := []
  trace : Trace κ σ A := []
  cfg : Config κ σ ε A α := ⟨[], []⟩

/-- Carry out one turn. -/
def Run.turn (r : Run κ σ ε A α) (t : Turn κ σ ε A α) : Run κ σ ε A α where
  starts :=
    match t with
    | .spawn p => r.starts ++ [p]
    | .steps _ _ _ => r.starts
  trace :=
    match t with
    | .spawn _ => r.trace
    | .steps i n answer =>
      match r.cfg.threads[i]? with
      | none => r.trace
      | some p => (emits answer n (r.cfg.saved, p)).map (fun ev => (i, ev)) ++ r.trace
  cfg := r.cfg.turn t

/-- The run of a schedule, from nothing. -/
def Run.of (ts : List (Turn κ σ ε A α)) : Run κ σ ε A α := ts.foldl Run.turn {}

/-- To advance is to take a step with its event, unless the program has finished. -/
theorem advance_eq_or_emits {answer : (q : Q) → A q} (ha : ∀ q, env q (answer q)) (l : List σ) (p : Prog κ σ ε A α) :
    (advance answer (l, p) = (l, p) ∧ emit answer (l, p) = none) ∨
      ∃ ev, emit answer (l, p) = some ev ∧
        Emits env l p ev (advance answer (l, p)).1 (advance answer (l, p)).2 := by
  cases p with
  | ret a => exact Or.inl ⟨rfl, rfl⟩
  | raise e => exact Or.inl ⟨rfl, rfl⟩
  | get k next => exact Or.inr ⟨_, rfl, .get⟩
  | save c e next =>
    right
    simp only [advance, emit]
    split
    next hacc => exact ⟨_, rfl, .saved hacc⟩
    next hacc => exact ⟨_, rfl, .refused hacc⟩
  | ask q next => exact Or.inr ⟨_, rfl, .ask (ha q)⟩

theorem Traced.advances {ps qs : List (Prog κ σ ε A α)} {answer : (q : Q) → A q} (ha : ∀ q, env q (answer q))
    (n : ℕ) : ∀ {trace : Trace κ σ A} {l : List σ} {p : Prog κ σ ε A α},
    Traced env request starts trace ⟨l, ps ++ p :: qs⟩ →
      Traced env request starts ((emits answer n (l, p)).map (fun ev => (ps.length, ev)) ++ trace)
        ⟨(DayMend.Base.advances answer n (l, p)).1, ps ++ (DayMend.Base.advances answer n (l, p)).2 :: qs⟩ := by
  induction n with
  | zero => exact fun h => h
  | succ n ih =>
    intro trace l p h
    rcases advance_eq_or_emits ha l p with ⟨hsame, hnone⟩ | ⟨ev, hev, hs⟩
    · have hstep := ih h
      rw [emits, DayMend.Base.advances, hsame, hnone]
      simpa using hstep
    · have hstep := ih (h.step hs)
      rw [emits, DayMend.Base.advances, hev]
      simpa using hstep

/-- **A schedule's run is a run.** -/
theorem traced_run {ts : List (Turn κ σ ε A α)} (h : ∀ t ∈ ts, t.Allowed env request) :
    Traced env request (Run.of ts).starts (Run.of ts).trace (Run.of ts).cfg := by
  suffices H : ∀ r : Run κ σ ε A α, Traced env request r.starts r.trace r.cfg →
      Traced env request (ts.foldl Run.turn r).starts (ts.foldl Run.turn r).trace (ts.foldl Run.turn r).cfg from
    H {} .init
  induction ts with
  | nil => exact fun _ hr => hr
  | cons t ts ih =>
    intro r hr
    refine ih (fun u hu => h u (List.mem_cons_of_mem _ hu)) _ ?_
    have ht := h t (List.mem_cons_self ..)
    cases t with
    | spawn p => exact hr.spawn ht
    | steps i n answer =>
      cases hp : r.cfg.threads[i]? with
      | none =>
        simp only [Run.turn, Config.turn, hp]
        exact hr
      | some p =>
        simp only [Run.turn, Config.turn, hp]
        obtain ⟨hi, rfl⟩ := List.getElem?_eq_some_iff.mp hp
        have hsplit : r.cfg.threads = r.cfg.threads.take i ++ r.cfg.threads[i] :: r.cfg.threads.drop (i + 1) := by
          rw [← List.drop_eq_getElem_cons hi, List.take_append_drop]
        have hlength : (r.cfg.threads.take i).length = i := by
          rw [List.length_take]
          omega
        have hr : Traced env request r.starts r.trace
            ⟨r.cfg.saved, r.cfg.threads.take i ++ r.cfg.threads[i] :: r.cfg.threads.drop (i + 1)⟩ := by
          rw [← hsplit]
          exact hr
        have hadvances := Traced.advances ht n hr
        rw [hlength] at hadvances
        rw [List.set_eq_take_append_cons_drop, if_pos hi]
        exact hadvances

end Running

end DayMend.Base
