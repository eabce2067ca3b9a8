import DayMend.Base.Trace

/-!
# Repositories

Programs run on an abstract store, the log of all that was ever saved. A repository is
something that answers accesses from a state of its own. It implements the store if its
states stand for logs, and it grants and denies what the store does (`Implements`).

Two repositories that implement the store answer every sequence of accesses alike
(`answers_eq_answers`), and every run of programs on such a repository is a run on the
store, so that what holds of all runs on the store holds of those on the repository
(`RunOn.traced`); the other way round, every run on the store can happen on the
repository (`Traced.runOn`).
-/

namespace DayMend.Base

variable {κ σ ε ε' S S' Q : Type} {A : Q → Type} {α β : Type}

/-- An access to a repository. -/
inductive Access (κ σ : Type) where
  /-- Read what is at a key. -/
  | get (k : κ)
  /-- Save a value, expecting a version, or that there is none. -/
  | save (c : σ) (expected : Option ℤ)

/-- Why the store denies an access. -/
inductive Denial where
  /-- There is nothing at the key. -/
  | notFound
  /-- The version is not the expected one. -/
  | versionConflict
  deriving DecidableEq

/-- A repository: how it answers an access, and which of its errors deny it. -/
structure Repository (κ σ ε S : Type) where
  call : S → Access κ σ → S × Except ε σ
  denial? : ε → Option Denial

/-- What is observed of an answer: the value, or what kind of error it is. -/
def Repository.observe (r : Repository κ σ ε S) (answer : Except ε σ) : Except (Option Denial) σ :=
  answer.mapError r.denial?

theorem mapError_eq_ok {x : Except ε α} {f : ε → ε'} {a : α} : x.mapError f = .ok a ↔ x = .ok a := by
  cases x with
  | error e => simp [Except.mapError]
  | ok b => simp [Except.mapError]

theorem mapError_eq_error {x : Except ε α} {f : ε → ε'} {e' : ε'} :
    x.mapError f = .error e' ↔ ∃ e, x = .error e ∧ f e = e' := by
  cases x with
  | error e => simp [Except.mapError]
  | ok b => simp [Except.mapError]

/-- What is observed of a sequence of accesses. -/
def Repository.answers (r : Repository κ σ ε S) : S → List (Access κ σ) → List (Except (Option Denial) σ)
  | _, [] => []
  | s, access :: accesses => r.observe (r.call s access).2 :: r.answers (r.call s access).1 accesses

/-! ### The store -/

section Store

variable [Versioned κ σ]

/-- What a save stores. A negative version is never stored, as it is never expected. -/
def storedAt (c : σ) (expected : Option ℤ) : σ := setVersion (expected.getD (version c) + 1).toNat c

theorem storedAt_natCast (c : σ) (expected : Option ℕ) : storedAt c (expected.map Nat.cast) = stored c expected := by
  cases expected with
  | none => exact congrArg (setVersion · c) (Int.toNat_natCast (version c + 1))
  | some n => exact congrArg (setVersion · c) (Int.toNat_natCast (n + 1))

variable [DecidableEq κ]

/-- The stored version is the expected one. -/
def Expects (log : List σ) (c : σ) (expected : Option ℤ) : Prop :=
  (current log (key c)).map (fun d => (version d : ℤ)) = expected

instance (log : List σ) (c : σ) (expected : Option ℤ) : Decidable (Expects log c expected) :=
  inferInstanceAs (Decidable (_ = _))

theorem expects_natCast {log : List σ} {c : σ} {expected : Option ℕ} :
    Expects log c (expected.map Nat.cast) ↔ Accepts log c expected := by
  have hmap : (current log (key c)).map (fun d => (version d : ℤ)) =
      ((current log (key c)).map version).map Nat.cast := (Option.map_map ..).symm
  rw [Expects, Accepts, hmap]
  exact (Option.map_injective fun _ _ h => Int.ofNat_inj.mp h).eq_iff

/-- What the store answers. -/
def answerOf (log : List σ) : Access κ σ → Except Denial σ
  | .get k => (current log k).elim (.error .notFound) .ok
  | .save c expected => if Expects log c expected then .ok (storedAt c expected) else .error .versionConflict

/-- The log after an access. -/
def logAfter (log : List σ) : Access κ σ → List σ
  | .get _ => log
  | .save c expected => if Expects log c expected then storedAt c expected :: log else log

section Answers

variable {log : List σ} {k : κ} {c : σ} {expected : Option ℤ} {denial : Denial}

theorem answerOf_get_eq_ok : answerOf log (.get k) = .ok c ↔ current log k = some c := by
  rw [answerOf]
  cases current log k with
  | none => simp
  | some d => simp

theorem answerOf_get_eq_error : answerOf log (.get k) = .error denial ↔ current log k = none ∧ denial = .notFound := by
  rw [answerOf]
  cases current log k with
  | none => simp [eq_comm]
  | some d => simp

theorem answerOf_of_expects (h : Expects log c expected) :
    answerOf log (.save c expected) = .ok (storedAt c expected) := if_pos h

theorem answerOf_of_not_expects (h : ¬ Expects log c expected) :
    answerOf log (.save c expected) = .error .versionConflict := if_neg h

theorem logAfter_of_expects (h : Expects log c expected) :
    logAfter log (.save c expected) = storedAt c expected :: log := if_pos h

theorem logAfter_of_not_expects (h : ¬ Expects log c expected) : logAfter log (.save c expected) = log := if_neg h

end Answers

/-- What is observed of a sequence of accesses to the store. -/
def storeAnswers : List σ → List (Access κ σ) → List (Except (Option Denial) σ)
  | _, [] => []
  | log, access :: accesses => (answerOf log access).mapError some :: storeAnswers (logAfter log access) accesses

/-- **The repository implements the store** for the accesses that fit: its states stand for logs, and it grants and
denies what the store does. -/
structure Repository.Implements (r : Repository κ σ ε S) (fits : Access κ σ → Prop) (Abs : List σ → S → Prop) :
    Prop where
  observe_eq : ∀ log s access, Abs log s → fits access →
    r.observe (r.call s access).2 = (answerOf log access).mapError some
  next : ∀ log s access, Abs log s → fits access → Abs (logAfter log access) (r.call s access).1

variable {r : Repository κ σ ε S} {r' : Repository κ σ ε' S'} {fits fits' : Access κ σ → Prop}
  {Abs : List σ → S → Prop} {Abs' : List σ → S' → Prop} {log : List σ} {s : S} {s' : S'}

/-- The repository gives a value exactly if the store does. -/
theorem Repository.Implements.call_eq_ok_iff (h : r.Implements fits Abs) (habs : Abs log s) {access : Access κ σ}
    (hfits : fits access) {c : σ} : (r.call s access).2 = .ok c ↔ answerOf log access = .ok c := by
  have hobserve := h.observe_eq log s access habs hfits
  rw [← mapError_eq_ok (f := r.denial?), ← mapError_eq_ok (f := some) (x := answerOf log access), ← hobserve]
  rfl

/-- The repository denies an access exactly if the store does. -/
theorem Repository.Implements.denies_iff (h : r.Implements fits Abs) (habs : Abs log s) {access : Access κ σ}
    (hfits : fits access) {denial : Denial} :
    (∃ e, (r.call s access).2 = .error e ∧ r.denial? e = some denial) ↔ answerOf log access = .error denial := by
  have hobserve := h.observe_eq log s access habs hfits
  rw [← mapError_eq_error]
  change r.observe _ = _ ↔ _
  rw [hobserve, mapError_eq_error]
  simp

theorem Repository.Implements.answers_eq (h : r.Implements fits Abs) (habs : Abs log s) {accesses : List (Access κ σ)}
    (hfits : ∀ access ∈ accesses, fits access) : r.answers s accesses = storeAnswers log accesses := by
  induction accesses generalizing log s with
  | nil => rfl
  | cons access accesses ih =>
    obtain ⟨hfirst, hrest⟩ := List.forall_mem_cons.mp hfits
    rw [Repository.answers, storeAnswers, h.observe_eq log s access habs hfirst,
      ih (h.next log s access habs hfirst) hrest]

/-- **Two repositories that implement the store** are observed alike. -/
theorem Repository.Implements.answers_eq_answers (h : r.Implements fits Abs) (h' : r'.Implements fits' Abs')
    (habs : Abs log s) (habs' : Abs' log s') {accesses : List (Access κ σ)}
    (hfits : ∀ access ∈ accesses, fits access ∧ fits' access) : r.answers s accesses = r'.answers s' accesses := by
  rw [h.answers_eq habs fun access haccess => (hfits access haccess).1,
    h'.answers_eq habs' fun access haccess => (hfits access haccess).2]

end Store

/-! ### Programs on a repository -/

/-- The access that a program has noticed the answer to. -/
def Event.access? : Event κ σ A → Option (Access κ σ)
  | .read k _ => some (.get k)
  | .saved c expected => some (.save c (expected.map Nat.cast))
  | .refused c expected => some (.save c (expected.map Nat.cast))
  | .asked _ _ => none

/-- All accesses that a program may make are of a kind. -/
def Prog.Accesses (kind : Access κ σ → Prop) : Prog κ σ ε A α → Prop
  | .ret _ => True
  | .raise _ => True
  | .get k next => kind (.get k) ∧ ∀ r, (next r).Accesses kind
  | .save c expected next => kind (.save c (expected.map Nat.cast)) ∧ ∀ r, (next r).Accesses kind
  | .ask _ next => ∀ a, (next a).Accesses kind

theorem Prog.Accesses.bind {kind : Access κ σ → Prop} {p : Prog κ σ ε A α} {f : α → Prog κ σ ε A β}
    (hp : p.Accesses kind) (hf : ∀ a, (f a).Accesses kind) : (p >>= f).Accesses kind := by
  change (p.bind f).Accesses kind
  induction p with
  | ret a => exact hf a
  | raise e => trivial
  | get k next ih => exact ⟨hp.1, fun r => ih r (hp.2 r)⟩
  | save c e next ih => exact ⟨hp.1, fun r => ih r (hp.2 r)⟩
  | ask q next ih => exact fun a => ih a (hp a)

theorem Prog.accesses_ofExcept {kind : Access κ σ → Prop} (x : Except ε α) :
    (Prog.ofExcept x : Prog κ σ ε A α).Accesses kind := by
  cases x <;> trivial

/-- One step of a program on a repository, with what it notices. An error that does not deny the access ends the
program there. -/
inductive Repository.EmitsOn (r : Repository κ σ ε S) (env : (q : Q) → A q → Prop) (s : S) :
    Prog κ σ ε' A α → Event κ σ A → S → Prog κ σ ε' A α → Prop where
  /-- It reads a value. -/
  | found {k : κ} {c : σ} {next : Option σ → Prog κ σ ε' A α} (h : (r.call s (.get k)).2 = .ok c) :
      EmitsOn r env s (.get k next) (.read k (some c)) (r.call s (.get k)).1 (next (some c))
  /-- It finds that there is none. -/
  | missing {k : κ} {e : ε} {next : Option σ → Prog κ σ ε' A α} (h : (r.call s (.get k)).2 = .error e)
      (hdenial : r.denial? e = some .notFound) :
      EmitsOn r env s (.get k next) (.read k none) (r.call s (.get k)).1 (next none)
  /-- Its save is accepted. -/
  | saved {c d : σ} {expected : Option ℕ} {next : Option σ → Prog κ σ ε' A α}
      (h : (r.call s (.save c (expected.map Nat.cast))).2 = .ok d) :
      EmitsOn r env s (.save c expected next) (.saved c expected) (r.call s (.save c (expected.map Nat.cast))).1
        (next (some d))
  /-- Its save is refused. -/
  | refused {c : σ} {e : ε} {expected : Option ℕ} {next : Option σ → Prog κ σ ε' A α}
      (h : (r.call s (.save c (expected.map Nat.cast))).2 = .error e)
      (hdenial : r.denial? e = some .versionConflict) :
      EmitsOn r env s (.save c expected next) (.refused c expected) (r.call s (.save c (expected.map Nat.cast))).1
        (next none)
  /-- It is answered. -/
  | ask {q : Q} {a : A q} {next : A q → Prog κ σ ε' A α} (h : env q a) :
      EmitsOn r env s (.ask q next) (.asked q a) s (next a)

/-- The runs on a repository of requests that come at any time and take turns in any order: the requests, the events,
the state that they lead to, and what each program has left to do. -/
inductive Repository.RunOn (r : Repository κ σ ε S) (env : (q : Q) → A q → Prop)
    (request : Prog κ σ ε' A α → Prop) (s₀ : S) :
    List (Prog κ σ ε' A α) → Trace κ σ A → S → List (Prog κ σ ε' A α) → Prop where
  /-- Nothing running. -/
  | init : RunOn r env request s₀ [] [] s₀ []
  /-- A request comes. -/
  | spawn {starts : List (Prog κ σ ε' A α)} {trace : Trace κ σ A} {s : S} {ps : List (Prog κ σ ε' A α)}
      {p : Prog κ σ ε' A α} : RunOn r env request s₀ starts trace s ps → request p →
        RunOn r env request s₀ (starts ++ [p]) trace s (ps ++ [p])
  /-- A program takes a step. -/
  | step {starts : List (Prog κ σ ε' A α)} {trace : Trace κ σ A} {s s' : S} {ps qs : List (Prog κ σ ε' A α)}
      {p p' : Prog κ σ ε' A α} {ev : Event κ σ A} : RunOn r env request s₀ starts trace s (ps ++ p :: qs) →
        r.EmitsOn env s p ev s' p' → RunOn r env request s₀ starts ((ps.length, ev) :: trace) s' (ps ++ p' :: qs)

section Runs

variable [Versioned κ σ] [DecidableEq κ] {r : Repository κ σ ε S} {fits : Access κ σ → Prop}
  {Abs : List σ → S → Prop} {env : (q : Q) → A q → Prop} {request : Prog κ σ ε' A α → Prop}

/-- The log that an event leaves. -/
def logBy (log : List σ) : Event κ σ A → List σ
  | .saved c expected => stored c expected :: log
  | _ => log

/-- A step on the repository is a step on the store. -/
theorem Repository.EmitsOn.emits {log : List σ} {s s' : S} {p p' : Prog κ σ ε' A α} {ev : Event κ σ A}
    (h : r.EmitsOn env s p ev s' p') (hr : r.Implements fits Abs) (habs : Abs log s)
    (hfits : ∀ access, ev.access? = some access → fits access) :
    Emits env log p ev (logBy log ev) p' ∧ Abs (logBy log ev) s' := by
  cases h with
  | @found k c next h =>
    have hcurrent := answerOf_get_eq_ok.mp ((hr.call_eq_ok_iff habs (hfits _ rfl)).mp h)
    refine ⟨?_, hr.next log s (.get k) habs (hfits _ rfl)⟩
    rw [← hcurrent]
    exact .get
  | @missing k e next h hdenial =>
    have hcurrent := (answerOf_get_eq_error.mp ((hr.denies_iff habs (hfits _ rfl)).mp ⟨e, h, hdenial⟩)).1
    refine ⟨?_, hr.next log s (.get k) habs (hfits _ rfl)⟩
    rw [← hcurrent]
    exact .get
  | @saved c d expected next h =>
    have hanswer := (hr.call_eq_ok_iff habs (hfits _ rfl)).mp h
    have hnext := hr.next log s (.save c (expected.map Nat.cast)) habs (hfits _ rfl)
    by_cases hexpects : Expects log c (expected.map Nat.cast)
    · rw [logAfter_of_expects hexpects, storedAt_natCast] at hnext
      rw [answerOf_of_expects hexpects, storedAt_natCast] at hanswer
      obtain rfl := Except.ok.inj hanswer
      exact ⟨.saved (expects_natCast.mp hexpects), hnext⟩
    · rw [answerOf_of_not_expects hexpects] at hanswer
      cases hanswer
  | @refused c e expected next h hdenial =>
    have hanswer := (hr.denies_iff habs (hfits _ rfl)).mp ⟨e, h, hdenial⟩
    have hnext := hr.next log s (.save c (expected.map Nat.cast)) habs (hfits _ rfl)
    by_cases hexpects : Expects log c (expected.map Nat.cast)
    · rw [answerOf_of_expects hexpects] at hanswer
      cases hanswer
    · rw [logAfter_of_not_expects hexpects] at hnext
      exact ⟨.refused fun haccepts => hexpects (expects_natCast.mpr haccepts), hnext⟩
  | ask h => exact ⟨.ask h, habs⟩

omit [DecidableEq κ] in
theorem logOf_cons (i : ℕ) (ev : Event κ σ A) (trace : Trace κ σ A) :
    logOf ((i, ev) :: trace) = logBy (logOf trace) ev := by
  cases ev <;> rfl

omit [Versioned κ σ] [DecidableEq κ] in
/-- What a program has left to do makes only the accesses that the program makes. -/
theorem Repository.EmitsOn.accesses {own : Access κ σ → Prop} {s s' : S} {p p' : Prog κ σ ε' A α} {ev : Event κ σ A}
    (h : r.EmitsOn env s p ev s' p') (hp : p.Accesses own) :
    p'.Accesses own ∧ ∀ access, ev.access? = some access → own access := by
  cases h with
  | found => exact ⟨hp.2 _, fun _ h => Option.some.inj h ▸ hp.1⟩
  | missing => exact ⟨hp.2 _, fun _ h => Option.some.inj h ▸ hp.1⟩
  | saved => exact ⟨hp.2 _, fun _ h => Option.some.inj h ▸ hp.1⟩
  | refused => exact ⟨hp.2 _, fun _ h => Option.some.inj h ▸ hp.1⟩
  | ask => exact ⟨hp _, nofun⟩

/-- **A run on a repository that implements the store is a run on the store**, with the same events, if its accesses
fit: some of that is known of the requests (`own`), the rest of the run (`outside`). -/
theorem Repository.RunOn.traced {own outside : Access κ σ → Prop} {s₀ s : S} {starts ps : List (Prog κ σ ε' A α)}
    {trace : Trace κ σ A} (h : r.RunOn env request s₀ starts trace s ps) (hr : r.Implements fits Abs)
    (habs : Abs [] s₀) (hown : ∀ p, request p → p.Accesses own)
    (houtside : ∀ e ∈ trace, ∀ access, e.2.access? = some access → outside access)
    (hfits : ∀ access, own access → outside access → fits access) :
    Traced env request starts trace ⟨logOf trace, ps⟩ ∧ Abs (logOf trace) s ∧ ∀ p ∈ ps, p.Accesses own := by
  induction h with
  | init => exact ⟨.init, habs, nofun⟩
  | spawn _ hp ih =>
    obtain ⟨ht, habs, hps⟩ := ih houtside
    refine ⟨ht.spawn hp, habs, fun p hmem => ?_⟩
    rcases List.mem_append.mp hmem with hmem | hmem
    · exact hps p hmem
    · exact List.mem_singleton.mp hmem ▸ hown _ hp
  | @step starts trace s s' ps qs p p' ev _ hs ih =>
    obtain ⟨hev, hrest⟩ := List.forall_mem_cons.mp houtside
    obtain ⟨ht, habs, hps⟩ := ih hrest
    obtain ⟨hp', haccess⟩ := hs.accesses (hps p (by simp))
    obtain ⟨hemits, habs'⟩ := hs.emits hr habs fun access ha => hfits access (haccess access ha) (hev access ha)
    rw [logOf_cons]
    refine ⟨ht.step hemits, habs', fun p₁ hmem => ?_⟩
    rcases List.mem_append.mp hmem with hmem | hmem
    · exact hps p₁ (List.mem_append_left _ hmem)
    · rcases List.mem_cons.mp hmem with rfl | hmem
      · exact hp'
      · exact hps p₁ (List.mem_append_right _ (List.mem_cons_of_mem _ hmem))

/-- A step on the store is a step on the repository. -/
theorem Emits.emitsOn {log log' : List σ} {s : S} {p p' : Prog κ σ ε' A α} {ev : Event κ σ A}
    (h : Emits env log p ev log' p') (hr : r.Implements fits Abs) (habs : Abs log s)
    (hfits : ∀ access, ev.access? = some access → fits access) :
    ∃ s', r.EmitsOn env s p ev s' p' ∧ Abs log' s' := by
  cases h with
  | @get k next =>
    have hnext := hr.next log s (.get k) habs (hfits _ rfl)
    cases hcurrent : current log k with
    | none =>
      obtain ⟨e, he, hdenial⟩ := (hr.denies_iff habs (hfits _ rfl)).mpr (answerOf_get_eq_error.mpr ⟨hcurrent, rfl⟩)
      exact ⟨_, .missing he hdenial, hnext⟩
    | some c =>
      have hcall := (hr.call_eq_ok_iff habs (hfits _ rfl)).mpr (answerOf_get_eq_ok.mpr hcurrent)
      exact ⟨_, .found hcall, hnext⟩
  | @saved c expected next hacc =>
    have hexpects := expects_natCast.mpr hacc
    have hnext := hr.next log s (.save c (expected.map Nat.cast)) habs (hfits _ rfl)
    have hcall := (hr.call_eq_ok_iff habs (hfits _ rfl)).mpr (answerOf_of_expects hexpects)
    rw [logAfter_of_expects hexpects, storedAt_natCast] at hnext
    rw [storedAt_natCast] at hcall
    exact ⟨_, .saved hcall, hnext⟩
  | @refused c expected next hacc =>
    have hexpects : ¬ Expects log c (expected.map Nat.cast) := fun hexpects => hacc (expects_natCast.mp hexpects)
    have hnext := hr.next log s (.save c (expected.map Nat.cast)) habs (hfits _ rfl)
    rw [logAfter_of_not_expects hexpects] at hnext
    obtain ⟨e, he, hdenial⟩ := (hr.denies_iff habs (hfits _ rfl)).mpr (answerOf_of_not_expects hexpects)
    exact ⟨_, .refused he hdenial, hnext⟩
  | ask ha => exact ⟨s, .ask ha, habs⟩

/-- **A run on the store is a run on a repository that implements it**, if its accesses fit. -/
theorem Traced.runOn {s₀ : S} {starts : List (Prog κ σ ε' A α)} {trace : Trace κ σ A} {cfg : Config κ σ ε' A α}
    (h : Traced env request starts trace cfg) (hr : r.Implements fits Abs) (habs : Abs [] s₀)
    (hfits : ∀ e ∈ trace, ∀ access, e.2.access? = some access → fits access) :
    ∃ s, r.RunOn env request s₀ starts trace s cfg.threads ∧ Abs cfg.saved s := by
  induction h with
  | init => exact ⟨s₀, .init, habs⟩
  | spawn _ hp ih =>
    obtain ⟨s, hrun, habs⟩ := ih hfits
    exact ⟨s, hrun.spawn hp, habs⟩
  | step _ hs ih =>
    obtain ⟨hev, hrest⟩ := List.forall_mem_cons.mp hfits
    obtain ⟨s, hrun, habs⟩ := ih hrest
    obtain ⟨s', hs', habs'⟩ := hs.emitsOn hr habs hev
    exact ⟨s', hrun.step hs', habs'⟩

end Runs

end DayMend.Base
