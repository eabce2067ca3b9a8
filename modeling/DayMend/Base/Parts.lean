import DayMend.Base.Refine
import Mathlib.Data.List.ReduceOption
import Mathlib.Data.Sum.Basic

/-!
# Parts of a store

A system may keep values of several kinds, each under keys of its own, and have programs
that use one kind and programs that use more. What it keeps of one kind is a part of its
store (`Part`), and a program written for that store alone is a program of the system
(`Prog.onPart`).

Seen from a part, the system's programs do only what they do to that part. A program
imitates one of the part's own (`Part.Imitates`) when, however it is answered and whatever
it finds elsewhere, the other can be answered so that it makes the same reads and saves,
and returns what it returns. A program that first looks elsewhere, and thereby decides what
to do, becomes such a program later, or never (`Part.Becomes`). So **every run of the system
is on each part a run of that part's own programs** (`Part.exists_reachable`), which start
when the system's programs get to them.
-/

namespace DayMend.Base

/-- What a system keeps of one kind: the values `inj c`, under the keys `key k`. -/
structure Part (κ₁ σ₁ κ σ : Type) [Versioned κ₁ σ₁] [Versioned κ σ] where
  key : κ₁ → κ
  inj : σ₁ → σ
  proj : σ → Option σ₁
  key_injective : Function.Injective key
  proj_eq_some {s : σ} {c : σ₁} : proj s = some c ↔ s = inj c
  key_inj (c : σ₁) : Versioned.key (inj c) = key (Versioned.key c)
  exists_of_key {s : σ} {k : κ₁} (h : Versioned.key s = key k) : ∃ c, s = inj c
  version_inj (c : σ₁) : version (inj c) = version c
  setVersion_inj (n : ℕ) (c : σ₁) : setVersion n (inj c) = inj (setVersion n c)

/-! ### Two kinds of values -/

section Sum

variable {κ₁ κ₂ σ₁ σ₂ : Type} [Versioned κ₁ σ₁] [Versioned κ₂ σ₂]

instance : Versioned (κ₁ ⊕ κ₂) (σ₁ ⊕ σ₂) where
  key := Sum.map key key
  version := Sum.elim version version
  setVersion n := Sum.map (setVersion n) (setVersion n)
  key_setVersion n c := by cases c <;> simp
  version_setVersion n c := by cases c <;> simp

/-- The values of the first kind. -/
def Part.left : Part κ₁ σ₁ (κ₁ ⊕ κ₂) (σ₁ ⊕ σ₂) where
  key := .inl
  inj := .inl
  proj := Sum.getLeft?
  key_injective := Sum.inl_injective
  proj_eq_some := Sum.getLeft?_eq_some_iff
  key_inj _ := rfl
  exists_of_key {s _} h := by
    cases s with
    | inl c => exact ⟨c, rfl⟩
    | inr c => cases h
  version_inj _ := rfl
  setVersion_inj _ _ := rfl

/-- The values of the second kind. -/
def Part.right : Part κ₂ σ₂ (κ₁ ⊕ κ₂) (σ₁ ⊕ σ₂) where
  key := .inr
  inj := .inr
  proj := Sum.getRight?
  key_injective := Sum.inr_injective
  proj_eq_some := Sum.getRight?_eq_some_iff
  key_inj _ := rfl
  exists_of_key {s _} h := by
    cases s with
    | inl c => cases h
    | inr c => exact ⟨c, rfl⟩
  version_inj _ := rfl
  setVersion_inj _ _ := rfl

end Sum

/-! ### The log of a part -/

namespace Part

variable {κ₁ σ₁ κ σ : Type} [Versioned κ₁ σ₁] [Versioned κ σ] (part : Part κ₁ σ₁ κ σ)

@[simp] theorem proj_inj (c : σ₁) : part.proj (part.inj c) = some c := part.proj_eq_some.mpr rfl

/-- What the part gives out, it takes in. -/
theorem bind_proj_map (r : Option σ₁) : (r.map part.inj).bind part.proj = r := by
  cases r <;> simp

/-- What of a log belongs to the part. -/
def of (saved : List σ) : List σ₁ := saved.filterMap part.proj

@[simp] theorem of_nil : part.of [] = [] := rfl

@[simp] theorem of_cons_inj (c : σ₁) (l : List σ) : part.of (part.inj c :: l) = c :: part.of l :=
  List.filterMap_cons_some (part.proj_inj c)

theorem of_cons_of_none {s : σ} (h : part.proj s = none) (l : List σ) : part.of (s :: l) = part.of l :=
  List.filterMap_cons_none h

theorem mem_of {c : σ₁} {l : List σ} : c ∈ part.of l ↔ part.inj c ∈ l := by
  rw [of, List.mem_filterMap]
  constructor
  · rintro ⟨s, hs, hc⟩
    obtain rfl := part.proj_eq_some.mp hc
    exact hs
  · exact fun h => ⟨_, h, part.proj_inj c⟩

@[simp] theorem stored_inj (c : σ₁) (e : Option ℕ) : stored (part.inj c) e = part.inj (stored c e) := by
  simp only [stored, part.version_inj, part.setVersion_inj]

theorem proj_stored {s : σ} (h : part.proj s = none) (e : Option ℕ) : part.proj (stored s e) = none := by
  cases hproj : part.proj (stored s e) with
  | none => rfl
  | some d =>
    have hkey : Versioned.key s = part.key (Versioned.key d) := by
      rw [← part.key_inj, ← part.proj_eq_some.mp hproj, key_stored]
    obtain ⟨c, rfl⟩ := part.exists_of_key hkey
    rw [part.proj_inj] at h
    cases h

variable [DecidableEq κ₁] [DecidableEq κ]

/-- The part's own keys have the part's own values. -/
theorem current_of (l : List σ) (k : κ₁) : current l (part.key k) = (current (part.of l) k).map part.inj := by
  induction l with
  | nil => rfl
  | cons s l ih =>
    by_cases hkey : Versioned.key s = part.key k
    · obtain ⟨c, rfl⟩ := part.exists_of_key hkey
      rw [part.key_inj] at hkey
      rw [part.of_cons_inj, current_cons (by rw [part.key_inj, hkey]), current_cons (part.key_injective hkey)]
      rfl
    · rw [current_cons_of_ne hkey, ih]
      cases hproj : part.proj s with
      | none => rw [part.of_cons_of_none hproj]
      | some c =>
        obtain rfl := part.proj_eq_some.mp hproj
        rw [part.key_inj] at hkey
        rw [part.of_cons_inj, current_cons_of_ne fun h => hkey (congrArg part.key h)]

theorem accepts_inj {l : List σ} {c : σ₁} {e : Option ℕ} : Accepts l (part.inj c) e ↔ Accepts (part.of l) c e := by
  rw [Accepts, Accepts, part.key_inj, part.current_of, Option.map_map]
  exact iff_of_eq (congrArg (· = e) (congrArg (Option.map · _) (funext part.version_inj)))

end Part

/-! ### Programs of a part -/

section Programs

variable {κ₁ κ₂ σ₁ σ₂ κ σ ε ε' ε₂ Q Q' Q₂ : Type} {A : Q → Type} {A' : Q' → Type} {A₂ : Q₂ → Type} {α β γ : Type}
  [Versioned κ₁ σ₁] [Versioned κ₂ σ₂] [Versioned κ σ]

/-- A program of the part, as a program of the system: with a handler for its questions, and its failures renamed. -/
def Prog.onPart (part : Part κ₁ σ₁ κ σ) (handle : (q : Q') → Prog κ σ ε A (A' q)) (rename : ε' → ε) :
    Prog κ₁ σ₁ ε' A' α → Prog κ σ ε A α
  | ret a => ret a
  | raise e => raise (rename e)
  | get k next => get (part.key k) fun r => (next (r.bind part.proj)).onPart part handle rename
  | save c e next => save (part.inj c) e fun r => (next (r.bind part.proj)).onPart part handle rename
  | ask q next => (handle q).bind fun a => (next a).onPart part handle rename

/-- **What a program returns**, when what it finds in the store is one of the values `saved`. -/
def Prog.Yields (env : (q : Q) → A q → Prop) (saved : List σ) (post : α → Prop) : Prog κ σ ε A α → Prop
  | ret a => post a
  | raise _ => True
  | get _ next => ∀ r : Option σ, (∀ c, r = some c → c ∈ saved) → (next r).Yields env saved post
  | save c e next =>
    (stored c e ∈ saved → (next (some (stored c e))).Yields env saved post) ∧ (next none).Yields env saved post
  | ask q next => ∀ a, env q a → (next a).Yields env saved post

namespace Part

variable (part : Part κ₁ σ₁ κ σ) (env : (q : Q) → A q → Prop) (env' : (q : Q') → A' q → Prop) (saved : List σ)
  (returns : α → Option β)

/-- **A program imitates one of the part's own**: however it is answered, and whatever of the values `saved` it finds
elsewhere, the other can be answered so that it makes the same reads and saves, and returns what it returns. -/
def Imitates : Prog κ σ ε A α → Prog κ₁ σ₁ ε' A' β → Prop
  | .ret a, m => ∀ b, returns a = some b → Answered env' m (.ret b)
  | .raise _, _ => True
  | .get k next, m =>
    (∃ k₁ next', k = part.key k₁ ∧ Answered env' m (.get k₁ next') ∧
      ∀ r : Option σ₁, Imitates (next (r.map part.inj)) (next' r)) ∨
    ((∀ k₁, k ≠ part.key k₁) ∧ ∀ r : Option σ, (∀ c, r = some c → c ∈ saved) → Imitates (next r) m)
  | .save c e next, m =>
    (∃ c₁ next', c = part.inj c₁ ∧ Answered env' m (.save c₁ e next') ∧
      ∀ r : Option σ₁, Imitates (next (r.map part.inj)) (next' r)) ∨
    (part.proj c = none ∧ (stored c e ∈ saved → Imitates (next (some (stored c e))) m) ∧ Imitates (next none) m)
  | .ask q next, m => ∀ a, env q a → Imitates (next a) m

variable (request : Prog κ₁ σ₁ ε' A' β → Prop)

/-- **A program becomes a request of the part**, if it ever gets to the part. -/
inductive Becomes : Prog κ σ ε A α → Prop where
  /-- It is one. -/
  | request {p : Prog κ σ ε A α} {m : Prog κ₁ σ₁ ε' A' β} (hm : request m)
      (himitates : part.Imitates env env' saved returns p m) : Becomes p
  /-- It returns nothing of the part. -/
  | ret {a : α} (h : returns a = none) : Becomes (.ret a)
  /-- It fails. -/
  | raise {e : ε} : Becomes (.raise e)
  /-- It looks elsewhere. -/
  | get {k : κ} {next : Option σ → Prog κ σ ε A α} (hk : ∀ k₁, k ≠ part.key k₁)
      (hnext : ∀ r : Option σ, (∀ c, r = some c → c ∈ saved) → Becomes (next r)) : Becomes (.get k next)
  /-- It saves elsewhere. -/
  | save {c : σ} {e : Option ℕ} {next : Option σ → Prog κ σ ε A α} (hc : part.proj c = none)
      (hsaved : stored c e ∈ saved → Becomes (next (some (stored c e)))) (hrefused : Becomes (next none)) :
      Becomes (.save c e next)
  /-- It is answered. -/
  | ask {q : Q} {next : A q → Prog κ σ ε A α} (hnext : ∀ a, env q a → Becomes (next a)) : Becomes (.ask q next)

/-- What a thread of the system is seen to be from the part: nothing yet, or a thread of the part. -/
def Shows (p : Prog κ σ ε A α) : Option (Prog κ₁ σ₁ ε' A' β) → Prop
  | none => part.Becomes env env' saved returns request p ∧ ∀ a, p = .ret a → returns a = none
  | some m => part.Imitates env env' saved returns p m ∧ ∀ a b, p = .ret a → returns a = some b → m = .ret b

/-- Two parts have no keys in common. -/
def Apart (part₂ : Part κ₂ σ₂ κ σ) : Prop := ∀ k₁ k₂, part₂.key k₂ ≠ part.key k₁

end Part

/-! ### Composition -/

section Composition

variable {part : Part κ₁ σ₁ κ σ} {part₂ : Part κ₂ σ₂ κ σ} {env : (q : Q) → A q → Prop} {env' : (q : Q') → A' q → Prop}
  {env₂ : (q : Q₂) → A₂ q → Prop} {saved : List σ} {returns : α → Option β} {p : Prog κ σ ε A α}
  {m m' : Prog κ₁ σ₁ ε' A' β}

/-- What holds of whatever a program could return. -/
theorem Prog.Yields.of_forall {post : α → Prop} (h : ∀ a, post a) : p.Yields env saved post := by
  induction p with
  | ret a => exact h a
  | raise e => trivial
  | get k next ih => exact fun r _ => ih r
  | save c e next ih => exact ⟨fun _ => ih _, ih _⟩
  | ask q next ih => exact fun a _ => ih a

namespace Part

/-- What is saved in another part is not of this one. -/
theorem Apart.proj_inj (h : part.Apart part₂) (c : σ₂) : part.proj (part₂.inj c) = none := by
  cases hproj : part.proj (part₂.inj c) with
  | none => rfl
  | some d =>
    have hkey : part₂.key (Versioned.key c) = part.key (Versioned.key d) := by
      rw [← part₂.key_inj, ← part.key_inj, part.proj_eq_some.mp hproj]
    exact absurd hkey (h _ _)

/-- Before it does what the program does, the other may ask. -/
theorem Imitates.of_answered (hanswered : Answered env' m m') (h : part.Imitates env env' saved returns p m') :
    part.Imitates env env' saved returns p m := by
  induction p generalizing m m' with
  | ret a => exact fun b hb => hanswered.trans (h b hb)
  | raise e => trivial
  | get k next ih =>
    rcases h with ⟨k₁, next', hk, hget, hnext⟩ | ⟨hk, hnext⟩
    · exact Or.inl ⟨k₁, next', hk, hanswered.trans hget, hnext⟩
    · exact Or.inr ⟨hk, fun r hr => ih r hanswered (hnext r hr)⟩
  | save c e next ih =>
    rcases h with ⟨c₁, next', hc, hsave, hnext⟩ | ⟨hc, hstored, hrefused⟩
    · exact Or.inl ⟨c₁, next', hc, hanswered.trans hsave, hnext⟩
    · exact Or.inr ⟨hc, fun hmem => ih _ hanswered (hstored hmem), ih _ hanswered hrefused⟩
  | ask q next ih => exact fun a ha => ih a hanswered (h a ha)

/-- What only asks first plays no part. -/
theorem imitates_bind_of_onlyAsks {q : Prog κ σ ε A γ} {f : γ → Prog κ σ ε A α} (hq : q.OnlyAsks)
    (hf : ∀ c, q.Outcome env (.ok c) → part.Imitates env env' saved returns (f c) m) :
    part.Imitates env env' saved returns (q >>= f) m := by
  change part.Imitates env env' saved returns (q.bind f) m
  induction q with
  | ret c => exact hf c rfl
  | raise e => trivial
  | get k next _ => exact hq.elim
  | save c e next _ => exact hq.elim
  | ask question next ih => exact fun a ha => ih a (hq a) fun c hc => hf c ⟨a, ha, hc⟩

/-- **A program of the part, in the system,** imitates itself. -/
theorem imitates_onPart {own : Prog κ₁ σ₁ ε' A' γ} {handle : (q : Q') → Prog κ σ ε A (A' q)} {rename : ε' → ε}
    {f : γ → Prog κ σ ε A α} {g : γ → Prog κ₁ σ₁ ε' A' β} (honly : ∀ q, (handle q).OnlyAsks)
    (hhandle : ∀ q a, (handle q).Outcome env (.ok a) → env' q a)
    (hfg : ∀ c, part.Imitates env env' saved returns (f c) (g c)) :
    part.Imitates env env' saved returns (own.onPart part handle rename >>= f) (own >>= g) := by
  induction own with
  | ret c => exact hfg c
  | raise e => trivial
  | get k next ih =>
    refine Or.inl ⟨k, _, rfl, .refl, fun r => ?_⟩
    change part.Imitates env env' saved returns
      ((next ((r.map part.inj).bind part.proj)).onPart part handle rename >>= f) (next r >>= g)
    rw [part.bind_proj_map]
    exact ih r
  | save c e next ih =>
    refine Or.inl ⟨c, _, rfl, .refl, fun r => ?_⟩
    change part.Imitates env env' saved returns
      ((next ((r.map part.inj).bind part.proj)).onPart part handle rename >>= f) (next r >>= g)
    rw [part.bind_proj_map]
    exact ih r
  | ask q next ih =>
    change part.Imitates env env' saved returns
      ((handle q >>= fun a => (next a).onPart part handle rename) >>= f) _
    rw [bind_assoc_eq]
    exact imitates_bind_of_onlyAsks (honly q) fun a ha => .of_answered (.ask (hhandle q a ha) .refl) (ih a)

/-- A program of the part whose result is handed on imitates the program. -/
theorem imitates_own {own : Prog κ₁ σ₁ ε' A' β} {handle : (q : Q') → Prog κ σ ε A (A' q)} {rename : ε' → ε}
    {result : β → α} (honly : ∀ q, (handle q).OnlyAsks) (hhandle : ∀ q a, (handle q).Outcome env (.ok a) → env' q a)
    (hresult : ∀ b, returns (result b) = some b) :
    part.Imitates env env' saved returns (own.onPart part handle rename >>= fun b => .ret (result b)) own := by
  have himitates : part.Imitates env env' saved returns
      (own.onPart part handle rename >>= fun b => .ret (result b)) (own >>= Prog.ret) := by
    refine imitates_onPart honly hhandle fun b b' hb' => ?_
    obtain rfl := Option.some.inj ((hresult b).symm.trans hb')
    exact .refl
  rwa [bind_ret_eq] at himitates

/-- **A program of another part** plays no part. -/
theorem imitates_onPart_of_apart (hapart : part.Apart part₂) {other : Prog κ₂ σ₂ ε₂ A₂ γ}
    {handle : (q : Q₂) → Prog κ σ ε A (A₂ q)} {rename : ε₂ → ε} {f : γ → Prog κ σ ε A α}
    (honly : ∀ q, (handle q).OnlyAsks) (hf : ∀ c, part.Imitates env env' saved returns (f c) m) :
    part.Imitates env env' saved returns (other.onPart part₂ handle rename >>= f) m := by
  induction other with
  | ret c => exact hf c
  | raise e => trivial
  | get k next ih => exact Or.inr ⟨fun k₁ => hapart k₁ k, fun r _ => ih _⟩
  | save c e next ih => exact Or.inr ⟨hapart.proj_inj c, fun _ => ih _, ih _⟩
  | ask q next ih =>
    change part.Imitates env env' saved returns
      ((handle q >>= fun a => (next a).onPart part₂ handle rename) >>= f) _
    rw [bind_assoc_eq]
    exact imitates_bind_of_onlyAsks (honly q) fun a _ => ih a

variable {request : Prog κ₁ σ₁ ε' A' β → Prop}

theorem becomes_bind_of_onlyAsks {q : Prog κ σ ε A γ} {f : γ → Prog κ σ ε A α} (hq : q.OnlyAsks)
    (hf : ∀ c, q.Outcome env (.ok c) → part.Becomes env env' saved returns request (f c)) :
    part.Becomes env env' saved returns request (q >>= f) := by
  change part.Becomes env env' saved returns request (q.bind f)
  induction q with
  | ret c => exact hf c rfl
  | raise e => exact .raise
  | get k next _ => exact hq.elim
  | save c e next _ => exact hq.elim
  | ask question next ih => exact .ask fun a ha => ih a (hq a) fun c hc => hf c ⟨a, ha, hc⟩

/-- **A program of another part decides** what becomes a request of this one. -/
theorem becomes_onPart_of_apart (hapart : part.Apart part₂) {other : Prog κ₂ σ₂ ε₂ A₂ γ}
    {handle : (q : Q₂) → Prog κ σ ε A (A₂ q)} {rename : ε₂ → ε} {f : γ → Prog κ σ ε A α} {post : γ → Prop}
    (honly : ∀ q, (handle q).OnlyAsks) (hhandle : ∀ q a, (handle q).Outcome env (.ok a) → env₂ q a)
    (hyields : other.Yields env₂ (part₂.of saved) post)
    (hf : ∀ c, post c → part.Becomes env env' saved returns request (f c)) :
    part.Becomes env env' saved returns request (other.onPart part₂ handle rename >>= f) := by
  induction other with
  | ret c => exact hf c hyields
  | raise e => exact .raise
  | get k next ih =>
    refine .get (fun k₁ => hapart k₁ k) fun r hr => ih _ (hyields _ fun c hc => ?_)
    obtain ⟨s, rfl, hs⟩ := Option.bind_eq_some_iff.mp hc
    exact List.mem_filterMap.mpr ⟨s, hr s rfl, hs⟩
  | save c e next ih =>
    refine .save (hapart.proj_inj c) (fun hmem => ?_) (ih _ hyields.2)
    rw [part₂.stored_inj] at hmem ⊢
    have hstored := hyields.1 (part₂.mem_of.mpr hmem)
    rw [← part₂.proj_inj (stored c e)] at hstored
    exact ih _ hstored
  | ask q next ih =>
    change part.Becomes env env' saved returns request
      ((handle q >>= fun a => (next a).onPart part₂ handle rename) >>= f)
    rw [bind_assoc_eq]
    exact becomes_bind_of_onlyAsks (honly q) fun a ha => ih a (hyields a (hhandle q a ha))

end Part

end Composition

end Programs

/-! ### Runs -/

section Runs

variable {κ₁ σ₁ κ σ ε ε' Q Q' : Type} {A : Q → Type} {A' : Q' → Type} {α β : Type} [Versioned κ₁ σ₁] [Versioned κ σ]
  [DecidableEq κ₁] [DecidableEq κ] {env : (q : Q) → A q → Prop} {env' : (q : Q') → A' q → Prop}
  {request : Prog κ σ ε A α → Prop} {request' : Prog κ₁ σ₁ ε' A' β → Prop} {saved : List σ} {returns : α → Option β}
  {part : Part κ₁ σ₁ κ σ}

omit [DecidableEq κ₁] [Versioned κ₁ σ₁] in
/-- What has been saved stays in the log. -/
theorem Step.saved_subset {l l' : List σ} {p p' : Prog κ σ ε A α} (h : Step env l p l' p') : l ⊆ l' := by
  cases h with
  | get => exact List.Subset.refl l
  | saved => exact List.subset_cons_self ..
  | refused => exact List.Subset.refl l
  | ask => exact List.Subset.refl l

/-- A request may have come at any place among the others. -/
theorem Reachable.insert {p : Prog κ σ ε A α} (hp : request p) {cfg : Config κ σ ε A α}
    (h : Reachable env request cfg) :
    ∀ {ps qs : List (Prog κ σ ε A α)}, cfg.threads = ps ++ qs → Reachable env request ⟨cfg.saved, ps ++ p :: qs⟩ := by
  induction h with
  | init =>
    intro ps qs heq
    obtain ⟨rfl, rfl⟩ := List.append_eq_nil_iff.mp heq.symm
    exact .spawn .init hp
  | @spawn l threads r hreach hr ih =>
    intro ps qs heq
    rcases List.eq_nil_or_concat qs with rfl | ⟨qs, r', rfl⟩
    · rw [List.append_nil] at heq
      subst heq
      exact .spawn (.spawn hreach hr) hp
    · rw [List.concat_eq_append, ← List.append_assoc] at heq
      obtain ⟨rfl, hlast⟩ := List.append_inj' heq rfl
      cases hlast
      have hspawned := (ih rfl).spawn hr
      simpa using hspawned
  | @step l l' before after r r' hreach hs ih =>
    intro ps qs heq
    rcases List.append_eq_append_iff.mp heq with ⟨between, rfl, hafter⟩ | ⟨between, rfl, rfl⟩
    · cases between with
      | nil =>
        rw [List.nil_append] at hafter
        subst hafter
        have hinserted : Reachable env request ⟨l, (before ++ [p]) ++ r :: after⟩ := by
          simpa using @ih before (r :: after) rfl
        simpa using hinserted.step hs
      | cons r'' between =>
        obtain ⟨rfl, rfl⟩ := List.cons.inj hafter
        have hinserted : Reachable env request ⟨l, before ++ r :: (between ++ p :: qs)⟩ := by
          simpa using @ih (before ++ r :: between) qs (by simp)
        simpa using hinserted.step hs
    · have hinserted : Reachable env request ⟨l, (ps ++ p :: between) ++ r :: after⟩ := by
        simpa using @ih ps (between ++ r :: after) (by simp)
      simpa using hinserted.step hs

namespace Part

omit [DecidableEq κ₁] [DecidableEq κ] in
/-- A program that imitates another can be followed by it. -/
theorem exists_shows {p : Prog κ σ ε A α} {m : Prog κ₁ σ₁ ε' A' β}
    (h : part.Imitates env env' saved returns p m) :
    ∃ m', Answered env' m m' ∧ part.Shows env env' saved returns request' p (some m') := by
  cases p with
  | ret a =>
    cases hreturns : returns a with
    | none => exact ⟨m, .refl, h, fun a' b ha hb => by cases ha; rw [hreturns] at hb; cases hb⟩
    | some b =>
      refine ⟨.ret b, h b hreturns, ?_, ?_⟩
      · intro b' hb'
        rw [hreturns] at hb'
        cases hb'
        exact .refl
      · intro a' b' ha hb'
        cases ha
        rw [hreturns] at hb'
        cases hb'
        rfl
  | raise e => exact ⟨m, .refl, h, by rintro _ _ ⟨⟩⟩
  | get k next => exact ⟨m, .refl, h, by rintro _ _ ⟨⟩⟩
  | save c e next => exact ⟨m, .refl, h, by rintro _ _ ⟨⟩⟩
  | ask q next => exact ⟨m, .refl, h, by rintro _ _ ⟨⟩⟩

/-- **One step** of a program that imitates another is followed by steps of the other, on the part. -/
theorem exists_shows_step {l l' : List σ} {p p' : Prog κ σ ε A α} {m : Prog κ₁ σ₁ ε' A' β} (hs : Step env l p l' p')
    (h : part.Imitates env env' saved returns p m) (hsaved : ∀ c ∈ l', c ∈ saved)
    {ms ns : List (Prog κ₁ σ₁ ε' A' β)} (hreach : Reachable env' request' ⟨part.of l, ms ++ m :: ns⟩) :
    ∃ m', Reachable env' request' ⟨part.of l', ms ++ m' :: ns⟩ ∧
      part.Shows env env' saved returns request' p' (some m') := by
  have hfinish : ∀ m₁, Reachable env' request' ⟨part.of l', ms ++ m₁ :: ns⟩ →
      part.Imitates env env' saved returns p' m₁ → ∃ m', Reachable env' request' ⟨part.of l', ms ++ m' :: ns⟩ ∧
        part.Shows env env' saved returns request' p' (some m') := by
    intro m₁ hm₁ himitates
    obtain ⟨m', hanswered, hshows⟩ := exists_shows himitates
    exact ⟨m', hm₁.answered hanswered, hshows⟩
  cases hs with
  | get =>
    rcases h with ⟨k₁, next', rfl, hget, hnext⟩ | ⟨-, hnext⟩
    · rw [part.current_of] at hfinish ⊢
      exact hfinish _ ((hreach.answered hget).step .get) (hnext _)
    · exact hfinish _ hreach (hnext _ fun c hc => hsaved c (List.mem_of_find?_eq_some hc))
  | saved hacc =>
    rcases h with ⟨c₁, next', rfl, hsave, hnext⟩ | ⟨hother, hnext, -⟩
    · rw [part.stored_inj, part.of_cons_inj] at hfinish ⊢
      exact hfinish _ ((hreach.answered hsave).step (.saved (part.accepts_inj.mp hacc))) (hnext (some _))
    · rw [part.of_cons_of_none (part.proj_stored hother _)] at hfinish ⊢
      exact hfinish _ hreach (hnext (hsaved _ (List.mem_cons_self ..)))
  | refused hacc =>
    rcases h with ⟨c₁, next', rfl, hsave, hnext⟩ | ⟨-, -, hnext⟩
    · exact hfinish _ ((hreach.answered hsave).step (.refused fun h => hacc (part.accepts_inj.mpr h))) (hnext none)
    · exact hfinish _ hreach hnext
  | ask ha => exact hfinish _ hreach (h _ ha)

omit [DecidableEq κ] in
/-- A program that becomes a request is one by now, or returns nothing of the part. -/
theorem exists_shown {l : List σ} {p : Prog κ σ ε A α} (h : part.Becomes env env' saved returns request' p)
    {ms ns : List (Prog κ₁ σ₁ ε' A' β)} (hreach : Reachable env' request' ⟨part.of l, ms ++ ns⟩) :
    ∃ u, Reachable env' request' ⟨part.of l, ms ++ u.toList ++ ns⟩ ∧
      part.Shows env env' saved returns request' p u := by
  have hquiet : (∀ a, p = .ret a → returns a = none) → ∃ u, Reachable env' request' ⟨part.of l, ms ++ u.toList ++ ns⟩ ∧
      part.Shows env env' saved returns request' p u :=
    fun hnone => ⟨none, by simpa using hreach, h, hnone⟩
  cases h with
  | request hm himitates =>
    obtain ⟨m', hanswered, hshows⟩ := exists_shows himitates
    exact ⟨some m', by simpa using (Reachable.insert hm hreach rfl).answered hanswered, hshows⟩
  | ret hnone => exact hquiet fun a ha => by cases ha; exact hnone
  | raise => exact hquiet (by rintro _ ⟨⟩)
  | get => exact hquiet (by rintro _ ⟨⟩)
  | save => exact hquiet (by rintro _ ⟨⟩)
  | ask => exact hquiet (by rintro _ ⟨⟩)

/-- **Every run of the system is on the part a run of the part's own programs**: with the part of the log, and with
what its programs return. -/
theorem exists_reachable (hrequest : ∀ p, request p → part.Becomes env env' saved returns request' p)
    {cfg : Config κ σ ε A α} (h : Reachable env request cfg) (hsaved : ∀ c ∈ cfg.saved, c ∈ saved) :
    ∃ ms, Reachable env' request' ⟨part.of cfg.saved, ms.reduceOption⟩ ∧
      List.Forall₂ (part.Shows env env' saved returns request') cfg.threads ms := by
  induction h with
  | init => exact ⟨[], .init, .nil⟩
  | @spawn l ps p _ hp ih =>
    obtain ⟨ms, hms, hshows⟩ := ih hsaved
    have hms' : Reachable env' request' ⟨part.of l, ms.reduceOption ++ []⟩ := by rwa [List.append_nil]
    obtain ⟨u, hu, hshown⟩ := exists_shown (hrequest p hp) hms'
    refine ⟨ms ++ [u], ?_, List.rel_append hshows (.cons hshown .nil)⟩
    simpa [List.reduceOption_append, List.reduceOption_singleton] using hu
  | @step l l' before after p p' _ hs ih =>
    obtain ⟨ms, hms, hshows⟩ := ih fun c hc => hsaved c (hs.saved_subset hc)
    obtain ⟨us, u, vs, rfl, hus, hu, hvs⟩ := exists_of_forall₂_append_cons hshows
    rw [List.reduceOption_append] at hms
    suffices hnext : ∃ u', Reachable env' request' ⟨part.of l', us.reduceOption ++ u'.toList ++ vs.reduceOption⟩ ∧
        part.Shows env env' saved returns request' p' u' by
      obtain ⟨u', hreach, hshows'⟩ := hnext
      refine ⟨us ++ u' :: vs, ?_, List.rel_append hus (.cons hshows' hvs)⟩
      cases u' <;> simpa [List.reduceOption_append] using hreach
    have hstep : ∀ m, part.Imitates env env' saved returns p m →
        Reachable env' request' ⟨part.of l, us.reduceOption ++ m :: vs.reduceOption⟩ →
          ∃ u', Reachable env' request' ⟨part.of l', us.reduceOption ++ u'.toList ++ vs.reduceOption⟩ ∧
            part.Shows env env' saved returns request' p' u' := by
      intro m himitates hreach
      obtain ⟨m', hreach', hshows'⟩ := exists_shows_step hs himitates hsaved hreach
      exact ⟨some m', by simpa using hreach', hshows'⟩
    cases u with
    | some m => exact hstep m hu.1 hms
    | none =>
      rw [List.reduceOption_cons_of_none] at hms
      cases hu.1 with
      | request hm himitates => exact hstep _ himitates (Reachable.insert hm hms rfl)
      | ret h => cases hs
      | raise => cases hs
      | get hk hnext =>
        cases hs
        exact exists_shown (hnext _ fun c hc => hsaved c (List.mem_of_find?_eq_some hc)) hms
      | save hc hstored hrefused =>
        cases hs with
        | saved hacc =>
          rw [part.of_cons_of_none (part.proj_stored hc _)]
          exact exists_shown (hstored (hsaved _ (List.mem_cons_self ..))) hms
        | refused hacc => exact exists_shown hrefused hms
      | ask hnext =>
        cases hs with
        | ask ha => exact exists_shown (hnext _ ha) hms

omit [DecidableEq κ₁] [DecidableEq κ] in
/-- What a thread of the system has returned of the part, its thread of the part has. -/
theorem Shows.returned {p : Prog κ σ ε A α} {u : Option (Prog κ₁ σ₁ ε' A' β)}
    (h : part.Shows env env' saved returns request' p u) {a : α} {b : β} (hp : p = .ret a)
    (hreturns : returns a = some b) : u = some (.ret b) := by
  cases u with
  | none => exact absurd ((h.2 a hp).symm.trans hreturns) (Option.some_ne_none b).symm
  | some m => exact congrArg some (h.2 a b hp hreturns)

end Part

end Runs

end DayMend.Base
