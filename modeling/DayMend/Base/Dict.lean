import Mathlib.Data.List.Induction
import Mathlib.Data.List.Nodup

/-!
# Insertion-ordered dictionaries

A dictionary keeps its entries in the order in which their keys were first
inserted; inserting a key again replaces its value where it stands. A dictionary
built from a list of pairs therefore holds, for each key, the *last* value the
list gives it (`Dict.get?_ofList_append_singleton`), and every value it holds
comes from the list (`Dict.mem_of_get?_ofList`).
-/

namespace DayMend.Base

variable {κ ν : Type}

/-- Put `v` at `k`: where `k` stands if it is there, at the end otherwise. -/
def insertEntry [DecidableEq κ] (k : κ) (v : ν) : List (κ × ν) → List (κ × ν)
  | [] => [(k, v)]
  | e :: d => if e.1 = k then (k, v) :: d else e :: insertEntry k v d

theorem mem_insertEntry [DecidableEq κ] {k : κ} {v : ν} {e : κ × ν} {d : List (κ × ν)}
    (h : e ∈ insertEntry k v d) : e = (k, v) ∨ e ∈ d := by
  induction d with
  | nil => simpa [insertEntry] using h
  | cons a d ih =>
    simp only [insertEntry] at h
    split at h
    · rcases List.mem_cons.mp h with rfl | h
      · exact Or.inl rfl
      · exact Or.inr (List.mem_cons_of_mem _ h)
    · rcases List.mem_cons.mp h with rfl | h
      · exact Or.inr (List.mem_cons_self ..)
      · exact (ih h).imp_right (List.mem_cons_of_mem _)

theorem mem_keys_insertEntry [DecidableEq κ] {k k' : κ} {v : ν} {d : List (κ × ν)}
    (h : k' ∈ (insertEntry k v d).map Prod.fst) : k' = k ∨ k' ∈ d.map Prod.fst := by
  obtain ⟨e, he, rfl⟩ := List.mem_map.mp h
  rcases mem_insertEntry he with rfl | he
  · exact Or.inl rfl
  · exact Or.inr (List.mem_map_of_mem he)

theorem nodup_insertEntry [DecidableEq κ] (k : κ) (v : ν) {d : List (κ × ν)}
    (h : (d.map Prod.fst).Nodup) : ((insertEntry k v d).map Prod.fst).Nodup := by
  induction d with
  | nil => simp [insertEntry]
  | cons a d ih =>
    simp only [List.map_cons, List.nodup_cons] at h
    simp only [insertEntry]
    split
    next hk => simpa [← hk] using h
    next hk =>
      simp only [List.map_cons, List.nodup_cons]
      refine ⟨fun ha => ?_, ih h.2⟩
      rcases mem_keys_insertEntry ha with ha | ha
      · exact hk ha
      · exact h.1 ha

/-- A dictionary: its entries, oldest key first, no key twice. -/
structure Dict (κ ν : Type) where
  /-- The entries. -/
  entries : List (κ × ν)
  /-- No key occurs twice. -/
  nodup_keys : (entries.map Prod.fst).Nodup

namespace Dict

/-- The empty dictionary. -/
def empty : Dict κ ν := ⟨[], List.nodup_nil⟩

/-- `d[k] = v`. -/
def insert [DecidableEq κ] (d : Dict κ ν) (k : κ) (v : ν) : Dict κ ν :=
  ⟨insertEntry k v d.entries, nodup_insertEntry k v d.nodup_keys⟩

/-- `{k: v for k, v in l}`. -/
def ofList [DecidableEq κ] (l : List (κ × ν)) : Dict κ ν := l.foldl (fun d e => d.insert e.1 e.2) empty

/-- `d.get(k)`. -/
def get? [DecidableEq κ] (d : Dict κ ν) (k : κ) : Option ν := (d.entries.find? (·.1 = k)).map Prod.snd

/-- `d.values()`. -/
def values (d : Dict κ ν) : List ν := d.entries.map Prod.snd

variable [DecidableEq κ]

theorem get?_insert (d : Dict κ ν) (k k' : κ) (v : ν) :
    (d.insert k v).get? k' = if k = k' then some v else d.get? k' := by
  obtain ⟨l, hl⟩ := d
  simp only [get?, insert]
  clear hl
  induction l with
  | nil => by_cases h : k = k' <;> simp [insertEntry, h]
  | cons a l ih =>
    simp only [insertEntry]
    split
    next ha => by_cases h : k = k' <;> simp_all
    next ha =>
      by_cases hk : a.1 = k'
      · have : k ≠ k' := fun h => ha (hk.trans h.symm)
        simp [hk, this]
      · simpa [hk] using ih

/-- Inserting the same entry twice is inserting it once. -/
theorem insert_insert (d : Dict κ ν) (k : κ) (v : ν) : (d.insert k v).insert k v = d.insert k v := by
  obtain ⟨l, hl⟩ := d
  simp only [insert, mk.injEq]
  clear hl
  induction l with
  | nil => simp [insertEntry]
  | cons a l ih =>
    simp only [insertEntry]
    split
    · simp [insertEntry]
    next ha => simp [insertEntry, ha, ih]

theorem ofList_append (l₁ l₂ : List (κ × ν)) :
    ofList (l₁ ++ l₂) = l₂.foldl (fun d e => d.insert e.1 e.2) (ofList l₁) :=
  List.foldl_append ..

theorem ofList_append_singleton (l : List (κ × ν)) (e : κ × ν) :
    ofList (l ++ [e]) = (ofList l).insert e.1 e.2 := ofList_append l [e]

/-- The last entry of the list decides. -/
theorem get?_ofList_append_singleton (l : List (κ × ν)) (e : κ × ν) (k : κ) :
    (ofList (l ++ [e])).get? k = if e.1 = k then some e.2 else (ofList l).get? k := by
  rw [ofList_append_singleton, get?_insert]

theorem mem_entries_of_get? {d : Dict κ ν} {k : κ} {v : ν} (h : d.get? k = some v) : (k, v) ∈ d.entries := by
  simp only [get?, Option.map_eq_some_iff] at h
  obtain ⟨⟨k', v'⟩, hf, rfl⟩ := h
  have hk : k' = k := by simpa using List.find?_some hf
  exact hk ▸ List.mem_of_find?_eq_some hf

theorem mem_of_mem_entries_ofList {l : List (κ × ν)} {e : κ × ν} (h : e ∈ (ofList l).entries) : e ∈ l := by
  induction l using List.reverseRecOn with
  | nil => simp [ofList, empty] at h
  | append_singleton l a ih =>
    rw [ofList_append_singleton] at h
    rcases mem_insertEntry h with rfl | h
    · simp
    · exact List.mem_append_left _ (ih h)

/-- What a dictionary built from a list gives for a key was paired with it in the list. -/
theorem mem_of_get?_ofList {l : List (κ × ν)} {k : κ} {v : ν} (h : (ofList l).get? k = some v) : (k, v) ∈ l :=
  mem_of_mem_entries_ofList (mem_entries_of_get? h)

/-- A dictionary built from a list has every key of the list. -/
theorem exists_get?_of_mem {l : List (κ × ν)} {k : κ} (h : k ∈ l.map Prod.fst) : ∃ v, (ofList l).get? k = some v := by
  induction l using List.reverseRecOn with
  | nil => cases h
  | append_singleton l e ih =>
    rw [get?_ofList_append_singleton]
    split
    next => exact ⟨_, rfl⟩
    next hne =>
      rw [List.map_append, List.mem_append] at h
      exact ih (h.resolve_right fun hlast => hne (List.mem_singleton.mp hlast).symm)

/-- The keys of a dictionary built from a list are those of the list. -/
theorem mem_keys_ofList {l : List (κ × ν)} {k : κ} : k ∈ (ofList l).entries.map Prod.fst ↔ k ∈ l.map Prod.fst := by
  constructor
  · intro h
    obtain ⟨entry, hentry, rfl⟩ := List.mem_map.mp h
    exact List.mem_map_of_mem (mem_of_mem_entries_ofList hentry)
  · intro h
    obtain ⟨v, hv⟩ := exists_get?_of_mem h
    exact List.mem_map_of_mem (f := Prod.fst) (mem_entries_of_get? hv)

theorem mem_values_of_get? {d : Dict κ ν} {k : κ} {v : ν} (h : d.get? k = some v) : v ∈ d.values :=
  List.mem_map_of_mem (mem_entries_of_get? h)

/-- Where no key occurs twice, every entry of the list counts. -/
theorem get?_ofList_of_mem {l : List (κ × ν)} (hnodup : (l.map Prod.fst).Nodup) {k : κ} {v : ν} (h : (k, v) ∈ l) :
    (ofList l).get? k = some v := by
  obtain ⟨v', hv'⟩ := exists_get?_of_mem (List.mem_map_of_mem (f := Prod.fst) h)
  have hsame := List.inj_on_of_nodup_map hnodup (mem_of_get?_ofList hv') h rfl
  rw [hv', (Prod.mk.inj hsame).2]

/-- **What a dictionary built from a list gives**: the last value that the list pairs with the key. -/
theorem get?_ofList (l : List (κ × ν)) (k : κ) : (ofList l).get? k = (l.reverse.find? (·.1 = k)).map Prod.snd := by
  induction l using List.reverseRecOn with
  | nil => rfl
  | append_singleton l e ih =>
    rw [get?_ofList_append_singleton, List.reverse_append, List.reverse_singleton, List.singleton_append]
    by_cases hk : e.1 = k
    · simp [hk]
    · simpa [hk] using ih

/-- The first entry counts where no other has its key. -/
theorem get?_ofList_cons (e : κ × ν) (l : List (κ × ν)) (k : κ) :
    (ofList (e :: l)).get? k = ((ofList l).get? k).or (if e.1 = k then some e.2 else none) := by
  rw [get?_ofList, get?_ofList, List.reverse_cons, List.find?_append]
  cases l.reverse.find? (·.1 = k) with
  | some e' => rfl
  | none => by_cases hk : e.1 = k <;> simp [hk]

/-- Where the list is in an order, what counts for a key comes after everything that the list pairs with the key. -/
theorem eq_or_rel_of_get?_ofList {r : κ × ν → κ × ν → Prop} {l : List (κ × ν)} (hl : l.Pairwise r) {k : κ} {v w : ν}
    (h : (ofList l).get? k = some v) (hw : (k, w) ∈ l) : w = v ∨ r (k, w) (k, v) := by
  induction l using List.reverseRecOn with
  | nil => cases hw
  | append_singleton l e ih =>
    obtain ⟨hl, -, hlast⟩ := List.pairwise_append.mp hl
    rw [get?_ofList_append_singleton] at h
    split at h
    next hk =>
      have he : e = (k, v) := Prod.ext hk (Option.some.inj h)
      rcases List.mem_append.mp hw with hw | hw
      · exact Or.inr (he ▸ hlast _ hw e (List.mem_singleton_self e))
      · exact Or.inl (Prod.mk.inj ((List.mem_singleton.mp hw).trans he)).2
    next hne =>
      refine ih hl h ((List.mem_append.mp hw).resolve_right fun hw => hne ?_)
      rw [← List.mem_singleton.mp hw]

/-- Where values carry their keys, a value is in the dictionary if its key gives it. -/
theorem mem_values_iff_get? (f : ν → κ) {l : List ν} {v : ν} :
    v ∈ (ofList (l.map fun x => (f x, x))).values ↔ (ofList (l.map fun x => (f x, x))).get? (f v) = some v := by
  refine ⟨fun h => ?_, mem_values_of_get?⟩
  obtain ⟨entry, hentry, rfl⟩ := List.mem_map.mp h
  obtain ⟨x, -, rfl⟩ := List.mem_map.mp (mem_of_mem_entries_ofList hentry)
  have hfirst := List.inj_on_of_nodup_map (ofList (l.map fun x => (f x, x))).nodup_keys
  cases hget : (ofList (l.map fun x => (f x, x))).get? (f x) with
  | none =>
    obtain ⟨v, hv⟩ := exists_get?_of_mem (List.mem_map_of_mem (f := Prod.fst) (mem_of_mem_entries_ofList hentry))
    rw [hget] at hv
    cases hv
  | some v =>
    have hsame := hfirst (mem_entries_of_get? hget) hentry rfl
    rw [(Prod.mk.inj hsame).2]

/-- Where values carry their keys, the dictionary can be built again from its values. -/
theorem get?_ofList_values (f : ν → κ) (l : List ν) (k : κ) :
    (ofList ((ofList (l.map fun x => (f x, x))).values.map fun x => (f x, x))).get? k =
      (ofList (l.map fun x => (f x, x))).get? k := by
  have hentries : (ofList (l.map fun x => (f x, x))).values.map (fun x => (f x, x)) =
      (ofList (l.map fun x => (f x, x))).entries := by
    rw [values, List.map_map]
    conv_rhs => rw [← List.map_id (ofList (l.map fun x => (f x, x))).entries]
    refine List.map_congr_left fun entry hentry => ?_
    obtain ⟨x, -, rfl⟩ := List.mem_map.mp (mem_of_mem_entries_ofList hentry)
    rfl
  rw [hentries]
  cases hget : (ofList (l.map fun x => (f x, x))).get? k with
  | some v => exact get?_ofList_of_mem (ofList (l.map fun x => (f x, x))).nodup_keys (mem_entries_of_get? hget)
  | none =>
    rw [Option.eq_none_iff_forall_ne_some]
    intro v hv
    obtain ⟨v', hv'⟩ := exists_get?_of_mem
      (List.mem_map_of_mem (f := Prod.fst) (mem_of_mem_entries_ofList (mem_of_get?_ofList hv)))
    rw [hget] at hv'
    cases hv'

/-- Where values carry their keys, no two values of the dictionary have the same key. -/
theorem nodup_map_values (f : ν → κ) (l : List ν) : ((ofList (l.map fun x => (f x, x))).values.map f).Nodup := by
  have hkeys : (ofList (l.map fun x => (f x, x))).values.map f =
      (ofList (l.map fun x => (f x, x))).entries.map Prod.fst := by
    rw [values, List.map_map]
    refine List.map_congr_left fun entry hentry => ?_
    obtain ⟨x, -, rfl⟩ := List.mem_map.mp (mem_of_mem_entries_ofList hentry)
    rfl
  exact hkeys ▸ (ofList (l.map fun x => (f x, x))).nodup_keys

/-- Where two lists of values that carry their keys are put into a dictionary, those of the second count before the
rest: of them the last with its key, and of the rest the last whose key none of them has. -/
theorem mem_values_append_iff {σ : Type} (key : ν → κ) (g : σ → Option ν) {free : List ν} {l : List σ} {v : ν} :
    v ∈ (ofList ((free ++ l.filterMap g).map fun x => (key x, x))).values ↔
      (∃ s, l.reverse.find? (fun t => (g t).map key = (g s).map key) = some s ∧ g s = some v) ∨
        (∀ s ∈ l, (g s).map key ≠ some (key v)) ∧ free.reverse.find? (fun x => key x = key v) = some v := by
  have hkeyed : (fun s => (g s).any fun x => decide (key x = key v)) =
      fun s => decide ((g s).map key = some (key v)) := by
    funext s
    cases hs : g s <;> simp
  have hget : (ofList ((free ++ l.filterMap g).map fun x => (key x, x))).get? (key v) =
      ((l.reverse.find? fun s => (g s).map key = some (key v)).bind g).or
        (free.reverse.find? fun x => key x = key v) := by
    rw [get?_ofList, ← List.map_reverse, List.find?_map, Option.map_map, List.reverse_append, List.find?_append,
      ← List.filterMap_reverse]
    simp only [Function.comp_def, List.find?_filterMap, hkeyed, Option.map_id']
  rw [mem_values_iff_get? key, hget]
  cases hfind : l.reverse.find? (fun s => (g s).map key = some (key v)) with
  | none =>
    have hnone : ∀ s ∈ l, (g s).map key ≠ some (key v) := fun s hs =>
      of_decide_eq_false (by simpa using List.find?_eq_none.mp hfind s (List.mem_reverse.mpr hs))
    rw [Option.bind_none, Option.none_or]
    refine ⟨fun h => Or.inr ⟨hnone, h⟩, ?_⟩
    rintro (⟨s, hs, hv⟩ | ⟨-, h⟩)
    · exact absurd (by rw [hv, Option.map_some]) (hnone s (List.mem_reverse.mp (List.mem_of_find?_eq_some hs)))
    · exact h
  | some t =>
    have hkey : (g t).map key = some (key v) := by simpa using List.find?_some hfind
    obtain ⟨x, hx, hsame⟩ := Option.map_eq_some_iff.mp hkey
    rw [Option.bind_some, hx, Option.some_or]
    constructor
    · intro h
      obtain rfl := Option.some.inj h
      refine Or.inl ⟨t, ?_, hx⟩
      rw [hkey]
      exact hfind
    · rintro (⟨s, hs, hv⟩ | ⟨hnone, -⟩)
      · rw [hv, Option.map_some, hfind] at hs
        obtain rfl := Option.some.inj hs
        exact hx.symm.trans hv
      · exact absurd hkey (hnone t (List.mem_reverse.mp (List.mem_of_find?_eq_some hfind)))

/-- Changing the values of a list changes what the dictionary built from it gives. -/
theorem get?_ofList_map {ν' : Type} (f : ν → ν') (l : List (κ × ν)) (k : κ) :
    (ofList (l.map fun e => (e.1, f e.2))).get? k = ((ofList l).get? k).map f := by
  induction l using List.reverseRecOn with
  | nil => rfl
  | append_singleton l e ih =>
    rw [List.map_append, List.map_singleton, get?_ofList_append_singleton, get?_ofList_append_singleton, ih]
    split <;> rfl

end Dict

end DayMend.Base
