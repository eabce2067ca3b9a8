import Mathlib.Data.List.Nodup

/-!
# Ledgers

A ledger is a list of entries with keys. Entries are added by `mergeBy`, which leaves
out those whose keys the ledger has already. `under_mergeBy` says what a ledger holds
under each key afterwards, and `under_replace` what it holds when the entries that came
with a draft are taken out again and others are added in their place.
-/

namespace DayMend.Base

variable {α κ : Type*} [DecidableEq κ] {key : α → κ} {entries added draft : List α} {kept : List κ} {k : κ} {a : α}

/-- The entries under a key. -/
def under (key : α → κ) (k : κ) (entries : List α) : List α := entries.filter fun a => key a = k

/-- The entries, and those of the added ones under whose keys there is nothing yet. -/
def mergeBy (key : α → κ) (entries added : List α) : List α :=
  entries ++ added.filter fun a => key a ∉ entries.map key

/-- A ledger with a draft, without the draft's entries, unless they are under a key to be kept. -/
def withoutDraft (key : α → κ) (entries draft : List α) (kept : List κ) : List α :=
  (mergeBy key entries draft).filter fun a => key a ∉ draft.map key ∨ key a ∈ kept

theorem mem_under : a ∈ under key k entries ↔ a ∈ entries ∧ key a = k := by
  simp [under]

theorem under_append (entries added : List α) :
    under key k (entries ++ added) = under key k entries ++ under key k added :=
  List.filter_append entries added

theorem under_eq_nil_iff : under key k entries = [] ↔ k ∉ entries.map key := by
  simp [under, List.filter_eq_nil_iff]

/-- Where keys are distinct, there is one entry under each. -/
theorem under_of_nodup (hnodup : (entries.map key).Nodup) (ha : a ∈ entries) : under key (key a) entries = [a] := by
  induction entries with
  | nil => cases ha
  | cons first rest ih =>
    rw [List.map_cons, List.nodup_cons] at hnodup
    obtain ⟨hfirst, hrest⟩ := hnodup
    rw [under, List.filter_cons]
    rcases List.mem_cons.mp ha with rfl | ha
    · rw [if_pos (decide_eq_true rfl)]
      exact congrArg (a :: ·) (under_eq_nil_iff.mpr hfirst)
    · have hne : key first ≠ key a := fun h => hfirst (h ▸ List.mem_map_of_mem ha)
      rw [if_neg (by simpa using hne)]
      exact ih hrest ha

/-- A filter that looks at the keys only takes the entries under a key or leaves them. -/
theorem under_filter (key : α → κ) (k : κ) (entries : List α) (keep : κ → Bool) :
    under key k (entries.filter fun a => keep (key a)) = if keep k then under key k entries else [] := by
  rw [under, List.filter_filter]
  split
  next hkeep =>
    apply List.filter_congr
    intro a _
    by_cases h : key a = k <;> simp [h, hkeep]
  next hkeep =>
    rw [List.filter_eq_nil_iff]
    intro a _
    by_cases h : key a = k <;> simp [h, hkeep]

/-- **What is under a key** after a merge: what was there, and if nothing was, what is added. -/
theorem under_mergeBy :
    under key k (mergeBy key entries added) =
      if k ∈ entries.map key then under key k entries else under key k added := by
  have hadded := under_filter key k added fun k => decide (k ∉ entries.map key)
  rw [mergeBy, under_append, hadded]
  by_cases hk : k ∈ entries.map key
  · rw [if_pos hk, if_neg (by simpa using hk), List.append_nil]
  · rw [if_neg hk, if_pos (decide_eq_true hk), under_eq_nil_iff.mpr hk, List.nil_append]

/-- Without the draft, what was there before stays, except under the draft's keys that are not to be kept. -/
theorem under_withoutDraft (draft : List α) (k : κ) (hkept : kept ⊆ entries.map key) :
    under key k (withoutDraft key entries draft kept) =
      if k ∈ draft.map key ∧ k ∉ kept then [] else under key k entries := by
  have hfilter := under_filter key k (mergeBy key entries draft) fun k => decide (k ∉ draft.map key ∨ k ∈ kept)
  rw [withoutDraft, hfilter, under_mergeBy]
  by_cases hdraft : k ∈ draft.map key <;> by_cases hk : k ∈ kept
  · simp only [hdraft, hk, hkept hk, not_true, or_true, decide_true, if_true, and_false, if_false]
  · simp only [hdraft, hk, not_true, or_false, decide_false, if_true, not_false_eq_true, and_self,
      Bool.false_eq_true, if_false]
  · simp only [hdraft, hkept hk, not_false_eq_true, true_or, decide_true, if_true, false_and, if_false]
  · by_cases hentries : k ∈ entries.map key
    · simp only [hdraft, hentries, not_false_eq_true, true_or, decide_true, if_true, false_and, if_false]
    · simp only [hdraft, hentries, not_false_eq_true, true_or, decide_true, if_true, false_and, if_false]
      rw [under_eq_nil_iff.mpr hdraft, under_eq_nil_iff.mpr hentries]

/-- **What is under a key** when other entries take the place of a draft's. -/
theorem under_replace (hkept : kept ⊆ entries.map key) :
    under key k (mergeBy key (withoutDraft key entries draft kept) added) =
      if k ∈ entries.map key ∧ (k ∈ draft.map key → k ∈ kept) then under key k entries else under key k added := by
  have hwithout := under_withoutDraft draft k hkept
  have hmem : k ∈ (withoutDraft key entries draft kept).map key ↔
      k ∈ entries.map key ∧ (k ∈ draft.map key → k ∈ kept) := by
    rw [← not_iff_not, ← under_eq_nil_iff, hwithout]
    by_cases hlost : k ∈ draft.map key ∧ k ∉ kept
    · simp [hlost]
    · rw [if_neg hlost, under_eq_nil_iff]
      have hstays : k ∈ draft.map key → k ∈ kept := fun h => not_not.mp fun hk => hlost ⟨h, hk⟩
      rw [and_iff_left hstays]
  rw [under_mergeBy]
  by_cases h : k ∈ entries.map key ∧ (k ∈ draft.map key → k ∈ kept)
  · rw [if_pos (hmem.mpr h), if_pos h, hwithout, if_neg fun hlost => hlost.2 (h.2 hlost.1)]
  · rw [if_neg (mt hmem.mp h), if_neg h]

/-- What a ledger has then is what it had before or what has been added. -/
theorem mem_of_mem_replace (hkept : kept ⊆ entries.map key)
    (ha : a ∈ mergeBy key (withoutDraft key entries draft kept) added) : a ∈ entries ∨ a ∈ added := by
  have hunder : a ∈ under key (key a) _ := mem_under.mpr ⟨ha, rfl⟩
  rw [under_replace hkept] at hunder
  split at hunder
  · exact Or.inl (mem_under.mp hunder).1
  · exact Or.inr (mem_under.mp hunder).1

end DayMend.Base
