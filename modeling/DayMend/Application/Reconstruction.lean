import DayMend.Application.RecoveryService
import DayMend.Validation.Revalidation

/-!
# Rebuilding the facts of a case

The service does not keep the facts of the day: `scenarioFor` starts from the base
facts, adds the provider that research has found, and replays the recorded declines.
Replaying changes the caregivers' availability and nothing else, keeps everybody out
of the windows they have declined (`avoids_of_replayDeclines`), and does not touch a
provider whom no decline names: adding the provider before or after makes no difference
(`replayDeclines_add`).
-/

namespace DayMend.Application

open DayMend.Base DayMend.Models DayMend.Fixtures DayMend.Services DayMend.Agent DayMend.Validation

variable {scenario updated : DemoScenario} {decline : Decline} {declines : List Decline} {caregiver : Caregiver}

/-! ### One decline -/

/-- A caregiver after a decline: only the one whom it names changes. -/
def afterDecline (decline : Decline) (caregiver : Caregiver) : Caregiver :=
  if caregiver.caregiverId ≠ decline.caregiverId then caregiver else withoutWindow decline.window caregiver

theorem applyCaregiverDeclineToScenario_eq_ok :
    applyCaregiverDeclineToScenario scenario decline = .ok updated ↔
      decline.caregiverId ∈ scenario.caregivers.map (·.caregiverId) ∧
        updated = { scenario with caregivers := scenario.caregivers.map (afterDecline decline) } := by
  unfold applyCaregiverDeclineToScenario
  split
  next h =>
    simp only [h, true_and, Except.ok.injEq]
    exact eq_comm
  next h => simp [h]

theorem afterDecline_of_ne (h : decline.caregiverId ≠ caregiver.caregiverId) :
    afterDecline decline caregiver = caregiver :=
  if_pos h.symm

@[simp] theorem caregiverId_afterDecline : (afterDecline decline caregiver).caregiverId = caregiver.caregiverId := by
  unfold afterDecline
  split <;> rfl

/-- Nobody gains time by a decline. -/
theorem exists_contains_of_mem_afterDecline {w : CoverageWindow}
    (h : w ∈ (afterDecline decline caregiver).availability) : ∃ v ∈ caregiver.availability, v.Contains w := by
  unfold afterDecline at h
  split at h
  · exact ⟨w, h, Span.Contains.refl w⟩
  · obtain ⟨v, hv, hw⟩ := List.mem_flatMap.mp h
    exact ⟨v, hv, Span.contains_of_mem_sub hw⟩

/-- Everybody whom a decline names is out of its window. -/
def Avoids (scenario : DemoScenario) (decline : Decline) : Prop :=
  ∀ caregiver ∈ scenario.caregivers, caregiver.caregiverId = decline.caregiverId →
    ∀ w ∈ caregiver.availability, ¬ w.Overlaps decline.window

/-- A decline takes its window away. -/
theorem avoids_of_apply (h : applyCaregiverDeclineToScenario scenario decline = .ok updated) :
    Avoids updated decline := by
  obtain ⟨-, rfl⟩ := applyCaregiverDeclineToScenario_eq_ok.mp h
  intro caregiver hmem hid w hw
  obtain ⟨old, -, rfl⟩ := List.mem_map.mp hmem
  rw [caregiverId_afterDecline] at hid
  rw [afterDecline, if_neg (not_not.mpr hid)] at hw
  obtain ⟨v, -, hsub⟩ := List.mem_flatMap.mp hw
  exact Span.not_overlaps_of_mem_sub hsub

/-- What a decline has taken away stays away. -/
theorem Avoids.apply {other : Decline} (h : Avoids scenario other)
    (happly : applyCaregiverDeclineToScenario scenario decline = .ok updated) : Avoids updated other := by
  obtain ⟨-, rfl⟩ := applyCaregiverDeclineToScenario_eq_ok.mp happly
  intro caregiver hmem hid w hw ho
  obtain ⟨old, hold, rfl⟩ := List.mem_map.mp hmem
  obtain ⟨v, hv, hcontains⟩ := exists_contains_of_mem_afterDecline hw
  exact h old hold (caregiverId_afterDecline ▸ hid) v hv (ho.of_contains hcontains)

/-! ### All declines -/

theorem replayDeclines_cons :
    replayDeclines scenario (decline :: declines) =
      applyCaregiverDeclineToScenario scenario decline >>= fun next => replayDeclines next declines :=
  List.foldlM_cons ..

/-- One more decline is replayed last. -/
theorem replayDeclines_append_singleton :
    replayDeclines scenario (declines ++ [decline]) =
      replayDeclines scenario declines >>= fun next => applyCaregiverDeclineToScenario next decline := by
  simp [replayDeclines]

/-- Replaying changes the caregivers and nothing else. -/
theorem exists_caregivers_of_replayDeclines (h : replayDeclines scenario declines = .ok updated) :
    ∃ caregivers, updated = { scenario with caregivers } := by
  induction declines generalizing scenario with
  | nil =>
    obtain rfl := Except.ok.inj h
    exact ⟨_, rfl⟩
  | cons decline declines ih =>
    rw [replayDeclines_cons, bind_eq_ok] at h
    obtain ⟨next, hnext, h⟩ := h
    obtain ⟨-, rfl⟩ := applyCaregiverDeclineToScenario_eq_ok.mp hnext
    obtain ⟨caregivers, rfl⟩ := ih h
    exact ⟨caregivers, rfl⟩

/-- Replaying keeps the caregivers' names. -/
theorem caregiverId_of_applyCaregiverDecline (h : applyCaregiverDeclineToScenario scenario decline = .ok updated) :
    updated.caregivers.map (·.caregiverId) = scenario.caregivers.map (·.caregiverId) := by
  obtain ⟨-, rfl⟩ := applyCaregiverDeclineToScenario_eq_ok.mp h
  simp

/-- **Declines can be replayed** exactly when they name caregivers of the facts. -/
theorem exists_replayDeclines_iff :
    (∃ updated, replayDeclines scenario declines = .ok updated) ↔
      ∀ decline ∈ declines, decline.caregiverId ∈ scenario.caregivers.map (·.caregiverId) := by
  induction declines generalizing scenario with
  | nil => exact ⟨fun _ => by simp, fun _ => ⟨scenario, rfl⟩⟩
  | cons decline declines ih =>
    simp only [replayDeclines_cons, bind_eq_ok, List.forall_mem_cons]
    constructor
    · rintro ⟨updated, next, hnext, hreplay⟩
      refine ⟨(applyCaregiverDeclineToScenario_eq_ok.mp hnext).1, ?_⟩
      rw [← caregiverId_of_applyCaregiverDecline hnext]
      exact ih.mp ⟨updated, hreplay⟩
    · rintro ⟨hmem, hrest⟩
      have hnext := applyCaregiverDeclineToScenario_eq_ok.mpr ⟨hmem, rfl⟩
      rw [← caregiverId_of_applyCaregiverDecline hnext] at hrest
      obtain ⟨updated, hreplay⟩ := ih.mpr hrest
      exact ⟨updated, _, hnext, hreplay⟩

/-- **Nobody is available in a window declined before.** -/
theorem avoids_of_replayDeclines (h : replayDeclines scenario declines = .ok updated) :
    (∀ other, Avoids scenario other → Avoids updated other) ∧ ∀ decline ∈ declines, Avoids updated decline := by
  induction declines generalizing scenario with
  | nil =>
    obtain rfl := Except.ok.inj h
    exact ⟨fun _ hother => hother, by simp⟩
  | cons decline declines ih =>
    rw [replayDeclines_cons, bind_eq_ok] at h
    obtain ⟨next, hnext, h⟩ := h
    obtain ⟨hkeep, hdeclines⟩ := ih h
    refine ⟨fun other hother => hkeep other (hother.apply hnext), fun d hd => ?_⟩
    rcases List.mem_cons.mp hd with rfl | hd
    · exact hkeep d (avoids_of_apply hnext)
    · exact hdeclines d hd

/-- **A caregiver whom no decline names** may be added before the declines are replayed, or after. -/
theorem replayDeclines_add (h : replayDeclines scenario declines = .ok updated)
    (hne : ∀ decline ∈ declines, decline.caregiverId ≠ caregiver.caregiverId) :
    replayDeclines { scenario with caregivers := scenario.caregivers ++ [caregiver] } declines =
      .ok { updated with caregivers := updated.caregivers ++ [caregiver] } := by
  induction declines generalizing scenario with
  | nil =>
    obtain rfl := Except.ok.inj h
    rfl
  | cons decline declines ih =>
    rw [replayDeclines_cons, bind_eq_ok] at h
    obtain ⟨next, hnext, h⟩ := h
    obtain ⟨hmem, rfl⟩ := applyCaregiverDeclineToScenario_eq_ok.mp hnext
    obtain ⟨hne₁, hne⟩ := List.forall_mem_cons.mp hne
    rw [replayDeclines_cons, bind_eq_ok]
    refine ⟨_, applyCaregiverDeclineToScenario_eq_ok.mpr ⟨?_, rfl⟩, ?_⟩
    · rw [List.map_append]
      exact List.mem_append_left _ hmem
    · have hlast := ih h hne
      rw [List.map_append, List.map_singleton, afterDecline_of_ne hne₁]
      exact hlast

/-- A caregiver at the end of the list whom no decline names stays there. -/
theorem exists_append_of_replayDeclines {earlier : List Caregiver}
    (hlast : scenario.caregivers = earlier ++ [caregiver])
    (h : replayDeclines scenario declines = .ok updated)
    (hne : ∀ decline ∈ declines, decline.caregiverId ≠ caregiver.caregiverId) :
    ∃ earlier, updated.caregivers = earlier ++ [caregiver] := by
  induction declines generalizing scenario earlier with
  | nil =>
    obtain rfl := Except.ok.inj h
    exact ⟨earlier, hlast⟩
  | cons decline declines ih =>
    rw [replayDeclines_cons, bind_eq_ok] at h
    obtain ⟨next, hnext, h⟩ := h
    obtain ⟨-, rfl⟩ := applyCaregiverDeclineToScenario_eq_ok.mp hnext
    obtain ⟨hne₁, hne⟩ := List.forall_mem_cons.mp hne
    have hmapped : scenario.caregivers.map (afterDecline decline) =
        earlier.map (afterDecline decline) ++ [caregiver] := by
      rw [hlast, List.map_append, List.map_singleton, afterDecline_of_ne hne₁]
    exact ih hmapped h hne

/-! ### What is left of everybody's time -/

/-- A caregiver after some declines, one after the other. -/
def afterDeclines (declines : List Decline) (caregiver : Caregiver) : Caregiver :=
  declines.foldl (fun caregiver decline => afterDecline decline caregiver) caregiver

theorem afterDeclines_cons :
    afterDeclines (decline :: declines) caregiver = afterDeclines declines (afterDecline decline caregiver) := rfl

/-- The instants at which a caregiver is available. -/
def availableInstants (caregiver : Caregiver) : Set Instant := Span.pointsOf caregiver.availability

/-- The instants that a caregiver has declined. -/
def declinedInstants (declines : List Decline) (caregiverId : String) : Set Instant :=
  {t | ∃ decline ∈ declines, decline.caregiverId = caregiverId ∧ t ∈ decline.window}

/-- The caregiver has declined one window more than by the other declines. -/
theorem declinedInstants_cons_self :
    declinedInstants (decline :: declines) decline.caregiverId =
      decline.window.points ∪ declinedInstants declines decline.caregiverId := by
  ext t
  simp only [declinedInstants, List.exists_mem_cons_iff, Set.mem_ofPred_eq, Set.mem_union, true_and]
  rfl

theorem declinedInstants_cons_of_ne {caregiverId : String} (h : decline.caregiverId ≠ caregiverId) :
    declinedInstants (decline :: declines) caregiverId = declinedInstants declines caregiverId := by
  ext t
  simp [declinedInstants, h]

/-- What has been declined does not depend on the order of the declines, nor on their repetition. -/
theorem declinedInstants_congr {declines' : List Decline} (h : ∀ decline, decline ∈ declines' ↔ decline ∈ declines)
    (caregiverId : String) : declinedInstants declines' caregiverId = declinedInstants declines caregiverId := by
  simp only [declinedInstants, h]

/-- Replaying declines takes them, one after the other, from everybody's time. -/
theorem replayDeclines_eq_ok :
    replayDeclines scenario declines = .ok updated ↔
      (∀ decline ∈ declines, decline.caregiverId ∈ scenario.caregivers.map (·.caregiverId)) ∧
        updated = { scenario with caregivers := scenario.caregivers.map (afterDeclines declines) } := by
  induction declines generalizing scenario with
  | nil =>
    have hsame : scenario.caregivers.map (afterDeclines []) = scenario.caregivers := List.map_id _
    rw [hsame]
    simp [replayDeclines, eq_comm, pure, Except.pure]
  | cons decline declines ih =>
    rw [replayDeclines_cons, bind_eq_ok]
    constructor
    · rintro ⟨next, hnext, h⟩
      obtain ⟨hmem, hupdated⟩ := ih.mp h
      rw [caregiverId_of_applyCaregiverDecline hnext] at hmem
      obtain ⟨hknown, rfl⟩ := applyCaregiverDeclineToScenario_eq_ok.mp hnext
      refine ⟨List.forall_mem_cons.mpr ⟨hknown, hmem⟩, ?_⟩
      rw [hupdated, List.map_map]
      rfl
    · rintro ⟨hknown, rfl⟩
      obtain ⟨hfirst, hrest⟩ := List.forall_mem_cons.mp hknown
      have hnext := applyCaregiverDeclineToScenario_eq_ok.mpr ⟨hfirst, rfl⟩
      refine ⟨_, hnext, ih.mpr ⟨?_, ?_⟩⟩
      · rwa [caregiverId_of_applyCaregiverDecline hnext]
      · rw [List.map_map]
        rfl

/-- Declines change nothing of a caregiver but the time. -/
theorem afterDeclines_eq :
    afterDeclines declines caregiver =
      { caregiver with availability := (afterDeclines declines caregiver).availability } := by
  induction declines generalizing caregiver with
  | nil => rfl
  | cons decline declines ih =>
    rw [afterDeclines_cons, ih]
    unfold afterDecline
    split <;> rfl

/-- Declines of others change nothing. -/
theorem afterDeclines_of_notMem (h : caregiver.caregiverId ∉ declines.map (·.caregiverId)) :
    afterDeclines declines caregiver = caregiver := by
  induction declines with
  | nil => rfl
  | cons decline declines ih =>
    rw [List.map_cons, List.mem_cons, not_or] at h
    rw [afterDeclines_cons, afterDecline_of_ne (Ne.symm h.1), ih h.2]

/-- A decline takes its window from the caregiver whom it names. -/
theorem availableInstants_afterDecline (h : decline.caregiverId = caregiver.caregiverId) :
    availableInstants (afterDecline decline caregiver) = availableInstants caregiver \ decline.window.points := by
  rw [afterDecline, if_neg (not_not.mpr h.symm)]
  exact Span.pointsOf_flatMap_sub ..

/-- **What is left** is the original time without the declined windows. -/
theorem availableInstants_afterDeclines :
    availableInstants (afterDeclines declines caregiver) =
      availableInstants caregiver \ declinedInstants declines caregiver.caregiverId := by
  induction declines generalizing caregiver with
  | nil => simp [afterDeclines, declinedInstants]
  | cons decline declines ih =>
    rw [afterDeclines_cons, ih, caregiverId_afterDecline]
    by_cases hid : decline.caregiverId = caregiver.caregiverId
    · rw [availableInstants_afterDecline hid, Set.sdiff_sdiff, ← hid, declinedInstants_cons_self]
    · rw [afterDecline_of_ne hid, declinedInstants_cons_of_ne hid]

/-- **Replaying declines** of known caregivers takes from everybody exactly what they have declined, whatever the order
of the declines and however often they are repeated, and changes nothing else. -/
theorem replayDeclines_exact
    (hknown : ∀ decline ∈ declines, decline.caregiverId ∈ scenario.caregivers.map (·.caregiverId)) :
    ∃ after : Caregiver → Caregiver,
      replayDeclines scenario declines = .ok { scenario with caregivers := scenario.caregivers.map after } ∧
        (∀ caregiver ∈ scenario.caregivers,
          availableInstants (after caregiver) =
              availableInstants caregiver \ declinedInstants declines caregiver.caregiverId ∧
            after caregiver = { caregiver with availability := (after caregiver).availability } ∧
              (caregiver.caregiverId ∉ declines.map (·.caregiverId) → after caregiver = caregiver)) ∧
          ∀ declines' : List Decline, (∀ decline, decline ∈ declines' ↔ decline ∈ declines) →
            ∃ after' : Caregiver → Caregiver,
              replayDeclines scenario declines' =
                  .ok { scenario with caregivers := scenario.caregivers.map after' } ∧
                ∀ caregiver ∈ scenario.caregivers,
                  availableInstants (after' caregiver) = availableInstants (after caregiver) := by
  refine ⟨afterDeclines declines, replayDeclines_eq_ok.mpr ⟨hknown, rfl⟩, fun caregiver _ => ?_,
    fun declines' hsame => ?_⟩
  · exact ⟨availableInstants_afterDeclines, afterDeclines_eq, afterDeclines_of_notMem⟩
  · refine ⟨afterDeclines declines', replayDeclines_eq_ok.mpr ⟨fun d hd => hknown d ((hsame d).mp hd), rfl⟩, ?_⟩
    intro caregiver _
    rw [availableInstants_afterDeclines, availableInstants_afterDeclines, declinedInstants_congr hsame]

/-- Two sitters, one of whom is always free. -/
def twoSitters : DemoScenario := day (minutes 0 120) [sitter "kim" [minutes 0 120], sitter "lee" [minutes 30 90]]

/-- Kim declines two overlapping windows, the first of them twice. -/
def overlappingDeclines : List Decline :=
  [⟨"kim", minutes 20 40, "busy"⟩, ⟨"kim", minutes 30 60, "busy"⟩, ⟨"kim", minutes 20 40, "busy"⟩]

theorem replayDeclines_exact_twoSitters :
    ∃ after : Caregiver → Caregiver,
      replayDeclines twoSitters overlappingDeclines =
          .ok { twoSitters with caregivers := twoSitters.caregivers.map after } ∧
        (∀ caregiver ∈ twoSitters.caregivers,
          availableInstants (after caregiver) =
              availableInstants caregiver \ declinedInstants overlappingDeclines caregiver.caregiverId ∧
            after caregiver = { caregiver with availability := (after caregiver).availability } ∧
              (caregiver.caregiverId ∉ overlappingDeclines.map (·.caregiverId) → after caregiver = caregiver)) ∧
          ∀ declines' : List Decline, (∀ decline, decline ∈ declines' ↔ decline ∈ overlappingDeclines) →
            ∃ after' : Caregiver → Caregiver,
              replayDeclines twoSitters declines' =
                  .ok { twoSitters with caregivers := twoSitters.caregivers.map after' } ∧
                ∀ caregiver ∈ twoSitters.caregivers,
                  availableInstants (after' caregiver) = availableInstants (after caregiver) :=
  replayDeclines_exact (by decide +kernel)

/-! ### Providers -/

/-- Adding a provider, if there is one, changes the caregivers and nothing else. -/
theorem exists_caregivers_of_validationScenario {candidate : Option BackupCareCandidate}
    (h : validationScenario scenario candidate = .ok updated) :
    ∃ caregivers, updated = { scenario with caregivers } := by
  cases candidate with
  | none =>
    obtain rfl := Except.ok.inj h
    exact ⟨_, rfl⟩
  | some candidate =>
    obtain ⟨-, rfl⟩ := addResearchedCaregiver_eq_ok.mp h
    exact ⟨_, rfl⟩

/-- A provider whom a decline does not name changes nothing about it. -/
theorem Avoids.validationScenario {candidate : Option BackupCareCandidate}
    (h : Avoids scenario decline) (hupdated : validationScenario scenario candidate = .ok updated)
    (hne : ∀ k, candidate = some k → decline.caregiverId ≠ k.candidateId) : Avoids updated decline := by
  cases candidate with
  | none =>
    obtain rfl := Except.ok.inj hupdated
    exact h
  | some k =>
    obtain ⟨-, rfl⟩ := addResearchedCaregiver_eq_ok.mp hupdated
    intro caregiver hmem hid
    rcases List.mem_append.mp hmem with hmem | hmem
    · exact h caregiver hmem hid
    · rw [List.mem_singleton.mp hmem] at hid
      exact absurd hid.symm (hne k rfl)

/-- Who is out of a window is not known with time that overlaps it. -/
theorem Avoids.not_overlaps_of_isCovered (h : Avoids scenario decline) {caregiver : Caregiver}
    (hk : Knows scenario decline.caregiverId caregiver) {window : CoverageWindow}
    (hcovered : IsCovered window caregiver.availability) : ¬ window.Overlaps decline.window := by
  intro ho
  obtain ⟨hmem, hid⟩ := caregiverId_of_get? hk
  obtain ⟨w, hw, hcontains⟩ := hcovered
  exact h caregiver hmem hid w hw (ho.of_contains hcontains)

/-! ### The same caregiver twice -/

/-- The last caregiver of the list, once more, makes no difference to the table. -/
theorem caregiverDict_append_twice (earlier : List Caregiver) (caregiver : Caregiver) :
    caregiverDict (earlier ++ [caregiver] ++ [caregiver]) = caregiverDict (earlier ++ [caregiver]) := by
  simp only [caregiverDict, List.map_append, List.map_singleton, Dict.ofList_append_singleton, Dict.insert_insert]

end DayMend.Application
