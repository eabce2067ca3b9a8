import DayMend.Base.Repository
import DayMend.Models.Case
import DayMend.Repositories.Table

/-!
# The repositories of recovery cases

`repositories/in_memory_recovery_case_repository.py` keeps the cases themselves in a
dictionary, and compares versions; `dynamodb_recovery_case_repository.py` writes them as
JSON text into a table, and leaves the comparison to a condition of the put. Both
implement the store that the services run on (`inMemory_implements`,
`dynamoDB_implements`), and so nobody can tell one from the other (`repositories_agree`).

Cases go in and come out as copies, so they are values here.
-/

namespace DayMend.Repositories

open DayMend.Base DayMend.Models DayMend.Fixtures

/-- What kind of error a repository raises: `RecoveryCaseNotFound`, `RecoveryCaseVersionConflict`, or another one. -/
inductive RepositoryErrorKind where
  | notFound
  | versionConflict
  | other
  deriving DecidableEq

/-- An error of a repository. -/
structure RepositoryError where
  kind : RepositoryErrorKind
  message : String

/-- `next_version`. A save that expects a negative version conflicts, so what it would store does not matter. -/
def nextVersion (recoveryCase : RecoveryCase) (expectedVersion : Option ℤ) : RecoveryCase :=
  let baseVersion := expectedVersion.getD recoveryCase.version
  { recoveryCase with version := (baseVersion + 1).toNat }

/-- A version in a message. -/
def versionText (version : Option ℤ) : String := (version.map toString).getD "None"

/-! ### In memory -/

namespace InMemory

/-- `get`. -/
def get (cases : Dict String RecoveryCase) (caseId : String) : Except RepositoryError RecoveryCase :=
  match cases.get? caseId with
  | some recoveryCase => .ok recoveryCase
  | none => .error ⟨.notFound, s!"recovery case {caseId} was not found"⟩

/-- What `save` says against a save. -/
def saveError? (cases : Dict String RecoveryCase) (recoveryCase : RecoveryCase) (expectedVersion : Option ℤ) :
    Option RepositoryError :=
  let existing := cases.get? recoveryCase.caseId
  match expectedVersion with
  | none =>
    if existing.isSome then some ⟨.versionConflict, s!"recovery case {recoveryCase.caseId} already exists"⟩ else none
  | some expected =>
    let actual := existing.map fun c => (c.version : ℤ)
    if existing.isNone ∨ actual ≠ some expected then
      some ⟨.versionConflict, s!"expected version {expected}, found {versionText actual}"⟩
    else none

/-- `save`: the cases afterwards, and the stored case. -/
def save (cases : Dict String RecoveryCase) (recoveryCase : RecoveryCase) (expectedVersion : Option ℤ) :
    Dict String RecoveryCase × Except RepositoryError RecoveryCase :=
  match saveError? cases recoveryCase expectedVersion with
  | some error => (cases, .error error)
  | none =>
    let stored := nextVersion recoveryCase expectedVersion
    (cases.insert stored.caseId stored, .ok stored)

end InMemory

/-! ### In a table -/

namespace DynamoDB

variable {S : Type} (table : Table S) (codec : JsonCodec RecoveryCase) (isoformat : Instant → String)

/-- `get`. -/
def get (s : S) (caseId : String) : Except RepositoryError RecoveryCase :=
  match table.getItem s caseId with
  | none => .error ⟨.notFound, s!"recovery case {caseId} was not found"⟩
  | some item => (codec.modelValidateJson item.payload).mapError fun fault => ⟨.other, fault⟩

/-- The item of a case. -/
def itemOf (stored : RecoveryCase) : Item :=
  { recoveryCaseId := stored.caseId
    version := stored.version
    status := some stored.status.value
    updatedAt := some (isoformat stored.updatedAt)
    payload := codec.modelDumpJson stored }

/-- `save`: the table afterwards, and the stored case. -/
def save (s : S) (recoveryCase : RecoveryCase) (expectedVersion : Option ℤ) :
    S × Except RepositoryError RecoveryCase :=
  let stored := nextVersion recoveryCase expectedVersion
  match table.putItem s (itemOf codec isoformat stored) (.expecting expectedVersion) with
  | .ok s' => (s', .ok stored)
  | .error code =>
    if code = conditionalCheckFailed then
      (s, .error ⟨.versionConflict, s!"version conflict while saving recovery case {stored.caseId}"⟩)
    else (s, .error ⟨.other, code⟩)

end DynamoDB

/-! ### As repositories -/

/-- What a client can tell of an error: which class it has. -/
def RepositoryErrorKind.denial? : RepositoryErrorKind → Option Denial
  | .notFound => some .notFound
  | .versionConflict => some .versionConflict
  | .other => none

/-- `InMemoryRecoveryCaseRepository`. -/
def inMemory : Repository String RecoveryCase RepositoryError (Dict String RecoveryCase) where
  call
    | cases, .get caseId => (cases, InMemory.get cases caseId)
    | cases, .save recoveryCase expected => InMemory.save cases recoveryCase expected
  denial? error := error.kind.denial?

/-- `DynamoDBRecoveryCaseRepository`. -/
def dynamoDB {S : Type} (table : Table S) (codec : JsonCodec RecoveryCase) (isoformat : Instant → String) :
    Repository String RecoveryCase RepositoryError S where
  call
    | s, .get caseId => (s, DynamoDB.get table codec s caseId)
    | s, .save recoveryCase expected => DynamoDB.save table codec isoformat s recoveryCase expected
  denial? error := error.kind.denial?

/-- A save stores what the store does. -/
theorem nextVersion_eq_storedAt (recoveryCase : RecoveryCase) (expected : Option ℤ) :
    nextVersion recoveryCase expected = storedAt recoveryCase expected := rfl

/-! ### The repository in memory implements the store -/

/-- The dictionary holds the current cases. -/
def CasesOf (log : List RecoveryCase) (cases : Dict String RecoveryCase) : Prop :=
  ∀ caseId, cases.get? caseId = current log caseId

variable {cases : Dict String RecoveryCase} {recoveryCase : RecoveryCase} {expected : Option ℤ}

theorem saveError?_eq_none_iff :
    InMemory.saveError? cases recoveryCase expected = none ↔
      (cases.get? recoveryCase.caseId).map (fun c => (c.version : ℤ)) = expected := by
  cases expected with
  | none => simp [InMemory.saveError?]
  | some expected =>
    simp only [InMemory.saveError?]
    cases hget : cases.get? recoveryCase.caseId with
    | none => simp
    | some existing => simp

theorem kind_of_saveError? {error : RepositoryError}
    (h : InMemory.saveError? cases recoveryCase expected = some error) :
    error.kind = .versionConflict := by
  cases expected with
  | none =>
    simp only [InMemory.saveError?] at h
    split at h
    · exact Option.some.inj h ▸ rfl
    · cases h
  | some expected =>
    simp only [InMemory.saveError?] at h
    split at h
    · exact Option.some.inj h ▸ rfl
    · cases h

theorem expects_iff_saveError? {log : List RecoveryCase} (habs : CasesOf log cases) :
    Expects log recoveryCase expected ↔ InMemory.saveError? cases recoveryCase expected = none := by
  rw [saveError?_eq_none_iff, habs]
  rfl

/-- A save that the store accepts is made. -/
theorem caseSave_of_expects {log : List RecoveryCase} (habs : CasesOf log cases)
    (h : Expects log recoveryCase expected) :
    InMemory.save cases recoveryCase expected =
      (cases.insert recoveryCase.caseId (nextVersion recoveryCase expected),
        .ok (nextVersion recoveryCase expected)) := by
  rw [InMemory.save, (expects_iff_saveError? habs).mp h]
  rfl

/-- A save that the store refuses is a conflict. -/
theorem caseSave_of_not_expects {log : List RecoveryCase} (habs : CasesOf log cases)
    (h : ¬ Expects log recoveryCase expected) :
    ∃ error, InMemory.save cases recoveryCase expected = (cases, .error error) ∧ error.kind = .versionConflict := by
  obtain ⟨error, herror⟩ := Option.ne_none_iff_exists'.mp fun hnone => h ((expects_iff_saveError? habs).mpr hnone)
  exact ⟨error, by rw [InMemory.save, herror], kind_of_saveError? herror⟩

/-- **The repository in memory** implements the store. -/
theorem inMemory_implements : inMemory.Implements (fun _ => True) CasesOf where
  observe_eq log cases access habs _ := by
    cases access with
    | get caseId =>
      show inMemory.observe (InMemory.get cases caseId) = _
      rw [InMemory.get, answerOf, ← habs caseId]
      cases cases.get? caseId <;> rfl
    | save recoveryCase expected =>
      show inMemory.observe (InMemory.save cases recoveryCase expected).2 = _
      by_cases hexpects : Expects log recoveryCase expected
      · rw [answerOf_of_expects hexpects, caseSave_of_expects habs hexpects]
        rfl
      · obtain ⟨error, hsave, hkind⟩ := caseSave_of_not_expects habs hexpects
        rw [answerOf_of_not_expects hexpects, hsave]
        show Except.error error.kind.denial? = _
        rw [hkind]
        rfl
  next log cases access habs _ := by
    cases access with
    | get caseId => exact habs
    | save recoveryCase expected =>
      show CasesOf _ (InMemory.save cases recoveryCase expected).1
      by_cases hexpects : Expects log recoveryCase expected
      · rw [logAfter_of_expects hexpects, caseSave_of_expects habs hexpects, ← nextVersion_eq_storedAt]
        intro caseId
        rw [Dict.get?_insert]
        by_cases hkey : recoveryCase.caseId = caseId
        · rw [if_pos hkey, current_cons hkey]
        · rw [if_neg hkey, habs caseId]
          exact (current_cons_of_ne hkey).symm
      · obtain ⟨error, hsave, -⟩ := caseSave_of_not_expects habs hexpects
        rw [logAfter_of_not_expects hexpects, hsave]
        exact habs

/-! ### The repository in a table implements the store -/

section Table

variable {S : Type} {table : Table S} {codec : JsonCodec RecoveryCase} {isoformat : Instant → String} {s : S}
  {log : List RecoveryCase}

/-- An item holds a case. -/
def HoldsCase (codec : JsonCodec RecoveryCase) (item : Item) (recoveryCase : RecoveryCase) : Prop :=
  item.version = recoveryCase.version ∧ codec.modelValidateJson item.payload = .ok recoveryCase

/-- The items, but for that of the family profile, hold the current cases. -/
def ItemsOf (table : Table S) (codec : JsonCodec RecoveryCase) (log : List RecoveryCase) (s : S) : Prop :=
  ∀ caseId, caseId ≠ profileKey → Option.Rel (HoldsCase codec) (table.getItem s caseId) (current log caseId)

/-- The access is to a case, and a case that it saves can be written as text. -/
def FitsTable (codec : JsonCodec RecoveryCase) : Access String RecoveryCase → Prop
  | .get caseId => caseId ≠ profileKey
  | .save recoveryCase expected =>
    recoveryCase.caseId ≠ profileKey ∧ codec.RoundTrips (nextVersion recoveryCase expected)

/-- The condition of a put holds exactly if the store accepts the save. -/
theorem holds_iff_expects (habs : ItemsOf table codec log s) (hkey : recoveryCase.caseId ≠ profileKey) :
    (Condition.expecting expected).Holds (table.getItem s recoveryCase.caseId) ↔ Expects log recoveryCase expected :=
  Condition.expecting_holds_iff_of_rel (fun _ _ h => h.1) (habs _ hkey)

/-- A save that the store accepts puts the item of the case, and no other. -/
theorem save_of_expects (htable : table.Lawful) (isoformat : Instant → String) (habs : ItemsOf table codec log s)
    (hkey : recoveryCase.caseId ≠ profileKey) (h : Expects log recoveryCase expected) :
    ∃ s', DynamoDB.save table codec isoformat s recoveryCase expected = (s', .ok (nextVersion recoveryCase expected)) ∧
      ∀ key, table.getItem s' key =
        if key = recoveryCase.caseId then
          some (DynamoDB.itemOf codec isoformat (nextVersion recoveryCase expected))
        else table.getItem s key := by
  obtain ⟨s', hput, hget⟩ := htable.put_of_holds s
    (DynamoDB.itemOf codec isoformat (nextVersion recoveryCase expected)) (.expecting expected)
    ((holds_iff_expects habs hkey).mpr h)
  refine ⟨s', ?_, hget⟩
  rw [DynamoDB.save, hput]

/-- A save that the store refuses is a conflict. -/
theorem save_of_not_expects (htable : table.Lawful) (habs : ItemsOf table codec log s)
    (hkey : recoveryCase.caseId ≠ profileKey) (h : ¬ Expects log recoveryCase expected) :
    DynamoDB.save table codec isoformat s recoveryCase expected =
      (s, .error ⟨.versionConflict, s!"version conflict while saving recovery case {recoveryCase.caseId}"⟩) := by
  have hput := htable.put_of_not_holds s
    (DynamoDB.itemOf codec isoformat (nextVersion recoveryCase expected)) (.expecting expected)
    fun hholds => h ((holds_iff_expects habs hkey).mp hholds)
  rw [DynamoDB.save, hput]
  exact if_pos rfl

/-- **The repository in a table** implements the store. -/
theorem dynamoDB_implements (htable : table.Lawful) :
    (dynamoDB table codec isoformat).Implements (FitsTable codec) (ItemsOf table codec) where
  observe_eq log s access habs hfits := by
    cases access with
    | get caseId =>
      show (dynamoDB table codec isoformat).observe (DynamoDB.get table codec s caseId) = _
      rw [DynamoDB.get, answerOf]
      have hitem := habs caseId hfits
      generalize table.getItem s caseId = item?, current log caseId = case? at hitem
      cases hitem with
      | none => rfl
      | some hitem =>
        simp only [hitem.2]
        rfl
    | save recoveryCase expected =>
      show (dynamoDB table codec isoformat).observe
        (DynamoDB.save table codec isoformat s recoveryCase expected).2 = _
      by_cases hexpects : Expects log recoveryCase expected
      · obtain ⟨s', hsave, -⟩ := save_of_expects htable isoformat habs hfits.1 hexpects
        rw [answerOf_of_expects hexpects, hsave]
        rfl
      · rw [answerOf_of_not_expects hexpects, save_of_not_expects htable habs hfits.1 hexpects]
        rfl
  next log s access habs hfits := by
    cases access with
    | get caseId => exact habs
    | save recoveryCase expected =>
      show ItemsOf table codec _ (DynamoDB.save table codec isoformat s recoveryCase expected).1
      by_cases hexpects : Expects log recoveryCase expected
      · obtain ⟨s', hsave, hget⟩ := save_of_expects htable isoformat habs hfits.1 hexpects
        rw [logAfter_of_expects hexpects, hsave]
        intro caseId hcase
        rw [hget]
        by_cases hkey : caseId = recoveryCase.caseId
        · rw [if_pos hkey, current_cons hkey.symm]
          exact .some ⟨rfl, hfits.2⟩
        · rw [if_neg hkey, current_cons_of_ne (Ne.symm hkey)]
          exact habs caseId hcase
      · rw [logAfter_of_not_expects hexpects, save_of_not_expects htable habs hfits.1 hexpects]
        exact habs

/-- **The two repositories agree**: on every sequence of reads and saves of cases, from nothing, they give the same
cases, and say at the same steps that a case is not there and that a version conflicts. -/
theorem repositories_agree (htable : table.Lawful)
    (hempty : ∀ caseId, caseId ≠ profileKey → table.getItem s caseId = none)
    (accesses : List (Access String RecoveryCase)) (hfits : ∀ access ∈ accesses, FitsTable codec access) :
    inMemory.answers .empty accesses = (dynamoDB table codec isoformat).answers s accesses := by
  have hcases : CasesOf [] .empty := fun _ => rfl
  have hitems : ItemsOf table codec [] s := by
    intro caseId hcase
    rw [hempty caseId hcase]
    exact .none
  exact inMemory_implements.answers_eq_answers (dynamoDB_implements htable) hcases hitems
    fun access haccess => ⟨trivial, hfits access haccess⟩

end Table

/-! ### A small history -/

/-- A case that has just been detected. -/
def detectedCase : RecoveryCase :=
  { caseId := "case-1"
    disruption := "The nanny is unavailable today."
    coverageGap := minutes 0 60
    createdAt := 0
    updatedAt := 0 }

/-- Its text, in some version. -/
def detectedText (version : ℕ) : String :=
  "\x7b\"case_id\":\"case-1\",\"status\":\"DETECTED\",\"disruption\":\"The nanny is unavailable today.\"," ++
    "\"coverage_gap\":\x7b\"start\":\"1970-01-01T00:00:00Z\",\"end\":\"1970-01-01T01:00:00Z\"\x7d," ++
    "\"uncovered_windows\":[],\"context_state\":\x7b\x7d,\"family_policy\":null,\"active_recovery_plan\":null," ++
    "\"previous_plans\":[],\"assumptions\":[],\"events\":[],\"pending_approval\":null,\"approval_history\":[]," ++
    "\"execution_history\":[],\"latest_replan_trigger_event_id\":null,\"completion_verified_at\":null," ++
    "\"version\":" ++ toString version ++
    ",\"created_at\":\"1970-01-01T00:00:00Z\",\"updated_at\":\"1970-01-01T00:00:00Z\"\x7d"

/-- Reading and writing the texts of its first two versions. -/
def detectedCodec : JsonCodec RecoveryCase where
  modelDumpJson c := detectedText c.version
  modelValidateJson text :=
    if text = detectedText 1 then .ok { detectedCase with version := 1 }
    else if text = detectedText 2 then .ok { detectedCase with version := 2 }
    else .error "1 validation error for RecoveryCase"

/-- The case is looked for, saved, saved with a stale version, saved again and read. -/
def savedTwice : List (Access String RecoveryCase) :=
  [.get "case-1", .save detectedCase none, .save detectedCase (some 0), .save detectedCase (some 1), .get "case-1"]

/-- Both repositories give the same on it. -/
theorem repositories_agree_savedTwice :
    inMemory.answers .empty savedTwice =
      (dynamoDB dictTable detectedCodec fun _ => "1970-01-01T00:00:00+00:00").answers .empty savedTwice := by
  have hfirst : detectedCodec.RoundTrips { detectedCase with version := 1 } := by
    simp [JsonCodec.RoundTrips, detectedCodec]
  have hsecond : detectedCodec.RoundTrips { detectedCase with version := 2 } := by
    have hne : detectedText 2 ≠ detectedText 1 := by decide +kernel
    simp [JsonCodec.RoundTrips, detectedCodec, hne]
  refine repositories_agree dictTable_lawful (fun _ _ => rfl) savedTwice fun access haccess => ?_
  simp only [savedTwice, List.mem_cons, List.not_mem_nil, or_false] at haccess
  rcases haccess with rfl | rfl | rfl | rfl | rfl
  · exact (by decide : "case-1" ≠ profileKey)
  · exact ⟨by decide, hfirst⟩
  · exact ⟨by decide, hfirst⟩
  · exact ⟨by decide, hsecond⟩
  · exact (by decide : "case-1" ≠ profileKey)

end DayMend.Repositories
