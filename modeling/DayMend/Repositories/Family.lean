import DayMend.Base.Repository
import DayMend.Models.Family
import DayMend.Repositories.Table

/-!
# The repositories of the family profile

`repositories/family_repository.py`: the profile is kept in memory, or in an item of its
own in the table of the recovery cases. A save names the version that it replaces, or none
for the first one, and stores the next. Both repositories implement the store
(`isFamilyRepository_implements`), for a first save of a profile without a version.
-/

namespace DayMend.Repositories

open DayMend.Base DayMend.Models

/-- What a family repository raises: `FamilyVersionConflict`, or another error. -/
inductive FamilyError where
  | versionConflict (message : String)
  | other (message : String)

/-- `FamilyVersionConflict("Family settings changed; reload before saving.")`. -/
def familyVersionConflict : FamilyError := .versionConflict "Family settings changed; reload before saving."

/-- `profile.model_copy(update={"version": (expected_version or 0) + 1}, deep=True)`. A save that expects a negative
version conflicts, so what it would store does not matter. -/
def nextProfile (profile : FamilyProfile) (expectedVersion : Option ℤ) : FamilyProfile :=
  { profile with version := (expectedVersion.getD 0 + 1).toNat }

/-! ### In memory -/

namespace InMemoryFamily

/-- `get`. -/
def get (profile : Option FamilyProfile) : Option FamilyProfile := profile

/-- `save`: the profile afterwards, and the stored one. -/
def save (existing : Option FamilyProfile) (profile : FamilyProfile) (expectedVersion : Option ℤ) :
    Option FamilyProfile × Except FamilyError FamilyProfile :=
  let actual := existing.map fun p => (p.version : ℤ)
  if actual ≠ expectedVersion then (existing, .error familyVersionConflict)
  else (some (nextProfile profile expectedVersion), .ok (nextProfile profile expectedVersion))

end InMemoryFamily

/-! ### In a table -/

namespace DynamoDBFamily

variable {S : Type} (table : Table S) (codec : JsonCodec FamilyProfile)

/-- `get`. -/
def get (s : S) : Except FamilyError (Option FamilyProfile) :=
  match table.getItem s profileKey with
  | none => .ok none
  | some item => ((codec.modelValidateJson item.payload).mapError .other).map some

/-- The item of the profile. -/
def itemOf (stored : FamilyProfile) : Item :=
  { recoveryCaseId := profileKey
    entityType := some "FamilyProfile"
    version := stored.version
    payload := codec.modelDumpJson stored }

/-- `save`: the table afterwards, and the stored profile. -/
def save (s : S) (profile : FamilyProfile) (expectedVersion : Option ℤ) : S × Except FamilyError FamilyProfile :=
  let stored := nextProfile profile expectedVersion
  match table.putItem s (itemOf codec stored) (.expecting expectedVersion) with
  | .ok s' => (s', .ok stored)
  | .error code =>
    if code = conditionalCheckFailed then (s, .error familyVersionConflict) else (s, .error (.other code))

end DynamoDBFamily

/-! ### As repositories -/

/-- What a read or a save says: that there is no profile, or an error. -/
inductive FamilyReply where
  | missing
  | raised (error : FamilyError)

/-- What is denied. -/
def FamilyReply.denial? : FamilyReply → Option Denial
  | .missing => some .notFound
  | .raised (.versionConflict _) => some .versionConflict
  | .raised (.other _) => none

/-- The profile that a read has found. -/
def found : Option FamilyProfile → Except FamilyReply FamilyProfile
  | none => .error .missing
  | some profile => .ok profile

/-- `InMemoryFamilyRepository`. -/
def inMemoryFamily : Repository Unit FamilyProfile FamilyReply (Option FamilyProfile) where
  call
    | existing, .get _ => (existing, found (InMemoryFamily.get existing))
    | existing, .save profile expected =>
      ((InMemoryFamily.save existing profile expected).1,
        (InMemoryFamily.save existing profile expected).2.mapError .raised)
  denial? := FamilyReply.denial?

/-- `DynamoDBFamilyRepository`. -/
def dynamoDBFamily {S : Type} (table : Table S) (codec : JsonCodec FamilyProfile) :
    Repository Unit FamilyProfile FamilyReply S where
  call
    | s, .get _ => (s, ((DynamoDBFamily.get table codec s).mapError .raised).bind found)
    | s, .save profile expected =>
      ((DynamoDBFamily.save table codec s profile expected).1,
        (DynamoDBFamily.save table codec s profile expected).2.mapError .raised)
  denial? := FamilyReply.denial?

/-- The first save is of a profile without a version. -/
def SeedsFirst : Access Unit FamilyProfile → Prop
  | .get _ => True
  | .save profile expected => expected = none → profile.version = 0

instance : (access : Access Unit FamilyProfile) → Decidable (SeedsFirst access)
  | .get _ => .isTrue trivial
  | .save profile expected => inferInstanceAs (Decidable (expected = none → profile.version = 0))

/-- A save of a profile without a version, or of one that is there, stores what the store does. -/
theorem nextProfile_eq_storedAt {profile : FamilyProfile} {expected : Option ℤ}
    (h : SeedsFirst (.save profile expected)) : nextProfile profile expected = storedAt profile expected := by
  cases expected with
  | none =>
    show nextProfile profile none = { profile with version := ((profile.version : ℤ) + 1).toNat }
    rw [h rfl]
    rfl
  | some expected => rfl

/-! ### The repository in memory implements the store -/

section Memory

variable {log : List FamilyProfile} {profile : FamilyProfile} {expected : Option ℤ}

/-- What is kept is the current profile. -/
def ProfileOf (log : List FamilyProfile) (existing : Option FamilyProfile) : Prop := existing = current log ()

theorem memorySave_of_expects (h : Expects log profile expected) :
    InMemoryFamily.save (current log ()) profile expected =
      (some (nextProfile profile expected), .ok (nextProfile profile expected)) :=
  if_neg (not_not.mpr h)

theorem memorySave_of_not_expects (h : ¬ Expects log profile expected) :
    InMemoryFamily.save (current log ()) profile expected = (current log (), .error familyVersionConflict) :=
  if_pos h

/-- **The repository in memory** implements the store. -/
theorem inMemoryFamily_implements : inMemoryFamily.Implements SeedsFirst ProfileOf where
  observe_eq log existing access habs hfits := by
    obtain rfl := habs
    cases access with
    | get _ =>
      show inMemoryFamily.observe (found (current log ())) = (answerOf log (.get ())).mapError some
      rw [answerOf]
      cases current log () <;> rfl
    | save profile expected =>
      show inMemoryFamily.observe ((InMemoryFamily.save (current log ()) profile expected).2.mapError .raised) = _
      by_cases hexpects : Expects log profile expected
      · rw [answerOf_of_expects hexpects, memorySave_of_expects hexpects, nextProfile_eq_storedAt hfits]
        rfl
      · rw [answerOf_of_not_expects hexpects, memorySave_of_not_expects hexpects]
        rfl
  next log existing access habs hfits := by
    obtain rfl := habs
    cases access with
    | get _ => rfl
    | save profile expected =>
      show ProfileOf _ (InMemoryFamily.save (current log ()) profile expected).1
      by_cases hexpects : Expects log profile expected
      · rw [logAfter_of_expects hexpects, memorySave_of_expects hexpects, nextProfile_eq_storedAt hfits]
        exact (current_cons rfl).symm
      · rw [logAfter_of_not_expects hexpects, memorySave_of_not_expects hexpects]
        rfl

end Memory

/-! ### The repository in a table implements the store -/

section Table

variable {S : Type} {table : Table S} {codec : JsonCodec FamilyProfile} {s : S} {log : List FamilyProfile}
  {profile : FamilyProfile} {expected : Option ℤ}

/-- The item holds the profile. -/
def HoldsProfile (codec : JsonCodec FamilyProfile) (item : Item) (profile : FamilyProfile) : Prop :=
  item.version = profile.version ∧ codec.modelValidateJson item.payload = .ok profile

/-- The item under the key of the profile holds the current profile. -/
def ProfileItemOf (table : Table S) (codec : JsonCodec FamilyProfile) (log : List FamilyProfile) (s : S) : Prop :=
  Option.Rel (HoldsProfile codec) (table.getItem s profileKey) (current log ())

/-- The first save is of a profile without a version, and every profile that is saved can be written as text. -/
def FitsProfileTable (codec : JsonCodec FamilyProfile) : Access Unit FamilyProfile → Prop
  | .get _ => True
  | .save profile expected =>
    SeedsFirst (.save profile expected) ∧ codec.RoundTrips (nextProfile profile expected)

/-- The condition of a put holds exactly if the store accepts the save. -/
theorem holds_iff_expects_profile (habs : ProfileItemOf table codec log s) :
    (Condition.expecting expected).Holds (table.getItem s profileKey) ↔ Expects log profile expected :=
  Condition.expecting_holds_iff_of_rel (fun _ _ h => h.1) habs

/-- A save that the store accepts puts the item of the profile. -/
theorem tableSave_of_expects (htable : table.Lawful) (habs : ProfileItemOf table codec log s)
    (h : Expects log profile expected) :
    ∃ s', DynamoDBFamily.save table codec s profile expected = (s', .ok (nextProfile profile expected)) ∧
      table.getItem s' profileKey = some (DynamoDBFamily.itemOf codec (nextProfile profile expected)) := by
  obtain ⟨s', hput, hget⟩ := htable.put_of_holds s (DynamoDBFamily.itemOf codec (nextProfile profile expected))
    (.expecting expected) ((holds_iff_expects_profile habs).mpr h)
  refine ⟨s', ?_, (hget profileKey).trans (if_pos rfl)⟩
  rw [DynamoDBFamily.save, hput]

/-- A save that the store refuses is a conflict. -/
theorem tableSave_of_not_expects (htable : table.Lawful) (habs : ProfileItemOf table codec log s)
    (h : ¬ Expects log profile expected) :
    DynamoDBFamily.save table codec s profile expected = (s, .error familyVersionConflict) := by
  have hput := htable.put_of_not_holds s (DynamoDBFamily.itemOf codec (nextProfile profile expected))
    (.expecting expected) fun hholds => h ((holds_iff_expects_profile habs).mp hholds)
  rw [DynamoDBFamily.save, hput]
  exact if_pos rfl

/-- **The repository in a table** implements the store. -/
theorem dynamoDBFamily_implements (htable : table.Lawful) :
    (dynamoDBFamily table codec).Implements (FitsProfileTable codec) (ProfileItemOf table codec) where
  observe_eq log s access habs hfits := by
    cases access with
    | get _ =>
      show (dynamoDBFamily table codec).observe (((DynamoDBFamily.get table codec s).mapError .raised).bind found) = _
      rw [DynamoDBFamily.get, answerOf]
      unfold ProfileItemOf at habs
      generalize table.getItem s profileKey = item?, current log () = profile? at habs
      cases habs with
      | none => rfl
      | some hitem =>
        simp only [hitem.2]
        rfl
    | save profile expected =>
      show (dynamoDBFamily table codec).observe
        ((DynamoDBFamily.save table codec s profile expected).2.mapError .raised) = _
      by_cases hexpects : Expects log profile expected
      · obtain ⟨s', hsave, -⟩ := tableSave_of_expects htable habs hexpects
        rw [answerOf_of_expects hexpects, hsave, nextProfile_eq_storedAt hfits.1]
        rfl
      · rw [answerOf_of_not_expects hexpects, tableSave_of_not_expects htable habs hexpects]
        rfl
  next log s access habs hfits := by
    cases access with
    | get _ => exact habs
    | save profile expected =>
      show ProfileItemOf table codec _ (DynamoDBFamily.save table codec s profile expected).1
      by_cases hexpects : Expects log profile expected
      · obtain ⟨s', hsave, hget⟩ := tableSave_of_expects htable habs hexpects
        rw [logAfter_of_expects hexpects, ← nextProfile_eq_storedAt hfits.1, hsave, ProfileItemOf, hget,
          current_cons rfl]
        exact .some ⟨rfl, hfits.2⟩
      · rw [logAfter_of_not_expects hexpects, tableSave_of_not_expects htable habs hexpects]
        exact habs

end Table

/-! ### Either repository -/

/-- The two repositories: what each answers, how it begins, and which profiles it can keep. -/
inductive IsFamilyRepository :
    {S : Type} → Repository Unit FamilyProfile FamilyReply S → S → (FamilyProfile → Prop) → Prop where
  /-- In memory, any. -/
  | inMemory : IsFamilyRepository inMemoryFamily none fun _ => True
  /-- In a table, those that are read back as they are written. -/
  | dynamoDB {S : Type} {table : Table S} {codec : JsonCodec FamilyProfile} {s : S} (htable : table.Lawful)
      (hempty : table.getItem s profileKey = none) :
      IsFamilyRepository (dynamoDBFamily table codec) s codec.RoundTrips

/-- The repository can keep what is saved. -/
def Keepable (keeps : FamilyProfile → Prop) : Access Unit FamilyProfile → Prop
  | .get _ => True
  | .save profile expected => keeps (nextProfile profile expected)

/-- **Either repository implements the store**, and begins with nothing. -/
theorem isFamilyRepository_implements {S : Type} {r : Repository Unit FamilyProfile FamilyReply S} {s : S}
    {keeps : FamilyProfile → Prop} (h : IsFamilyRepository r s keeps) :
    ∃ fits Abs, r.Implements fits Abs ∧ Abs [] s ∧
      ∀ access, SeedsFirst access → Keepable keeps access → fits access := by
  cases h with
  | inMemory => exact ⟨_, _, inMemoryFamily_implements, rfl, fun _ hfirst _ => hfirst⟩
  | dynamoDB htable hempty =>
    refine ⟨_, _, dynamoDBFamily_implements htable, ?_, fun access hfirst hkeep => ?_⟩
    · rw [ProfileItemOf, hempty]
      exact .none
    · cases access with
      | get _ => trivial
      | save profile expected => exact ⟨hfirst, hkeep⟩

end DayMend.Repositories
