import DayMend.Base.Dict
import Mathlib.Data.Int.Notation

/-!
# The DynamoDB table

Recovery cases and the family profile share one table, of items that are found under
`recovery_case_id`. The table itself is not ours: it is a parameter, and what is relied
on is what a table promises, that a conditional put is atomic, succeeds exactly if its
condition holds of the item that is there, and then replaces that item and no other
(`Table.Lawful`).
-/

namespace DayMend.Repositories

open DayMend.Base

/-- An item. The attributes past the payload are written for those who look at the table. -/
structure Item where
  recoveryCaseId : String
  version : ℤ
  payload : String
  status : Option String := none
  updatedAt : Option String := none
  entityType : Option String := none
  deriving DecidableEq

/-- `PROFILE_KEY`, under which the family profile is found; it is no case. -/
def profileKey : String := "family-profile:demo"

/-- A condition expression. -/
inductive Condition where
  /-- `attribute_not_exists(recovery_case_id)`. -/
  | attributeNotExists
  /-- `#version = :expected_version`. -/
  | versionEquals (expected : ℤ)

/-- The condition of a save: there is no item, or it has the expected version. -/
def Condition.expecting : Option ℤ → Condition
  | none => .attributeNotExists
  | some expected => .versionEquals expected

/-- The condition holds of what is there. -/
def Condition.Holds : Condition → Option Item → Prop
  | .attributeNotExists, existing => existing = none
  | .versionEquals expected, existing => existing.map (·.version) = some expected

instance : (condition : Condition) → (existing : Option Item) → Decidable (condition.Holds existing)
  | .attributeNotExists, existing => inferInstanceAs (Decidable (existing = none))
  | .versionEquals expected, existing => inferInstanceAs (Decidable (existing.map (·.version) = some expected))

/-- The condition of a save says that the version is the expected one. -/
theorem Condition.expecting_holds_iff {expected : Option ℤ} {existing : Option Item} :
    (Condition.expecting expected).Holds existing ↔ existing.map (·.version) = expected := by
  cases expected with
  | none => exact Option.map_eq_none_iff.symm
  | some expected => exact Iff.rfl

/-- Where the item has the version of the value that it stands for, the condition says that this is the expected one. -/
theorem Condition.expecting_holds_iff_of_rel {σ : Type} {stands : Item → σ → Prop} {version : σ → ℕ}
    (hversion : ∀ item c, stands item c → item.version = version c) {expected : Option ℤ} {existing : Option Item}
    {c? : Option σ} (h : Option.Rel stands existing c?) :
    (Condition.expecting expected).Holds existing ↔ c?.map (fun c => (version c : ℤ)) = expected := by
  rw [Condition.expecting_holds_iff]
  cases h with
  | none => exact Iff.rfl
  | some h => rw [Option.map_some, Option.map_some, hversion _ _ h]

/-- A table: `get_item` with a consistent read, and `put_item` with a condition. A put that fails raises a client error
with a code. -/
structure Table (S : Type) where
  getItem : S → String → Option Item
  putItem : S → Item → Condition → Except String S

/-- The code of a put whose condition does not hold. -/
def conditionalCheckFailed : String := "ConditionalCheckFailedException"

variable {S : Type}

/-- What a table promises, apart from the limits of the service: it keeps numbers of 38 digits, and keys and items up to
a size, and refuses what is longer, while every item is taken here. -/
structure Table.Lawful (table : Table S) : Prop where
  put_of_holds : ∀ s item condition, condition.Holds (table.getItem s item.recoveryCaseId) →
    ∃ s', table.putItem s item condition = .ok s' ∧
      ∀ key, table.getItem s' key = if key = item.recoveryCaseId then some item else table.getItem s key
  put_of_not_holds : ∀ s item condition, ¬ condition.Holds (table.getItem s item.recoveryCaseId) →
    table.putItem s item condition = .error conditionalCheckFailed

/-- A table that is a dictionary of its items. -/
def dictTable : Table (Dict String Item) where
  getItem items key := items.get? key
  putItem items item condition :=
    if condition.Holds (items.get? item.recoveryCaseId) then .ok (items.insert item.recoveryCaseId item)
    else .error conditionalCheckFailed

theorem dictTable_lawful : dictTable.Lawful where
  put_of_holds items item condition h := by
    refine ⟨_, if_pos h, fun key => ?_⟩
    show (items.insert item.recoveryCaseId item).get? key = _
    rw [Dict.get?_insert]
    by_cases hkey : item.recoveryCaseId = key
    · simp [hkey]
    · rw [if_neg hkey, if_neg (Ne.symm hkey)]
      rfl
  put_of_not_holds items item condition h := if_neg h

/-- What is read and written of a value as JSON text: `model_dump_json` and `model_validate_json`, which may find fault
with the text. -/
structure JsonCodec (σ : Type) where
  modelDumpJson : σ → String
  modelValidateJson : String → Except String σ

/-- What is written is read back. -/
def JsonCodec.RoundTrips {σ : Type} (codec : JsonCodec σ) (c : σ) : Prop :=
  codec.modelValidateJson (codec.modelDumpJson c) = .ok c

end DayMend.Repositories
