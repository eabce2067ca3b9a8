import DayMend.Application.Deployments
import DayMend.Application.FamilyService
import DayMend.Base.Parts

/-!
# The recovery service with its family service

`RecoveryApplicationService` keeps recovery cases in one repository, and its `FamilyService`
keeps the family's profile in another. `start_recovery` begins with the profile: the facts
of the case are those of the profile as it is at that moment. The other requests of the one
service do not touch the other's repository.

A program of either service is a program of the whole (`inFamily`, `inRecovery`); what one
asks and how it fails is told apart from what the other does.
-/

namespace DayMend.Application

open DayMend.Base DayMend.Models DayMend.Fixtures DayMend.Services DayMend.Agent

section Whole

variable {Date Q : Type} {A : Q → Type} {α : Type}

/-- What the services ask is answered as it is for each of them. -/
def WholeAnswer (Date : Type) (A : Q → Type) : Unit ⊕ (Query ⊕ Q) → Type
  | .inl question => DateAnswer Date question
  | .inr question => DeployedAnswer A question

variable (Date A) in
/-- A program of the whole service. -/
abbrev Whole (α : Type) :=
  Prog (Unit ⊕ String) (FamilyProfile ⊕ RecoveryCase) (FamilyFailure ⊕ ReasoningFailure) (WholeAnswer Date A) α

/-- The repository of the profile. -/
abbrev profiles : Part Unit FamilyProfile (Unit ⊕ String) (FamilyProfile ⊕ RecoveryCase) := .left

/-- The repository of the cases. -/
abbrev cases : Part String RecoveryCase (Unit ⊕ String) (FamilyProfile ⊕ RecoveryCase) := .right

/-- A question of the family service. -/
def askForFamily (question : Unit) : Whole Date A (DateAnswer Date question) := .ask (.inl question) .ret

/-- A question of the recovery service. -/
def askForRecovery (question : Query ⊕ Q) : Whole Date A (DeployedAnswer A question) := .ask (.inr question) .ret

/-- A program of the family service. -/
def inFamily (program : FamilyProgram Date α) : Whole Date A α := program.onPart profiles askForFamily .inl

/-- A program of the recovery service. -/
def inRecovery (program : Deployed A α) : Whole Date A α := program.onPart cases askForRecovery .inr

/-- A request to the family service. -/
def familyRequest (program : FamilyProgram Date FamilyResult) : Whole Date A (RecoveryCase ⊕ FamilyResult) :=
  inFamily program >>= fun result => .ret (.inr result)

/-- A request to the recovery service. -/
def recoveryRequest (program : Deployed A RecoveryCase) : Whole Date A (RecoveryCase ⊕ FamilyResult) :=
  inRecovery program >>= fun recoveryCase => .ret (.inl recoveryCase)

variable (family : FamilyService Date) (gateway : PlanningGateway A) (valueErrorText : ReasoningFailure → Option String)
  (scenarioFactory : DemoScenario)

/-- `start_recovery`, from the profile on. -/
def startFromProfile (command : StartRecoveryCommand) : Whole Date A (RecoveryCase ⊕ FamilyResult) := do
  let profile ← inFamily family.get
  let scenario ← Prog.ofExcept ((family.scenario profile).mapError .inl)
  recoveryRequest (gateway.startRecovery scenarioFactory scenario command)

/-- The requests that the whole service takes. -/
inductive WholeRequest : Whole Date A (RecoveryCase ⊕ FamilyResult) → Prop
  /-- Start a recovery. -/
  | start (command : StartRecoveryCommand) :
      WholeRequest (startFromProfile family gateway scenarioFactory command)
  /-- Process an event. -/
  | event (caseId : String) (command : EventCommand) :
      WholeRequest (recoveryRequest (gateway.processEvent valueErrorText scenarioFactory caseId command))
  /-- Decide an approval. -/
  | decide (caseId approvalId : String) (command : ApprovalCommand) :
      WholeRequest (recoveryRequest (inService (decideApproval scenarioFactory caseId approvalId command)))
  /-- Read, edit or reset the profile. -/
  | family (request : FamilyRequest) : WholeRequest (familyRequest (family.call request))

end Whole

end DayMend.Application
