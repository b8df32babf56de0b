/-!
# Contract failures

The exception classes of `robotics_runtime_contracts` that the modelled functions raise. A raised
exception is the left side of `Except`; its text and its JSON path are kept as the source writes
them.
-/

namespace RoboticsRuntime.Contracts

/-- `errors.ContractError`. -/
structure ContractError where
  message : String
  errorId : String := "input.invalid"
  jsonPath : Option String := none
  deriving DecidableEq, Repr

/-- `semantics.SemanticValidationError`, or the `KeyError` of a subscript of the document that the
schema did not require. -/
inductive SemanticFailure where
  | semantic (schemaName jsonPath validationMessage : String)
  | contract (error : ContractError)
  | keyError (key : String)
  deriving DecidableEq, Repr

/-- `semantics._fail`. -/
def fail {α : Type} (schemaName path message : String) : Except SemanticFailure α :=
  .error (.semantic schemaName path message)

/-- `_qualification.QualificationError`. -/
structure QualificationError where
  message : String
  errorId : String := "qualification.invalid"
  jsonPath : Option String := none
  deriving DecidableEq, Repr

end RoboticsRuntime.Contracts
