import Mathlib.Data.List.Basic

/-!
# Exceptions

The exception classes the runtime raises or catches, and the class tests of its `except`
clauses. Classes that no handler distinguishes share a kind: `connector` stands for every
other subclass of `ConnectorError`, `other` for every class no handler of the modelled code
names.
-/

namespace MasterAgent

inductive ExnKind where
  | masterAgent | validation | configuration | policyDenied | approvalRequired | verification
  | connector | preEffect | versionConflict
  | structuredDataType | keyError | osError | overflow | runtime | typeError | valueError
  | sqlite | other
deriving DecidableEq, Repr

/-- A raised exception: the class its handlers test for, the name of its own class and its
text. -/
structure Exn where
  kind : ExnKind
  className : String
  message : String
deriving DecidableEq, Repr

namespace ExnKind

/-- Subclasses of `ConnectorError`. -/
def isConnectorError : ExnKind → Bool
  | connector | preEffect | versionConflict => true
  | _ => false

/-- Subclasses of `MasterAgentError`. -/
def isMasterAgentError : ExnKind → Bool
  | masterAgent | validation | configuration | policyDenied | approvalRequired
  | verification => true
  | k => k.isConnectorError

/-- Subclasses of `TypeError`. -/
def isTypeError : ExnKind → Bool
  | typeError | structuredDataType => true
  | _ => false

/-- Subclasses of `ValueError`. -/
def isValueError : ExnKind → Bool
  | valueError | structuredDataType => true
  | _ => false

end ExnKind

def validationError (message : String) : Exn := ⟨.validation, "ValidationError", message⟩
def configurationError (message : String) : Exn :=
  ⟨.configuration, "ConfigurationError", message⟩
def connectorError (message : String) : Exn := ⟨.connector, "ConnectorError", message⟩
def versionConflictError (message : String) : Exn :=
  ⟨.versionConflict, "VersionConflictError", message⟩
def structuredDataTypeError (message : String) : Exn :=
  ⟨.structuredDataType, "StructuredDataTypeError", message⟩
def keyError (message : String) : Exn := ⟨.keyError, "KeyError", message⟩
def runtimeError (message : String) : Exn := ⟨.runtime, "RuntimeError", message⟩
def typeError (message : String) : Exn := ⟨.typeError, "TypeError", message⟩
def valueError (message : String) : Exn := ⟨.valueError, "ValueError", message⟩

/-- `str(error)`. -/
def Exn.str (e : Exn) : String := e.message

/-- A computation that succeeds has succeeded step by step. -/
theorem of_bind_ok {ε α β : Type} {first : Except ε α} {next : α → Except ε β} {result : β}
    (succeeds : first >>= next = .ok result) :
    ∃ value, first = .ok value ∧ next value = .ok result := by
  cases first with
  | error raised => cases succeeds
  | ok value => exact ⟨value, rfl, succeeds⟩

theorem bind_ok_iff {ε α β : Type} {first : Except ε α} {next : α → Except ε β} {result : β} :
    first >>= next = .ok result ↔ ∃ value, first = .ok value ∧ next value = .ok result :=
  ⟨of_bind_ok, fun ⟨_, ran, rest⟩ => by rw [ran]; exact rest⟩

theorem ok_of_isOk {ε α : Type} {result : Except ε α} (accepted : result.isOk = true) :
    ∃ value, result = .ok value := by
  cases result with
  | ok value => exact ⟨value, rfl⟩
  | error raised => cases accepted

/-- What a decided test says about the value that it is made on. -/
theorem ok_of_any {ε α : Type} {result : Except ε α} {test : α → Bool}
    (holds : result.toOption.any test = true) : ∃ value, result = .ok value ∧ test value = true := by
  cases result with
  | error e => cases holds
  | ok value => exact ⟨value, rfl, holds⟩

/-- A pass that succeeds has accepted every member. -/
theorem of_forM_ok {ε α : Type} {items : List α} {check : α → Except ε Unit}
    (checked : items.forM check = .ok ()) {item : α} (listed : item ∈ items) :
    check item = .ok () := by
  induction items with
  | nil => exact absurd listed List.not_mem_nil
  | cons head rest ih =>
    change (check head >>= fun _ => rest.forM check) = .ok () at checked
    obtain ⟨_, here, others⟩ := of_bind_ok checked
    rcases List.mem_cons.mp listed with rfl | later
    · exact here
    · exact ih others later

end MasterAgent
