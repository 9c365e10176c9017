import Mathlib.Data.List.Basic

/-! # Value types and validation contexts

The closed enumerations of `model-util.ts` and the diagnostic sink that the
checks of the language server write to. A context only ever grows: `accept`
appends one diagnostic and nothing removes one.
-/

namespace Jayvee

/-- The shapes of artifacts flowing along pipes (`IOType`). -/
inductive IOType
  | none | file | textFile | fileSystem | sheet | table
  deriving DecidableEq, Repr

/-- Static types of property values and expression results (`PropertyValuetype`). -/
inductive PropertyValuetype
  | text | integer | decimal | boolean | cellRange | regex | collection
  | valuetypeAssignment | constraint
  deriving DecidableEq, Repr

/-- The string each member of `PropertyValuetype` stands for, as messages print it. -/
def PropertyValuetype.value : PropertyValuetype → String
  | .text => "text"
  | .integer => "integer"
  | .decimal => "decimal"
  | .boolean => "boolean"
  | .cellRange => "cell-range"
  | .regex => "regex"
  | .collection => "collection"
  | .valuetypeAssignment => "valuetype-assignment"
  | .constraint => "constraint"

def runtimeParameterAllowedForType : PropertyValuetype → Bool
  | .cellRange | .regex | .valuetypeAssignment | .collection | .constraint => false
  | .text | .integer | .decimal | .boolean => true

def isNumericType (type : PropertyValuetype) : Bool :=
  type == .integer || type == .decimal

@[simp] theorem isNumericType_iff (type : PropertyValuetype) :
    isNumericType type = true ↔ type = .integer ∨ type = .decimal := by
  cases type <;> simp [isNumericType]

inductive Severity
  | error | warning
  deriving DecidableEq, Repr

structure Diagnostic (N : Type) where
  severity : Severity
  message : String
  node : N

/-- The diagnostic sink of a validation run (`ValidationContext`). -/
structure ValidationContext (N : Type) where
  diagnostics : List (Diagnostic N)

namespace ValidationContext

variable {N : Type}

def empty : ValidationContext N := ⟨[]⟩

def accept (context : ValidationContext N) (severity : Severity) (message : String)
    (node : N) : ValidationContext N :=
  ⟨context.diagnostics ++ [⟨severity, message, node⟩]⟩

def hasErrorOccurred (context : ValidationContext N) : Bool :=
  context.diagnostics.any (·.severity == .error)

@[simp] theorem empty_diagnostics : (empty : ValidationContext N).diagnostics = [] := rfl

@[simp] theorem accept_diagnostics (context : ValidationContext N) (severity : Severity)
    (message : String) (node : N) :
    (context.accept severity message node).diagnostics =
      context.diagnostics ++ [⟨severity, message, node⟩] := rfl

theorem hasErrorOccurred_iff (context : ValidationContext N) :
    context.hasErrorOccurred = true ↔ ∃ d ∈ context.diagnostics, d.severity = .error := by
  simp [hasErrorOccurred]

end ValidationContext

def HasError {N : Type} (diagnostics : List (Diagnostic N)) : Prop :=
  ∃ d ∈ diagnostics, d.severity = .error

instance {N : Type} (diagnostics : List (Diagnostic N)) : Decidable (HasError diagnostics) :=
  inferInstanceAs (Decidable (∃ d ∈ diagnostics, d.severity = .error))

@[simp] theorem hasError_nil {N : Type} : ¬ HasError ([] : List (Diagnostic N)) := by
  simp [HasError]

@[simp] theorem hasError_append {N : Type} (l₁ l₂ : List (Diagnostic N)) :
    HasError (l₁ ++ l₂) ↔ HasError l₁ ∨ HasError l₂ := by
  simp [HasError, or_and_right, exists_or]

@[simp] theorem hasError_singleton {N : Type} (d : Diagnostic N) :
    HasError [d] ↔ d.severity = .error := by
  simp [HasError]

/-- The failure `assert` of Node throws; the thrown error ends the process. -/
def assertionError : String := "AssertionError"

@[simp] theorem ok_bind {ε α γ : Type} (a : α) (f : α → Except ε γ) :
    (Except.ok a >>= f) = f a := rfl

@[simp] theorem pure_eq_ok {ε α : Type} (a : α) : (pure a : Except ε α) = .ok a := rfl

end Jayvee
