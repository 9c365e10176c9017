import Jayvee.Ast.Basic

/-! # Constant expressions and their typing rules

The expressions of property values: text, boolean and numeric literals, `not`,
and the binary operators in three families. Numeric literals carry JavaScript
numbers, that is IEEE doubles. `WellTyped` states the typing rules on their
own, apart from the inference procedure that implements them.
-/

namespace Jayvee

inductive UnaryOperator
  | not
  deriving DecidableEq, Repr

inductive BinaryOperator
  | eq | neq | lt | le | gt | ge | xor | and | or
  deriving DecidableEq, Repr

inductive OperatorFamily
  | equality | relational | logical
  deriving DecidableEq, Repr

def BinaryOperator.family : BinaryOperator → OperatorFamily
  | .eq | .neq => .equality
  | .lt | .le | .gt | .ge => .relational
  | .xor | .and | .or => .logical

inductive Expression
  | textLiteral (value : String)
  | booleanLiteral (value : Bool)
  | numericLiteral (value : Float)
  | unaryExpression (operator : UnaryOperator) (expression : Expression)
  | binaryExpression (operator : BinaryOperator) (left right : Expression)

/-- A property value: an expression or one of the literals inference only names. -/
inductive PropertyValueLiteral
  | collectionLiteral
  | cellRangeLiteral
  | regexLiteral
  | valuetypeAssignmentLiteral
  | constraintReferenceLiteral
  | expression (expression : Expression)

/-- `Number.isInteger`: finite and without fractional part. -/
def isInteger (value : Float) : Bool := value.isFinite && value.floor == value

/-- The operand types each family of binary operators accepts: equal types or two
numeric ones for equality, numeric ones for comparison, booleans for logic. -/
def OperatorFamily.Accepts : OperatorFamily → PropertyValuetype → PropertyValuetype → Prop
  | .equality, leftType, rightType =>
    leftType = rightType ∨ isNumericType leftType ∧ isNumericType rightType
  | .relational, leftType, rightType => isNumericType leftType ∧ isNumericType rightType
  | .logical, leftType, rightType => leftType = .boolean ∧ rightType = .boolean

instance (family : OperatorFamily) (leftType rightType : PropertyValuetype) :
    Decidable (family.Accepts leftType rightType) :=
  match family with
  | .equality => inferInstanceAs (Decidable (_ ∨ _))
  | .relational => inferInstanceAs (Decidable (_ ∧ _))
  | .logical => inferInstanceAs (Decidable (_ ∧ _))

/-- The typing rules the inference implements. Mixed integer and decimal
operands are well typed for equality and comparison. -/
inductive WellTyped : Expression → PropertyValuetype → Prop
  | textLiteral (value : String) : WellTyped (.textLiteral value) .text
  | booleanLiteral (value : Bool) : WellTyped (.booleanLiteral value) .boolean
  | integerLiteral {value : Float} : isInteger value = true →
      WellTyped (.numericLiteral value) .integer
  | decimalLiteral {value : Float} : isInteger value = false →
      WellTyped (.numericLiteral value) .decimal
  | not {expression : Expression} : WellTyped expression .boolean →
      WellTyped (.unaryExpression .not expression) .boolean
  | binary {operator : BinaryOperator} {left right : Expression}
      {leftType rightType : PropertyValuetype} :
      WellTyped left leftType → WellTyped right rightType →
      operator.family.Accepts leftType rightType →
      WellTyped (.binaryExpression operator left right) .boolean

end Jayvee
