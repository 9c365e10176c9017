import Jayvee.Ast.Basic
import Jayvee.Ast.Pipeline
import Jayvee.Sorting.Loop
import Jayvee.Sorting.Order
import Jayvee.Sorting.Termination
import Jayvee.Validation.BlockDefinition
import Jayvee.Sorting.Cycles
import Jayvee.Sorting.Outcome
import Jayvee.Sorting.Validated
import Jayvee.Expressions.Syntax
import Jayvee.Expressions.TypeInference
import Jayvee.Expressions.OperatorRegistry
import Jayvee.Expressions.Evaluation
import Jayvee.Tabular.TableInterpreter
import Jayvee.Interpreter.RuntimeParameters
import Jayvee.Interpreter.IntegerParameters
import Jayvee.Interpreter.RunOptions
