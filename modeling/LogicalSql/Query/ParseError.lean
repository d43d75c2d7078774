/-! Why a text is not taken as a query. -/
namespace LogicalSql

inductive ParseError where
  /-- Not SQL, or nested too deeply. -/
  | malformed
  | statementCount (found : Nat)
  | setOperationLeft
  | setOperationBranch
  | parenthesizedBranch (text : String)
  | derivedTableAlias
  | tableFactor (text : String)
  | joinOperator (name : String)
  | expression (text : String)
  | numericLiteral (text : String)
  | placeholder (text : String)
  | literal (text : String)
  | binaryOperator (name : String)
  | unaryOperator (name : String)
  | windowFunction (name : String)
  | filterOutsideAggregate (name : String)
  deriving DecidableEq, Repr

def ParseError.message : ParseError → String
  | .malformed => "SQL parse error"
  | .statementCount found => "Expected 1 statement, found " ++ toString found
  | .setOperationLeft => "Unsupported left side of a set operation"
  | .setOperationBranch => "Unsupported branch inside a set operation"
  | .parenthesizedBranch text =>
    "Unsupported parenthesized branch of a set operation: (" ++ text ++ ")"
  | .derivedTableAlias => "Derived table requires an alias"
  | .tableFactor text => "Unsupported table factor: " ++ text
  | .joinOperator name => "Unsupported join operator: " ++ name
  | .expression text => "Unsupported expression: " ++ text
  | .numericLiteral text => "Invalid numeric literal: " ++ text
  | .placeholder text => "Unsupported placeholder: " ++ text
  | .literal text => "Unsupported literal: " ++ text
  | .binaryOperator name => "Unsupported binary operator: " ++ name
  | .unaryOperator name => "Unsupported unary operator: " ++ name
  | .windowFunction name => "Window functions are not supported: " ++ name
  | .filterOutsideAggregate name => "FILTER is only supported on aggregates: " ++ name

end LogicalSql
