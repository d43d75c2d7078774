import LogicalSql.Query.Basic
import LogicalSql.Query.ParseError

/-! Set operations as one flat chain of selections. -/
namespace LogicalSql

mutual

/-- Puts a set operation behind the last selection of the chain. -/
def Select.append (new : SetOperation) : Select → Except ParseError Select
  | ⟨distinct, projections, sources, joins, filter, groupBy, having, orderBy, limit, offset,
      setOperation⟩ => do
    let setOperation ← appendTo new setOperation
    return ⟨distinct, projections, sources, joins, filter, groupBy, having, orderBy, limit, offset,
      some setOperation⟩

def appendTo (new : SetOperation) : Option SetOperation → Except ParseError SetOperation
  | none => return new
  | some ⟨op, all, right⟩ => return ⟨op, all, ← right.appendBranch new⟩

/-- Only a selection goes on with further set operations. -/
def Query.appendBranch (new : SetOperation) : Query → Except ParseError Query
  | .select s => return .select (← s.append new)
  | _ => throw .setOperationBranch

end

/-- Joins two operands. The right one, whatever it is, ends the chain of the left one. -/
def Query.combine (left : Query) (op : SetOperator) (all : Bool) (right : Query) :
    Except ParseError Query :=
  match left with
  | .select s => return .select (← s.append ⟨op, all, right⟩)
  | _ => throw .setOperationLeft

/-- Order, limit and offset that stand outside take the place of those inside. -/
def Select.overrideWith (s : Select) (orderBy : List OrderItem) (limit offset : Option Expr) :
    Select :=
  { s with
    orderBy := if orderBy.isEmpty then s.orderBy else orderBy
    limit := limit <|> s.limit
    offset := offset <|> s.offset }

end LogicalSql
