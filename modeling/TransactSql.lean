import TransactSql.Edit.Rule
import TransactSql.Main
import TransactSql.Proofs.Parser.Frame
import TransactSql.Proofs.Token.Tiling
import TransactSql.Session
import TransactSql.Proofs.Grammar.Frame
import TransactSql.Proofs.Session.Scopes
import TransactSql.Proofs.Parser.Reading
import TransactSql.Proofs.Parser.Yield
import TransactSql.Proofs.Expr.Checked
import TransactSql.Proofs.Statement.Checked
import TransactSql.Proofs.Grammar.OperandYield
import TransactSql.Proofs.Grammar.QueryYield
import TransactSql.Proofs.Grammar.ExpressionYield
import TransactSql.Proofs.Grammar.RoutineYield
import TransactSql.Proofs.Grammar.StatementYield
import TransactSql.Proofs.RoundTrip
import TransactSql.Proofs.Binding.Basic
import TransactSql.Proofs.Binding.Clauses
import TransactSql.Proofs.Grammar.Progress
import TransactSql.Proofs.Binding.Soundness
import TransactSql.Proofs.Binding.Scalar
import TransactSql.Proofs.Parser.Passing
import TransactSql.Proofs.Binding.Arrival
import TransactSql.Proofs.Binding.Completeness
import TransactSql.Proofs.Parser.Repetition
import TransactSql.Proofs.Grammar.Termination
import TransactSql.Proofs.Likeness.Basic
import TransactSql.Proofs.Likeness.Construction
import TransactSql.Proofs.Likeness.Checks
import TransactSql.Proofs.Likeness.Statements
import TransactSql.Proofs.Likeness.Parsers
import TransactSql.Proofs.Likeness.Queries
import TransactSql.Proofs.Likeness.Expressions
import TransactSql.Proofs.Likeness.Scripts
import TransactSql.Proofs.Likeness.Indifference
import TransactSql.Proofs.Token.Lookahead
import TransactSql.Proofs.Token.Relexing
import TransactSql.Proofs.Token.Attribution
import TransactSql.Proofs.Token.Quoting
import TransactSql.Proofs.CleanText
import TransactSql.Proofs.Parser.Settling
import TransactSql.Proofs.Grammar.OperandSettling
import TransactSql.Proofs.Grammar.QuerySettling
import TransactSql.Proofs.Grammar.ExpressionSettling
import TransactSql.Proofs.Grammar.RoutineSettling
import TransactSql.Proofs.Grammar.StatementSettling
import TransactSql.Proofs.Edit.WellShaped
import TransactSql.Proofs.Edit.Outline
import TransactSql.Proofs.Edit.Walks
import TransactSql.Proofs.Edit.ExpressionWalks
import TransactSql.Proofs.Edit.StatementWalks
import TransactSql.Proofs.Edit.Preservation
import TransactSql.Proofs.Edit.Literals
import TransactSql.Proofs.Edit.Idempotence
import TransactSql.Proofs.Failures
import TransactSql.Proofs.Diagnostics
import TransactSql.Proofs.Session.Stickiness
import TransactSql.Proofs.Batches
import TransactSql.Proofs.Report.Coordinates
import TransactSql.Proofs.Nesting.Basic
import TransactSql.Proofs.Nesting.Construction
import TransactSql.Proofs.Nesting.Parsers
import TransactSql.Proofs.Nesting.Expressions
import TransactSql.Proofs.Nesting.Statements
import TransactSql.Proofs.Parser.Locality
import TransactSql.Proofs.Grammar.Locality
import TransactSql.Proofs.Grammar.ProcedureStart
import TransactSql.Proofs.Grammar.External
import TransactSql.Proofs.Procedures
import TransactSql.Proofs.Parens.Depth
import TransactSql.Proofs.Parens.Levels
import TransactSql.Proofs.Parens.Operands
import TransactSql.Proofs.Parens.Queries
import TransactSql.Proofs.Parens.Expressions
import TransactSql.Proofs.Parens.Matching
import TransactSql.Proofs.Blocks
import TransactSql.Proofs.Nodes.Basic
import TransactSql.Proofs.Nodes.Values
import TransactSql.Proofs.Nodes.Parsers
import TransactSql.Proofs.Nodes.Construction
import TransactSql.Proofs.Nodes.Operands
import TransactSql.Proofs.Nodes.Queries
import TransactSql.Proofs.Nodes.Expressions
import TransactSql.Proofs.Nodes.Declarations
import TransactSql.Proofs.Nodes.Statements
import TransactSql.Proofs.Nodes.Texts
import TransactSql.Proofs.Nodes.Spans
import TransactSql.Proofs.Statement.Everywhere
import TransactSql.Proofs.Statement.Returned
import TransactSql.Proofs.ElseBranches
import TransactSql.Proofs.Parser.Seams
import TransactSql.Proofs.Grammar.Seams
import TransactSql.Proofs.Concatenation
import TransactSql.Proofs.Parser.Contexts
import TransactSql.Proofs.RawStatements
import TransactSql.Proofs.Grammar.Contexts
import TransactSql.Proofs.AssignedValues
import TransactSql.Proofs.Roles.Basic
import TransactSql.Proofs.Roles.Operands
import TransactSql.Proofs.Roles.Expressions
import TransactSql.Proofs.Roles.Statements
import TransactSql.Proofs.Roles.Documents
import TransactSql.Proofs.Depth.Basic
import TransactSql.Proofs.Depth.Expressions
import TransactSql.Proofs.Depth.Statements
import TransactSql.Proofs.Parser.Polling
import TransactSql.Proofs.Parser.Following
import TransactSql.Proofs.Parser.Standstill
