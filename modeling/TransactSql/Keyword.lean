/-!
# Keywords

The words the grammar knows. A reserved word cannot stand as a bare name; a contextual word is a
keyword only where the grammar asks for it.
-/

namespace TransactSql

inductive Keyword where
  | ADD | ALL | ALTER | AND | ANY | AS | ASC | AUTHORIZATION | BACKUP | BEGIN | BETWEEN | BREAK
  | BROWSE | BULK | BY | CASCADE | CASE | CHECK | CHECKPOINT | CLOSE | CLUSTERED | COALESCE
  | COLLATE | COLUMN | COMMIT | COMPUTE | CONSTRAINT | CONTAINS | CONTINUE | CONVERT | CREATE
  | CROSS | CURRENT | CURRENT_DATE | CURRENT_TIME | CURRENT_TIMESTAMP | CURRENT_USER | CURSOR
  | DATABASE | DBCC | DEALLOCATE | DECLARE | DEFAULT | DELETE | DENY | DESC | DISTINCT
  | DISTRIBUTED | DROP | ELSE | END | ESCAPE | EXCEPT | EXEC | EXECUTE | EXISTS | EXTERNAL | FETCH
  | FILE | FOR | FOREIGN | FROM | FULL | FUNCTION | GOTO | GRANT | GROUP | HAVING | IDENTITY | IF
  | IN | INDEX | INNER | INSERT | INTERSECT | INTO | IS | JOIN | KEY | KILL | LEFT | LIKE | MERGE
  | NOCHECK | NONCLUSTERED | NOT | NULL | NULLIF | OF | OFF | ON | OPEN | OPTION | OR | ORDER
  | OUTER | OVER | PERCENT | PIVOT | PRIMARY | PRINT | PROC | PROCEDURE | RAISERROR | RECONFIGURE
  | REFERENCES | RESTORE | RETURN | REVERT | REVOKE | RIGHT | ROLLBACK | ROWCOUNT | SAVE | SCHEMA
  | SELECT | SESSION_USER | SET | SHUTDOWN | SOME | SYSTEM_USER | TABLE | THEN | TO | TOP | TRAN
  | TRANSACTION | TRUNCATE | TRY_CONVERT | UNION | UNIQUE | UNPIVOT | UPDATE | USE | USER | VALUES
  | VARYING | VIEW | WAITFOR | WHEN | WHERE | WHILE | WITH | APPLY | CAST | CATCH | CONVERSATION
  | DIALOG | DISABLE | ENABLE | FIRST | GET | JSON | MOVE | NAME | NEXT | OFFSET | ONLY | OUT
  | OUTPUT | PARTITION | READONLY | RECEIVE | REPLICATION | RETURNS | ROW | ROWS | SEND | THROW
  | TIES | TRY | TRY_CAST | XML
deriving Repr, DecidableEq, Inhabited

namespace Keyword

def all : List Keyword :=
  [.ADD, .ALL, .ALTER, .AND, .ANY, .AS, .ASC, .AUTHORIZATION, .BACKUP, .BEGIN, .BETWEEN, .BREAK,
   .BROWSE, .BULK, .BY, .CASCADE, .CASE, .CHECK, .CHECKPOINT, .CLOSE, .CLUSTERED, .COALESCE,
   .COLLATE, .COLUMN, .COMMIT, .COMPUTE, .CONSTRAINT, .CONTAINS, .CONTINUE, .CONVERT, .CREATE,
   .CROSS, .CURRENT, .CURRENT_DATE, .CURRENT_TIME, .CURRENT_TIMESTAMP, .CURRENT_USER, .CURSOR,
   .DATABASE, .DBCC, .DEALLOCATE, .DECLARE, .DEFAULT, .DELETE, .DENY, .DESC, .DISTINCT,
   .DISTRIBUTED, .DROP, .ELSE, .END, .ESCAPE, .EXCEPT, .EXEC, .EXECUTE, .EXISTS, .EXTERNAL, .FETCH,
   .FILE, .FOR, .FOREIGN, .FROM, .FULL, .FUNCTION, .GOTO, .GRANT, .GROUP, .HAVING, .IDENTITY, .IF,
   .IN, .INDEX, .INNER, .INSERT, .INTERSECT, .INTO, .IS, .JOIN, .KEY, .KILL, .LEFT, .LIKE, .MERGE,
   .NOCHECK, .NONCLUSTERED, .NOT, .NULL, .NULLIF, .OF, .OFF, .ON, .OPEN, .OPTION, .OR, .ORDER,
   .OUTER, .OVER, .PERCENT, .PIVOT, .PRIMARY, .PRINT, .PROC, .PROCEDURE, .RAISERROR, .RECONFIGURE,
   .REFERENCES, .RESTORE, .RETURN, .REVERT, .REVOKE, .RIGHT, .ROLLBACK, .ROWCOUNT, .SAVE, .SCHEMA,
   .SELECT, .SESSION_USER, .SET, .SHUTDOWN, .SOME, .SYSTEM_USER, .TABLE, .THEN, .TO, .TOP, .TRAN,
   .TRANSACTION, .TRUNCATE, .TRY_CONVERT, .UNION, .UNIQUE, .UNPIVOT, .UPDATE, .USE, .USER, .VALUES,
   .VARYING, .VIEW, .WAITFOR, .WHEN, .WHERE, .WHILE, .WITH, .APPLY, .CAST, .CATCH, .CONVERSATION,
   .DIALOG, .DISABLE, .ENABLE, .FIRST, .GET, .JSON, .MOVE, .NAME, .NEXT, .OFFSET, .ONLY, .OUT,
   .OUTPUT, .PARTITION, .READONLY, .RECEIVE, .REPLICATION, .RETURNS, .ROW, .ROWS, .SEND, .THROW,
   .TIES, .TRY, .TRY_CAST, .XML]

/-- The canonical upper-case spelling. -/
def spelling : Keyword → String
  | .ADD => "ADD"
  | .ALL => "ALL"
  | .ALTER => "ALTER"
  | .AND => "AND"
  | .ANY => "ANY"
  | .AS => "AS"
  | .ASC => "ASC"
  | .AUTHORIZATION => "AUTHORIZATION"
  | .BACKUP => "BACKUP"
  | .BEGIN => "BEGIN"
  | .BETWEEN => "BETWEEN"
  | .BREAK => "BREAK"
  | .BROWSE => "BROWSE"
  | .BULK => "BULK"
  | .BY => "BY"
  | .CASCADE => "CASCADE"
  | .CASE => "CASE"
  | .CHECK => "CHECK"
  | .CHECKPOINT => "CHECKPOINT"
  | .CLOSE => "CLOSE"
  | .CLUSTERED => "CLUSTERED"
  | .COALESCE => "COALESCE"
  | .COLLATE => "COLLATE"
  | .COLUMN => "COLUMN"
  | .COMMIT => "COMMIT"
  | .COMPUTE => "COMPUTE"
  | .CONSTRAINT => "CONSTRAINT"
  | .CONTAINS => "CONTAINS"
  | .CONTINUE => "CONTINUE"
  | .CONVERT => "CONVERT"
  | .CREATE => "CREATE"
  | .CROSS => "CROSS"
  | .CURRENT => "CURRENT"
  | .CURRENT_DATE => "CURRENT_DATE"
  | .CURRENT_TIME => "CURRENT_TIME"
  | .CURRENT_TIMESTAMP => "CURRENT_TIMESTAMP"
  | .CURRENT_USER => "CURRENT_USER"
  | .CURSOR => "CURSOR"
  | .DATABASE => "DATABASE"
  | .DBCC => "DBCC"
  | .DEALLOCATE => "DEALLOCATE"
  | .DECLARE => "DECLARE"
  | .DEFAULT => "DEFAULT"
  | .DELETE => "DELETE"
  | .DENY => "DENY"
  | .DESC => "DESC"
  | .DISTINCT => "DISTINCT"
  | .DISTRIBUTED => "DISTRIBUTED"
  | .DROP => "DROP"
  | .ELSE => "ELSE"
  | .END => "END"
  | .ESCAPE => "ESCAPE"
  | .EXCEPT => "EXCEPT"
  | .EXEC => "EXEC"
  | .EXECUTE => "EXECUTE"
  | .EXISTS => "EXISTS"
  | .EXTERNAL => "EXTERNAL"
  | .FETCH => "FETCH"
  | .FILE => "FILE"
  | .FOR => "FOR"
  | .FOREIGN => "FOREIGN"
  | .FROM => "FROM"
  | .FULL => "FULL"
  | .FUNCTION => "FUNCTION"
  | .GOTO => "GOTO"
  | .GRANT => "GRANT"
  | .GROUP => "GROUP"
  | .HAVING => "HAVING"
  | .IDENTITY => "IDENTITY"
  | .IF => "IF"
  | .IN => "IN"
  | .INDEX => "INDEX"
  | .INNER => "INNER"
  | .INSERT => "INSERT"
  | .INTERSECT => "INTERSECT"
  | .INTO => "INTO"
  | .IS => "IS"
  | .JOIN => "JOIN"
  | .KEY => "KEY"
  | .KILL => "KILL"
  | .LEFT => "LEFT"
  | .LIKE => "LIKE"
  | .MERGE => "MERGE"
  | .NOCHECK => "NOCHECK"
  | .NONCLUSTERED => "NONCLUSTERED"
  | .NOT => "NOT"
  | .NULL => "NULL"
  | .NULLIF => "NULLIF"
  | .OF => "OF"
  | .OFF => "OFF"
  | .ON => "ON"
  | .OPEN => "OPEN"
  | .OPTION => "OPTION"
  | .OR => "OR"
  | .ORDER => "ORDER"
  | .OUTER => "OUTER"
  | .OVER => "OVER"
  | .PERCENT => "PERCENT"
  | .PIVOT => "PIVOT"
  | .PRIMARY => "PRIMARY"
  | .PRINT => "PRINT"
  | .PROC => "PROC"
  | .PROCEDURE => "PROCEDURE"
  | .RAISERROR => "RAISERROR"
  | .RECONFIGURE => "RECONFIGURE"
  | .REFERENCES => "REFERENCES"
  | .RESTORE => "RESTORE"
  | .RETURN => "RETURN"
  | .REVERT => "REVERT"
  | .REVOKE => "REVOKE"
  | .RIGHT => "RIGHT"
  | .ROLLBACK => "ROLLBACK"
  | .ROWCOUNT => "ROWCOUNT"
  | .SAVE => "SAVE"
  | .SCHEMA => "SCHEMA"
  | .SELECT => "SELECT"
  | .SESSION_USER => "SESSION_USER"
  | .SET => "SET"
  | .SHUTDOWN => "SHUTDOWN"
  | .SOME => "SOME"
  | .SYSTEM_USER => "SYSTEM_USER"
  | .TABLE => "TABLE"
  | .THEN => "THEN"
  | .TO => "TO"
  | .TOP => "TOP"
  | .TRAN => "TRAN"
  | .TRANSACTION => "TRANSACTION"
  | .TRUNCATE => "TRUNCATE"
  | .TRY_CONVERT => "TRY_CONVERT"
  | .UNION => "UNION"
  | .UNIQUE => "UNIQUE"
  | .UNPIVOT => "UNPIVOT"
  | .UPDATE => "UPDATE"
  | .USE => "USE"
  | .USER => "USER"
  | .VALUES => "VALUES"
  | .VARYING => "VARYING"
  | .VIEW => "VIEW"
  | .WAITFOR => "WAITFOR"
  | .WHEN => "WHEN"
  | .WHERE => "WHERE"
  | .WHILE => "WHILE"
  | .WITH => "WITH"
  | .APPLY => "APPLY"
  | .CAST => "CAST"
  | .CATCH => "CATCH"
  | .CONVERSATION => "CONVERSATION"
  | .DIALOG => "DIALOG"
  | .DISABLE => "DISABLE"
  | .ENABLE => "ENABLE"
  | .FIRST => "FIRST"
  | .GET => "GET"
  | .JSON => "JSON"
  | .MOVE => "MOVE"
  | .NAME => "NAME"
  | .NEXT => "NEXT"
  | .OFFSET => "OFFSET"
  | .ONLY => "ONLY"
  | .OUT => "OUT"
  | .OUTPUT => "OUTPUT"
  | .PARTITION => "PARTITION"
  | .READONLY => "READONLY"
  | .RECEIVE => "RECEIVE"
  | .REPLICATION => "REPLICATION"
  | .RETURNS => "RETURNS"
  | .ROW => "ROW"
  | .ROWS => "ROWS"
  | .SEND => "SEND"
  | .THROW => "THROW"
  | .TIES => "TIES"
  | .TRY => "TRY"
  | .TRY_CAST => "TRY_CAST"
  | .XML => "XML"

/-- A contextual word may also be used as a name. -/
def isReserved : Keyword → Bool
  | .APPLY | .CAST | .CATCH | .CONVERSATION | .DIALOG | .DISABLE | .ENABLE | .FIRST | .GET | .JSON
  | .MOVE | .NAME | .NEXT | .OFFSET | .ONLY | .OUT | .OUTPUT | .PARTITION | .READONLY | .RECEIVE
  | .REPLICATION | .RETURNS | .ROW | .ROWS | .SEND | .THROW | .TIES | .TRY | .TRY_CAST
  | .XML => false
  | _ => true

/-- The keyword a word spells, in any case of ASCII letters. -/
def ofWord? (word : String) : Option Keyword :=
  let upper := word.map Char.toUpper
  all.find? fun k => k.spelling == upper

/-- Whether an expression may begin with the word. Contextual words are names; of the reserved
ones, literals, operators and the functions called by name qualify. -/
def startsExpression (k : Keyword) : Bool :=
  !k.isReserved || match k with
  | .NULL | .CASE | .SELECT | .NOT | .EXISTS | .ALL | .ANY | .SOME | .CONVERT | .TRY_CONVERT
  | .COALESCE | .NULLIF | .LEFT | .RIGHT | .CURRENT_DATE | .CURRENT_TIME | .CURRENT_TIMESTAMP
  | .CURRENT_USER | .SESSION_USER | .SYSTEM_USER | .USER => true
  | _ => false

end Keyword

end TransactSql
