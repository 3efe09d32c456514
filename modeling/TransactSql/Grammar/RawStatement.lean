import TransactSql.Parser.Extent

/-!
# Statements kept as tokens

Where a statement ends whose structure the grammar does not know: at a `;`, at a `)` that it did
not open, or at a word that starts another statement.
-/

namespace TransactSql.Grammar

open TransactSql.Parser

/-- Words that end the statement before them wherever they stand. -/
def boundaryKeywords : List Keyword :=
  [.END, .ELSE, .BEGIN, .IF, .WHILE, .RETURN, .DECLARE, .GOTO, .BREAK, .CONTINUE]

/-- Words that start a statement. -/
def statementKeywords : List Keyword :=
  [.ALTER, .BACKUP, .BULK, .CHECKPOINT, .CLOSE, .COMMIT, .CREATE, .DBCC, .DEALLOCATE, .DELETE,
   .DENY, .DISABLE, .DROP, .ENABLE, .EXEC, .EXECUTE, .FETCH, .GET, .GRANT, .INSERT, .KILL, .MERGE,
   .MOVE, .OPEN, .PRINT, .RAISERROR, .RECEIVE, .RECONFIGURE, .RESTORE, .REVERT, .REVOKE,
   .ROLLBACK, .SAVE, .SELECT, .SEND, .SET, .SHUTDOWN, .THROW, .TRUNCATE, .UPDATE, .USE, .WAITFOR,
   .WITH]

/-- Of these, the words that never occur inside another statement. -/
def standaloneKeywords : List Keyword :=
  [.CHECKPOINT, .DBCC, .KILL, .PRINT, .RAISERROR, .RECONFIGURE, .REVERT, .SHUTDOWN, .TRUNCATE,
   .USE, .WAITFOR]

/-- Words that lead statements in which other statement words occur, as in
`GRANT SELECT, UPDATE ON t`. -/
def embeddingKeywords : List Keyword :=
  [.ALTER, .BACKUP, .BULK, .CREATE, .DENY, .GRANT, .MERGE, .RESTORE, .REVOKE, .WITH]

/-- Words after which a statement word goes on with the statement, as in `FOR UPDATE`. -/
def continuingKeywords : List Keyword := [.FOR, .OF]

def startsStatement (t : Token) : Bool := t.isAnyKeyword statementKeywords

/-- Whether a statement word goes on with the statement that `leader` starts, `previous` being
the token before the word. -/
def continues (leader previous t : Token) : Bool :=
  leader.isAnyKeyword embeddingKeywords || previous.isAnyKeyword continuingKeywords
    || (t.isKeyword .FETCH && previous.isAnyKeyword [.ROW, .ROWS])
    || (leader.isKeyword .INSERT && t.isAnyKeyword [.SELECT, .EXEC, .EXECUTE])
    || (leader.isKeyword .UPDATE && t.isKeyword .SET)

/-- Whether a word outside parentheses ends the statement of the tokens `before` it. `IF` may be
the third word of a `DROP`; words that are not reserved double as names; `WITH` opens hints. -/
def endsStatement (before : List Token) (t : Token) : Bool :=
  if t.isAnyKeyword boundaryKeywords then
    !(t.isKeyword .IF && before.length == 2 && before.head?.any (·.isKeyword .DROP))
  else if !t.isReserved || !startsStatement t || t.isKeyword .WITH then false
  else if t.isAnyKeyword standaloneKeywords then true
  else match before.head?, before.getLast? with
    | some leader, some previous => !continues leader previous t
    | _, _ => true

/-- How many of the tokens ahead belong to the statement of the tokens `before` them, with
`parens` parentheses and `cases` `CASE`s open. -/
def statementExtent (before : List Token) (parens cases : Nat) : List Token → Nat
  | [] => 0
  | t :: ts =>
    match t.kind, parens, cases with
    | .error _, _, _ => 0
    | .semicolon, 0, _ => 0
    | .leftParen, _, _ => statementExtent (before ++ [t]) (parens + 1) cases ts + 1
    | .rightParen, 0, _ => 0
    | .rightParen, parens + 1, _ => statementExtent (before ++ [t]) parens cases ts + 1
    | .word (.keyword .CASE), 0, _ => statementExtent (before ++ [t]) 0 (cases + 1) ts + 1
    | .word (.keyword .END), 0, cases + 1 => statementExtent (before ++ [t]) 0 cases ts + 1
    | .word _, 0, 0 =>
      if endsStatement before t then 0 else statementExtent (before ++ [t]) 0 0 ts + 1
    | _, _, _ => statementExtent (before ++ [t]) parens cases ts + 1

/-- The rest of the statement whose tokens `before` have been read. -/
def statementTail (before : List Token) : Parser (List Token) :=
  takeRun (statementExtent before 0 0)

end TransactSql.Grammar
