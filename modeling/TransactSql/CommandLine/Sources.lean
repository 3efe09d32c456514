import TransactSql.CommandLine

/-!
# Sources of a run

The standard input and the files there are, and what a run reads from them.
-/

namespace TransactSql.CommandLine

/-- The name that stands for the standard input. -/
def standardInputName : String := "-"

/-- The text waiting on the standard input, and files by name, the one written last first. -/
structure Sources where
  standardInput : String := ""
  files : List (String × String) := []
deriving Repr, DecidableEq

/-- Makes `text` what `name` stands for. -/
def Sources.put (s : Sources) (name text : String) : Sources :=
  if name = standardInputName then { s with standardInput := text }
  else { s with files := (name, text) :: s.files }

/-- What is read under the names, in their order. The standard input is at its end once it has
been read, and a file can be read again. -/
def Sources.read (s : Sources) : List String → List Input
  | [] => []
  | name :: names =>
    if name = standardInputName then
      ⟨name, some s.standardInput⟩ :: { s with standardInput := "" }.read names
    else ⟨name, s.files.lookup name⟩ :: s.read names

end TransactSql.CommandLine
