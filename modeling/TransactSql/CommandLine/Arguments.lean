import TransactSql.CommandLine

/-!
# Command line arguments

A command, its options and the names of its files. `parse` takes `--format` and `--expression`;
the options on logging go with every command and print nothing here.
-/

namespace TransactSql.CommandLine

open Report

/-- What a command line asks for. -/
structure Invocation where
  command : Command
  files : List String
deriving Repr, DecidableEq

inductive UsageError where
  | noCommand
  | unknownCommand (name : String)
  | unknownOption (name : String)
  | missingValue (option : String)
  | invalidValue (option value : String)
  | noFiles
deriving Repr, DecidableEq

def UsageError.message : UsageError → String
  | .noCommand => "error: a command is required, parse or check\n"
  | .unknownCommand name => "error: unrecognized subcommand '" ++ name ++ "'\n"
  | .unknownOption name => "error: unexpected argument '" ++ name ++ "' found\n"
  | .missingValue option => "error: a value is required for '" ++ option ++ "'\n"
  | .invalidValue option value => "error: invalid value '" ++ value ++ "' for '" ++ option ++ "'\n"
  | .noFiles => "error: at least one file is required\n"

/-- The exit code of a command line that asks for nothing that can be done. -/
def usageErrorCode : Nat := 2

def formatOfName? : String → Option Format
  | "text" => some .text
  | "json" => some .json
  | "clean" => some .clean
  | _ => none

/-- The command as `--format` and its value change it. -/
def Command.withFormat (option value : String) : Command → Except UsageError Command
  | .check => .error (.unknownOption option)
  | .parse _ expression => match formatOfName? value with
    | some format => .ok (.parse format expression)
    | none => .error (.invalidValue option value)

/-- The command as `--expression` changes it. -/
def Command.withExpression (option : String) : Command → Except UsageError Command
  | .check => .error (.unknownOption option)
  | .parse format _ => .ok (.parse format true)

/-- Reads the arguments behind the command. All that follows `--` is a file name. -/
def Invocation.extend (i : Invocation) : List String → Except UsageError Invocation
  | [] => .ok i
  | "--" :: files => .ok { i with files := i.files ++ files }
  | "-v" :: rest | "--verbose" :: rest => i.extend rest
  | ["--log-level"] => .error (.missingValue "--log-level")
  | "--log-level" :: _ :: rest => i.extend rest
  | ["-f"] => .error (.missingValue "-f")
  | ["--format"] => .error (.missingValue "--format")
  | "-f" :: value :: rest => do
    ({ i with command := ← i.command.withFormat "-f" value } : Invocation).extend rest
  | "--format" :: value :: rest => do
    ({ i with command := ← i.command.withFormat "--format" value } : Invocation).extend rest
  | "-e" :: rest => do
    ({ i with command := ← i.command.withExpression "-e" } : Invocation).extend rest
  | "--expression" :: rest => do
    ({ i with command := ← i.command.withExpression "--expression" } : Invocation).extend rest
  | argument :: rest =>
    if argument.startsWith "-" && argument ≠ "-" then .error (.unknownOption argument)
    else ({ i with files := i.files ++ [argument] } : Invocation).extend rest

/-- The first argument that is no option names the command. -/
def Invocation.ofArguments : List String → Except UsageError Invocation
  | [] => .error .noCommand
  | "-v" :: rest | "--verbose" :: rest => ofArguments rest
  | "--log-level" :: _ :: rest => ofArguments rest
  | "parse" :: rest => (⟨.parse .text false, []⟩ : Invocation).extend rest >>= checked
  | "check" :: rest => (⟨.check, []⟩ : Invocation).extend rest >>= checked
  | name :: _ => .error (.unknownCommand name)
where
  checked (i : Invocation) : Except UsageError Invocation :=
    if i.files.isEmpty then .error .noFiles else .ok i

end TransactSql.CommandLine
