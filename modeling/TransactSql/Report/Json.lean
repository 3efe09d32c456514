/-!
# Indented JSON

The values that reports are made of and their text: two blanks of indentation a level, every item
on a line of its own.
-/

namespace TransactSql.Report

inductive Json where
  | number (n : Nat)
  | string (s : String)
  | array (items : List Json)
  | object (fields : List (String × Json))

namespace Json

/-- Controls are escaped, and the quote and the backslash. -/
def escapeChar (c : Char) : String :=
  match c with
  | '"' => "\\\""
  | '\\' => "\\\\"
  | '\n' => "\\n"
  | '\r' => "\\r"
  | '\t' => "\\t"
  | '\x08' => "\\b"
  | '\x0c' => "\\f"
  | c =>
    if c.toNat < 0x20 then
      "\\u00" ++ String.ofList [Nat.digitChar (c.toNat / 16), Nat.digitChar (c.toNat % 16)]
    else c.toString

def quoted (s : String) : String := "\"" ++ String.join (s.toList.map escapeChar) ++ "\""

def newline (depth : Nat) : String := "\n" ++ String.join (List.replicate depth "  ")

/-- Items between brackets, each on a line of its own. -/
def bracketed (opening closing : String) (depth : Nat) (items : List String) : String :=
  if items.isEmpty then opening ++ closing
  else
    opening ++ ",".intercalate (items.map (newline (depth + 1) ++ ·)) ++ newline depth ++ closing

mutual

/-- The text of a value that stands `depth` levels deep. -/
def text (depth : Nat) : Json → String
  | .number n => toString n
  | .string s => quoted s
  | .array items => bracketed "[" "]" depth (texts (depth + 1) items)
  | .object fields => bracketed "\x7b" "\x7d" depth (fieldTexts (depth + 1) fields)

def texts (depth : Nat) : List Json → List String
  | [] => []
  | j :: js => j.text depth :: texts depth js

def fieldTexts (depth : Nat) : List (String × Json) → List String
  | [] => []
  | (key, j) :: fields => (quoted key ++ ": " ++ j.text depth) :: fieldTexts depth fields

end

end Json

end TransactSql.Report
