/-!
Quoted texts as JSON writes them: a quote, a backslash and every control character is escaped, all
else stands for itself.
-/

namespace ValueRules.Text

/-- The lower-case hexadecimal digit of a number below sixteen. -/
def hexDigit (n : Nat) : Char :=
  Nat.digitChar (n % 16)

namespace Quoted

/-- How one character is written between the quotes. -/
def encodeChar (c : Char) : List Char :=
  if c = '"' then ['\\', '"']
  else if c = '\\' then ['\\', '\\']
  else if c = '\x08' then ['\\', 'b']
  else if c = '\x0c' then ['\\', 'f']
  else if c = '\n' then ['\\', 'n']
  else if c = '\r' then ['\\', 'r']
  else if c = '\t' then ['\\', 't']
  else if c.toNat < 0x20 then ['\\', 'u', '0', '0', hexDigit (c.toNat / 16), hexDigit c.toNat]
  else [c]

def encode (text : List Char) : List Char :=
  '"' :: text.flatMap encodeChar ++ ['"']

end Quoted

/-- The text as a JSON string. -/
def quote (text : String) : String :=
  String.ofList (Quoted.encode text.toList)

/-- A JSON list of texts that are JSON already. -/
def bracketed (items : List String) : String :=
  "[" ++ ",".intercalate items ++ "]"

/-- A JSON object from names and values that are JSON already. -/
def braced (members : List (String × String)) : String :=
  "\x7b" ++ ",".intercalate (members.map fun (name, value) => quote name ++ ":" ++ value) ++ "\x7d"

end ValueRules.Text
