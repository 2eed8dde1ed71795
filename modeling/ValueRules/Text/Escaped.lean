import ValueRules.Unicode.Current

/-!
Quoted texts for display: whatever has no form of its own on the page is written by its code point.
-/

namespace ValueRules.Text

namespace Escaped

/-- Marks that extend the character before them would hide in what precedes them. -/
def isHidden (c : Char) : Bool :=
  Unicode.Current.graphemeExtend.contains c || Unicode.Current.invisible.contains c

def encodeChar (c : Char) : List Char :=
  match c with
  | '\x00' => ['\\', '0']
  | '\t' => ['\\', 't']
  | '\r' => ['\\', 'r']
  | '\n' => ['\\', 'n']
  | '\\' => ['\\', '\\']
  | '"' => ['\\', '"']
  | c =>
    if isHidden c then
      ['\\', 'u', '\x7b'] ++ Nat.toDigits 16 c.toNat ++ ['\x7d']
    else [c]

end Escaped

/-- The text in quotes, for a reader. -/
def escaped (text : String) : String :=
  String.ofList ('"' :: text.toList.flatMap Escaped.encodeChar ++ ['"'])

end ValueRules.Text
