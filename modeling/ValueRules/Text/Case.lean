import ValueRules.Unicode.Current

/-!
Texts in lower and in upper case. One letter depends on its surroundings: a capital sigma at the end
of a word becomes the final sigma.
-/

namespace ValueRules.Text

/-- After characters that case ignores comes one that has a case. -/
def meetsCased (text : List Char) : Bool :=
  match text.dropWhile Unicode.Current.caseIgnorable.contains with
  | c :: _ => Unicode.Current.cased.contains c
  | [] => false

/-- A sigma between these characters, the nearer first, ends a word. -/
def endsWord (before after : List Char) : Bool :=
  meetsCased before && !meetsCased after

/-- The text in lower case; what stands before it is given from its end. -/
def lower (before : List Char) : List Char → List Char
  | [] => []
  | c :: after =>
    let image :=
      if c = 'Σ' then [if endsWord before after then 'ς' else 'σ']
      else Unicode.Current.toLower.apply c
    image ++ lower (c :: before) after

def lowercase (text : String) : String :=
  String.ofList (lower [] text.toList)

def uppercase (text : String) : String :=
  String.ofList (text.toList.flatMap Unicode.Current.toUpper.apply)

end ValueRules.Text
