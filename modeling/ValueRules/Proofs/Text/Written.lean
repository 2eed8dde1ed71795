import Mathlib.Data.String.Basic
import ValueRules.Text.Quoted

/-!
Written texts that show where they end. `SelfDelimiting` says that whatever comes behind such a text
cannot be taken for a part of it; quoted texts have this property, and so has a JSON list of texts
that have it.
-/

namespace ValueRules.Text

variable {α : Type}

/-- Texts that agree with whatever comes behind them were written for the same thing, and the same
comes behind them. -/
def SelfDelimiting (write : α → List Char) : Prop :=
  ∀ a b after later, write a ++ after = write b ++ later → a = b ∧ after = later

theorem SelfDelimiting.injective {write : α → List Char} (h : SelfDelimiting write) :
    Function.Injective write := by
  intro a b hab
  exact (h a b [] [] (by rw [hab])).1

theorem selfDelimiting_of_read {write : α → List Char} {read : List Char → Option (α × List Char)}
    (h : ∀ a after, read (write a ++ after) = some (a, after)) : SelfDelimiting write := by
  intro a b after later heq
  have hread := h a after
  rw [heq, h b later] at hread
  obtain ⟨rfl, rfl⟩ := Prod.mk.inj (Option.some.inj hread)
  exact ⟨rfl, rfl⟩

/-- A text that does not begin with a character is not met where that character stands. -/
theorem cons_ne_append {text : List Char} {stop : Char}
    (h : ∃ first rest, text = first :: rest ∧ first ≠ stop) (tail after : List Char) :
    stop :: after ≠ text ++ tail := by
  obtain ⟨first, rest, rfl, hne⟩ := h
  exact fun heq => hne (List.cons.inj heq).1.symm

/-- A row of them ends at a character that none of them begins with. -/
theorem SelfDelimiting.row {write : α → List Char} (h : SelfDelimiting write) {stop : Char}
    (hstop : ∀ a, ∃ first rest, write a = first :: rest ∧ first ≠ stop) :
    SelfDelimiting fun items : List α => items.flatMap write ++ [stop] := by
  intro items others
  induction items generalizing others with
  | nil =>
    intro after later heq
    cases others with
    | nil => exact ⟨rfl, by simpa using heq⟩
    | cons other others =>
      simp only [List.flatMap_cons, List.append_assoc] at heq
      exact absurd heq (cons_ne_append (hstop other) _ _)
  | cons item items ih =>
    intro after later heq
    simp only [List.flatMap_cons, List.append_assoc] at heq
    cases others with
    | nil => exact absurd heq.symm (cons_ne_append (hstop item) _ _)
    | cons other others =>
      simp only [List.flatMap_cons, List.append_assoc] at heq
      obtain ⟨rfl, hrest⟩ := h item other _ _ heq
      obtain ⟨rfl, rfl⟩ := ih others _ _ (by simpa only [List.append_assoc] using hrest)
      exact ⟨rfl, rfl⟩

namespace Quoted

/-- The number below sixteen that a lower-case hexadecimal digit stands for. -/
def hexValue (c : Char) : Nat :=
  if c.isDigit then c.toNat - 48 else c.toNat - 87

/-- What a letter behind a backslash stands for. -/
def unescape (c : Char) : Char :=
  if c = 'b' then '\x08'
  else if c = 'f' then '\x0c'
  else if c = 'n' then '\n'
  else if c = 'r' then '\r'
  else if c = 't' then '\t'
  else c

/-- The character that is written first, and what is written behind it. -/
def readChar : List Char → Option (Char × List Char)
  | '\\' :: 'u' :: _ :: _ :: high :: low :: rest =>
    some (Char.ofNat (16 * hexValue high + hexValue low), rest)
  | '\\' :: c :: rest => some (unescape c, rest)
  | c :: rest => some (c, rest)
  | [] => none

theorem hexValue_hexDigit (n : Nat) : hexValue (hexDigit n) = n % 16 := by
  have hdigits : ∀ k < 16, hexValue (Nat.digitChar k) = k := by decide
  exact hdigits (n % 16) (Nat.mod_lt n (by decide))

theorem readChar_encodeChar (c : Char) (after : List Char) :
    readChar (encodeChar c ++ after) = some (c, after) := by
  unfold encodeChar
  split_ifs with hquote hslash hb hf hn hr ht hcontrol
  · subst hquote; rfl
  · subst hslash; rfl
  · subst hb; rfl
  · subst hf; rfl
  · subst hn; rfl
  · subst hr; rfl
  · subst ht; rfl
  · have hvalue : 16 * (c.toNat / 16 % 16) + c.toNat % 16 = c.toNat := by omega
    simp [readChar, hexValue_hexDigit, hvalue]
  · simp [readChar, hslash]

theorem selfDelimiting_encodeChar : SelfDelimiting encodeChar :=
  selfDelimiting_of_read readChar_encodeChar

/-- A quote is not written without a backslash, so the quote that comes without one is the end. -/
theorem encodeChar_eq_cons (c : Char) :
    ∃ first rest, encodeChar c = first :: rest ∧ first ≠ '"' := by
  unfold encodeChar
  split_ifs with hquote
  case neg => exact ⟨c, [], rfl, hquote⟩
  all_goals exact ⟨'\\', _, rfl, by decide⟩

end Quoted

theorem toList_quote (text : String) :
    (quote text).toList = '"' :: (text.toList.flatMap Quoted.encodeChar ++ ['"']) := by
  simp [quote, Quoted.encode]

theorem selfDelimiting_quote : SelfDelimiting fun text => (quote text).toList := by
  intro text other after later heq
  simp only [toList_quote, List.cons_append] at heq
  obtain ⟨htext, hafter⟩ := Quoted.selfDelimiting_encodeChar.row Quoted.encodeChar_eq_cons _ _ _ _
    (List.cons.inj heq).2
  exact ⟨String.toList_inj.mp htext, hafter⟩

/-- The items behind the first one each begin with a comma. -/
theorem intercalate_comma (item : List Char) (items : List (List Char)) :
    [','].intercalate (item :: items) = item ++ items.flatMap (',' :: ·) := by
  induction items generalizing item with
  | nil => simp
  | cons next items ih => rw [List.intercalate_cons_cons, ih, List.flatMap_cons]; simp

theorem toList_bracketed_nil : (bracketed []).toList = ['[', ']'] := by
  simp [bracketed]

theorem toList_bracketed_cons (write : α → String) (item : α) (items : List α) :
    (bracketed ((item :: items).map write)).toList = '[' :: ((write item).toList ++
      (items.flatMap (fun item => ',' :: (write item).toList) ++ [']'])) := by
  simp [bracketed, intercalate_comma, List.flatMap_map]

/-- What an object's text is made of: its first member, and the others behind a comma each. -/
theorem toList_braced_cons (name value : String) (members : List (String × String)) :
    (braced ((name, value) :: members)).toList = '\x7b' :: ((quote name).toList ++
      ':' :: (value.toList ++ (members.flatMap (fun member =>
        ',' :: ((quote member.1).toList ++ ':' :: member.2.toList)) ++ ['\x7d']))) := by
  simp [braced, intercalate_comma, List.flatMap_map]

theorem SelfDelimiting.bracketed {write : α → String}
    (h : SelfDelimiting fun a => (write a).toList)
    (hfirst : ∀ a, ∃ first rest, (write a).toList = first :: rest ∧ first ≠ ']') :
    SelfDelimiting fun items : List α => (Text.bracketed (items.map write)).toList := by
  have hnext : SelfDelimiting fun a => ',' :: (write a).toList := by
    intro a b after later heq
    exact h a b after later (List.cons.inj heq).2
  have hrow : SelfDelimiting fun items : List α =>
      items.flatMap (fun item => ',' :: (write item).toList) ++ [']'] :=
    hnext.row fun a => ⟨',', _, rfl, by decide⟩
  -- An empty list ends where any other has its first item.
  intro items others after later heq
  cases items with
  | nil =>
    cases others with
    | nil => exact ⟨rfl, List.append_cancel_left heq⟩
    | cons other others =>
      simp only [List.map_nil, toList_bracketed_nil, toList_bracketed_cons, List.cons_append,
        List.append_assoc] at heq
      exact absurd (List.cons.inj heq).2 (cons_ne_append (hfirst other) _ _)
  | cons item items =>
    cases others with
    | nil =>
      simp only [List.map_nil, toList_bracketed_nil, toList_bracketed_cons, List.cons_append,
        List.append_assoc] at heq
      exact absurd (List.cons.inj heq).2.symm (cons_ne_append (hfirst item) _ _)
    | cons other others =>
      simp only [toList_bracketed_cons, List.cons_append, List.append_assoc] at heq
      obtain ⟨rfl, hrest⟩ := h item other _ _ (List.cons.inj heq).2
      obtain ⟨rfl, hafter⟩ := hrow items others after later (by simpa using hrest)
      exact ⟨rfl, hafter⟩

end ValueRules.Text
