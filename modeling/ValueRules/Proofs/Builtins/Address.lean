import Mathlib
import ValueRules.Builtins.Validators
import ValueRules.Proofs.Pattern.Forms

/-!
Which texts are addresses. The pattern of `Builtins.email` is found in a text exactly if the text is
a name, an at sign and two or more labels with points between them, with nothing before or after
(`email_pass_iff_isAddress`). The pattern is put together by hand; `isFoundIn_addressText` says that
the pattern which `addressText` writes is found in the same texts.
-/

namespace ValueRules

open Pattern.Expr Pattern.Reading

namespace Pattern

variable {pre mid post : List Char}

theorem isAlphanum_iff (c : Char) :
    c.isAlphanum = true ↔ 48 ≤ c.toNat ∧ c.toNat ≤ 57 ∨ 65 ≤ c.toNat ∧ c.toNat ≤ 90 ∨
      97 ≤ c.toNat ∧ c.toNat ≤ 122 := by
  simp only [Char.isAlphanum, Char.isAlpha, Char.isUpper, Char.isLower, Char.isDigit,
    Bool.or_eq_true, Bool.and_eq_true, decide_eq_true_eq, ge_iff_le, UInt32.le_iff_toNat_le]
  change ((65 ≤ c.toNat ∧ c.toNat ≤ 90) ∨ (97 ≤ c.toNat ∧ c.toNat ≤ 122)) ∨
    (48 ≤ c.toNat ∧ c.toNat ≤ 57) ↔ _
  omega

theorem contains_alphanumeric_iff {c : Char} :
    alphanumeric.contains c = true ↔ c.isAlphanum = true := by
  rw [isAlphanum_iff, alphanumeric, CharSet.contains, CharSet.containsCode]
  simp only [CharSet.holds_cons_iff, CharSet.holds_nil, Bool.false_eq_true, or_false]
  omega

theorem contains_alphanumericOrHyphen_iff {c : Char} :
    alphanumericOrHyphen.contains c = true ↔ c.isAlphanum = true ∨ c = '-' := by
  have hhyphen : c = '-' ↔ c.toNat = 45 := Char.toNat_inj.symm
  rw [isAlphanum_iff, hhyphen, alphanumericOrHyphen, CharSet.contains, CharSet.containsCode]
  simp only [CharSet.holds_cons_iff, CharSet.holds_nil, Bool.false_eq_true, or_false]
  omega

/-- What may stand before the at sign besides letters and digits. -/
def localSigns : String := ".!#$%&'*+/=?^_`\x7b|\x7d~-"

theorem contains_localChars_iff {c : Char} :
    localChars.contains c = true ↔ c.isAlphanum = true ∨ c ∈ localSigns.toList := by
  have hcodes : localSigns.toList.map Char.toNat =
      [46, 33, 35, 36, 37, 38, 39, 42, 43, 47, 61, 63, 94, 95, 96, 123, 124, 125, 126, 45] := by
    decide
  have hsigns : c ∈ localSigns.toList ↔ c.toNat ∈ localSigns.toList.map Char.toNat :=
    (List.mem_map_of_injective fun _ _ h => Char.toNat_inj.mp h).symm
  rw [isAlphanum_iff, hsigns, hcodes, localChars, CharSet.contains, CharSet.containsCode]
  simp only [CharSet.holds_cons_iff, CharSet.holds_nil, List.mem_cons, List.not_mem_nil,
    Bool.false_eq_true, or_false]
  omega

/-- Letters and digits of ASCII and hyphens, at most 63, with no hyphen at either end. -/
structure IsLabel (label : List Char) : Prop where
  ne_nil : label ≠ []
  length_le : label.length ≤ 63
  isChar : ∀ c ∈ label, c.isAlphanum = true ∨ c = '-'
  head?_ne : label.head? ≠ some '-'
  getLast?_ne : label.getLast? ≠ some '-'

/-- A name, an at sign and two or more labels with points between them. -/
structure IsAddress (text : List Char) (name : List Char) (labels : List (List Char)) : Prop where
  eq_append : text = name ++ '@' :: ['.'].intercalate labels
  name_ne_nil : name ≠ []
  isNameChar : ∀ c ∈ name, c.isAlphanum = true ∨ c ∈ localSigns.toList
  two_le_length : 2 ≤ labels.length
  isLabel : ∀ label ∈ labels, IsLabel label

/-- A label has one character, or two at its ends and up to 61 between them. -/
theorem isLabel_iff {label : List Char} :
    IsLabel label ↔
      (∃ c, c.isAlphanum = true ∧ label = [c]) ∨
        ∃ first inner last, first.isAlphanum = true ∧ last.isAlphanum = true ∧
          inner.length ≤ 61 ∧ (∀ c ∈ inner, c.isAlphanum = true ∨ c = '-') ∧
            label = first :: (inner ++ [last]) := by
  constructor
  · intro hlabel
    obtain ⟨first, rest, rfl⟩ := List.exists_cons_of_ne_nil hlabel.ne_nil
    have hfirst : first.isAlphanum = true := by
      apply (hlabel.isChar first List.mem_cons_self).resolve_right
      rintro rfl
      exact hlabel.head?_ne rfl
    -- The ends are characters of a label that are not hyphens.
    rcases List.eq_nil_or_concat' rest with rfl | ⟨inner, last, rfl⟩
    · exact Or.inl ⟨first, hfirst, rfl⟩
    · right
      have hlast : last.isAlphanum = true := by
        apply (hlabel.isChar last (by simp)).resolve_right
        rintro rfl
        apply hlabel.getLast?_ne
        rw [← List.cons_append, List.getLast?_concat]
      have hlength := hlabel.length_le
      rw [List.length_cons, List.length_append, List.length_singleton] at hlength
      refine ⟨first, inner, last, hfirst, hlast, by omega, ?_, rfl⟩
      intro c hc
      exact hlabel.isChar c (by simp [hc])
  · have hhyphen {c : Char} (hc : c.isAlphanum = true) : some c ≠ some '-' := by
      rintro heq
      obtain rfl := Option.some_inj.mp heq
      cases hc
    rintro (⟨c, hc, rfl⟩ | ⟨first, inner, last, hfirst, hlast, hlength, hinner, rfl⟩)
    · exact ⟨by simp, by simp, by simp [hc], hhyphen hc, hhyphen hc⟩
    · refine ⟨by simp, ?_, ?_, hhyphen hfirst, ?_⟩
      · rw [List.length_cons, List.length_append, List.length_singleton]
        omega
      · intro c hc
        simp only [List.mem_cons, List.mem_append, List.not_mem_nil, or_false] at hc
        rcases hc with rfl | hc | rfl
        · exact Or.inl hfirst
        · exact hinner c hc
        · exact Or.inl hlast
      · rw [← List.cons_append, List.getLast?_concat]
        exact hhyphen hlast

theorem matches_domainLabel_iff : domainLabel.Matches pre mid post ↔ IsLabel mid := by
  rw [isLabel_iff]
  constructor
  · rintro ⟨u, v, rfl, ⟨first, hfirst, rfl⟩, htail⟩
    have hfirst := contains_alphanumeric_iff.mp hfirst
    rcases matches_optional_iff.mp htail with rfl | ⟨inner, w, rfl, hinner, last, hlast, rfl⟩
    · exact Or.inl ⟨first, hfirst, rfl⟩
    · obtain ⟨-, hlength, hall⟩ := matches_rep_chars_iff.mp hinner
      have hlast := contains_alphanumeric_iff.mp hlast
      simp only [contains_alphanumericOrHyphen_iff] at hall
      exact Or.inr ⟨first, inner, last, hfirst, hlast, hlength 61 rfl, hall, rfl⟩
  · rintro (⟨first, hfirst, rfl⟩ | ⟨first, inner, last, hfirst, hlast, hlength, hall, rfl⟩)
    · have hfirst := contains_alphanumeric_iff.mpr hfirst
      exact ⟨[first], [], rfl, ⟨first, hfirst, rfl⟩, matches_optional_iff.mpr (Or.inl rfl)⟩
    · have hfirst := contains_alphanumeric_iff.mpr hfirst
      have hlast := contains_alphanumeric_iff.mpr hlast
      simp only [← contains_alphanumericOrHyphen_iff] at hall
      have hinner : (rep 0 (some 61) (chars alphanumericOrHyphen)).Matches
          (pre ++ [first]) inner ([last] ++ post) := by
        apply matches_rep_chars_iff.mpr
        refine ⟨Nat.zero_le _, ?_, hall⟩
        rintro greatest ⟨⟩
        exact hlength
      refine ⟨[first], inner ++ [last], rfl, ⟨first, hfirst, rfl⟩, matches_optional_iff.mpr ?_⟩
      exact Or.inr ⟨inner, [last], rfl, hinner, last, hlast, rfl⟩

/-- Further labels, each after a point. -/
theorem matches_furtherLabels_iff :
    (oneOrMore (seq (chars (.singleton '.')) domainLabel)).Matches pre mid post ↔
      ∃ labels : List (List Char), labels ≠ [] ∧ (∀ label ∈ labels, IsLabel label) ∧
        mid = labels.flatMap ('.' :: ·) := by
  have hone : ∀ pre mid post, (seq (chars (.singleton '.')) domainLabel).Matches pre mid post ↔
      ∃ label, IsLabel label ∧ mid = '.' :: label := by
    intro pre mid post
    rw [matches_sign_seq_iff]
    simp only [matches_domainLabel_iff, and_comm]
  constructor
  · rintro ⟨k, hk, -, hrounds⟩
    obtain ⟨labels, rfl, hlabels, rfl⟩ := (rounds_iff_flatMap hone k).mp hrounds
    exact ⟨labels, List.length_pos_iff.mp hk, hlabels, rfl⟩
  · rintro ⟨labels, hne, hlabels, rfl⟩
    refine ⟨labels.length, List.length_pos_iff.mpr hne, by simp, ?_⟩
    exact (rounds_iff_flatMap hone _).mpr ⟨labels, rfl, hlabels, rfl⟩

theorem intercalate_cons (first : List Char) (labels : List (List Char)) :
    ['.'].intercalate (first :: labels) = first ++ labels.flatMap ('.' :: ·) := by
  induction labels generalizing first with
  | nil => simp
  | cons label labels ih =>
    rw [List.intercalate_cons_cons, ih]
    simp

theorem matches_name_iff :
    (oneOrMore (chars localChars)).Matches pre mid post ↔
      mid ≠ [] ∧ ∀ c ∈ mid, c.isAlphanum = true ∨ c ∈ localSigns.toList := by
  have hpos : mid ≠ [] ↔ 1 ≤ mid.length := List.length_pos_iff.symm
  rw [oneOrMore, matches_rep_chars_iff, hpos]
  simp [contains_localChars_iff]

theorem matches_email_iff :
    Pattern.email.expr.Matches pre mid post ↔
      pre = [] ∧ post = [] ∧ ∃ name labels, IsAddress mid name labels := by
  constructor
  · intro hmatches
    obtain ⟨hstart, name, rest, rfl, hname, hrest⟩ := matches_look_seq_iff.mp hmatches
    obtain ⟨domain, rfl, first, _, rfl, hfirst, further, tail, rfl, hfurther, htail⟩ :=
      matches_sign_seq_iff.mp hrest
    obtain ⟨hend, rfl⟩ := matches_look_seq_iff.mp htail
    obtain ⟨hne, hchars⟩ := matches_name_iff.mp hname
    obtain ⟨labels, hlabels, hall, rfl⟩ := matches_furtherLabels_iff.mp hfurther
    refine ⟨textStart_holds_iff.mp hstart, textEnd_holds_iff.mp hend, name, first :: labels, ?_⟩
    constructor
    · rw [intercalate_cons, List.append_nil]
    · exact hne
    · exact hchars
    · exact Nat.succ_le_succ (List.length_pos_iff.mpr hlabels)
    · exact List.forall_mem_cons.mpr ⟨matches_domainLabel_iff.mp hfirst, hall⟩
  · rintro ⟨rfl, rfl, name, labels, haddress⟩
    cases labels with
    | nil => cases haddress.two_le_length
    | cons first labels =>
      obtain ⟨hfirst, hall⟩ := List.forall_mem_cons.mp haddress.isLabel
      have hlabels : labels ≠ [] :=
        List.length_pos_iff.mp (Nat.le_of_succ_le_succ haddress.two_le_length)
      rw [haddress.eq_append, intercalate_cons]
      -- The parts in the order of the pattern; what is left after the labels is empty.
      apply matches_look_seq_iff.mpr
      refine ⟨textStart_holds_iff.mpr rfl, name, _, rfl, ?_, matches_sign_seq_iff.mpr ?_⟩
      · exact matches_name_iff.mpr ⟨haddress.name_ne_nil, haddress.isNameChar⟩
      · refine ⟨_, rfl, first, _, rfl, matches_domainLabel_iff.mpr hfirst, ?_⟩
        refine ⟨_, [], (List.append_nil _).symm, ?_, matches_look_seq_iff.mpr ?_⟩
        · exact matches_furtherLabels_iff.mpr ⟨labels, hlabels, hall, rfl⟩
        · exact ⟨textEnd_holds_iff.mpr rfl, rfl⟩

theorem ordered_email : Pattern.email.expr.Ordered := by
  simp [Pattern.email, domainLabel, seqs, cat, oneOrMore, Expr.optional, Ordered]

theorem isFoundIn_email_iff (text : String) :
    Pattern.email.isFoundIn text = true ↔ ∃ name labels, IsAddress text.toList name labels := by
  rw [Pattern.isFoundIn, isFoundIn_iff ordered_email]
  simp only [matches_email_iff]
  constructor
  · rintro ⟨pre, mid, post, htext, rfl, rfl, haddress⟩
    rw [List.nil_append, List.append_nil] at htext
    rwa [htext]
  · intro haddress
    refine ⟨[], text.toList, [], ?_, rfl, rfl, haddress⟩
    rw [List.nil_append, List.append_nil]

/-- The text that writes the pattern of an address. -/
def addressText : String :=
  "^[a-zA-Z0-9.!#$%&'*+/=?^_`\x7b|\x7d~-]+@" ++
    "[a-zA-Z0-9](?:[a-zA-Z0-9-]\x7b0,61\x7d[a-zA-Z0-9])?" ++
      "(?:\\.[a-zA-Z0-9](?:[a-zA-Z0-9-]\x7b0,61\x7d[a-zA-Z0-9])?)+$"

/-- What stands after the first character of a label. -/
def labelTail : Expr :=
  .optional (.seq (.rep 0 (some 61) (.chars alphanumericOrHyphen)) (.chars alphanumeric))

/-- The pattern as its text groups it. -/
def addressExpr : Expr :=
  .seq (.look .textStart) <| .seq (.oneOrMore (.chars localChars)) <|
    .seq (.seq (.chars (.singleton '@')) .empty) <| .seq (.chars alphanumeric) <|
      .seq labelTail <|
        .seq (.oneOrMore (.seq (.seq (.chars (.singleton '.')) .empty)
          (.seq (.chars alphanumeric) labelTail))) <| .look .textEnd

theorem compile_addressText : compile addressText = .ok ⟨addressExpr⟩ := by
  cbv

theorem addressExpr_alike : Alike addressExpr Pattern.email.expr := by
  have hsign (c : Char) : Alike (.seq (.chars (.singleton c)) .empty) (.chars (.singleton c)) :=
    alike_seq_empty _
  have hend : Alike (.look .textEnd) (.seq (.look .textEnd) .empty) := (alike_seq_empty _).symm
  have hfurther := ((hsign '.').seq (alike_refl domainLabel)).rep 1 none
  -- In the text the first label is not grouped, so its two parts come one by one.
  have hlabel := (alike_assoc (.chars alphanumeric) labelTail _).symm.trans
    ((alike_refl domainLabel).seq (hfurther.seq hend))
  exact (alike_refl _).seq ((alike_refl _).seq ((hsign '@').seq hlabel))

theorem isFoundIn_addressText :
    ∃ pattern, compile addressText = .ok pattern ∧
      ∀ text, pattern.isFoundIn text = Pattern.email.isFoundIn text := by
  have hordered : addressExpr.Ordered := by
    simp [addressExpr, labelTail, oneOrMore, Expr.optional, Ordered]
  exact ⟨_, compile_addressText, addressExpr_alike.isFoundIn_eq hordered ordered_email⟩

end Pattern

namespace Builtins

open Pattern

theorem email_eq_check (value : Value) (args : List String) :
    ∃ ok, email value args = .ok (.check ok "must be a valid email address") ∧
      (ok = true ↔ ∃ text, value = .str text ∧ Pattern.email.isFoundIn text = true) := by
  refine ⟨_, rfl, ?_⟩
  cases value <;> simp

/-- Only texts that are addresses pass, and all other values fail. -/
theorem email_pass_iff_isAddress (value : Value) (args : List String) :
    (email value args = .ok .pass ↔
      ∃ text name labels, value = .str text ∧ IsAddress text.toList name labels) ∧
    (email value args ≠ .ok .pass →
      email value args = .ok (.fail ["must be a valid email address"])) := by
  obtain ⟨ok, hemail, hok⟩ := email_eq_check value args
  rw [hemail, ne_eq, Except.ok.injEq]
  constructor
  · rw [Verdict.check_eq_pass_iff, hok]
    simp only [isFoundIn_email_iff, exists_and_left]
  · intro hfail
    rw [Verdict.check_of_ne_pass hfail]

end Builtins

end ValueRules
