import Mathlib.Data.Set.List
import ValueRules.Proofs.Chain.Reading
import ValueRules.Proofs.Decoding.Chains

/-!
Delimiters as JSON. A value may give some of the three tokens and leave the others to the usual
ones. Whatever it gives is looked at as tokens named one by one would be, so no value makes
delimiters of tokens that are empty or stand inside one another (`decode_sound`).
-/

namespace ValueRules

/-- The place of a role in a list of tokens. -/
def TokenRole.place : TokenRole → Nat
  | chain => 0
  | args => 1
  | glue => 2

theorem Value.str_injective : Function.Injective Value.str := fun _ _ h => Value.str.inj h

/-- The tokens that are chosen; the usual one stands for a role without a choice. -/
abbrev TokenChoice := TokenRole → Option String

namespace TokenChoice

def tokens (choice : TokenChoice) : Tokens where
  chain := (choice .chain).getD "->"
  args := (choice .args).getD "::"
  glue := (choice .glue).getD ",,"

/-- The forms in which a value gives tokens: an object with the names of roles, of which other
members do not count, or a list of up to three tokens in order. -/
inductive GivenBy (choice : TokenChoice) : Value → Prop
  | object {members : List (String × Value)}
    (entries : ∀ role, Value.lookup? role.name members = (choice role).map .str) :
    GivenBy choice (.obj members)
  | list {texts : List String} (length : texts.length ≤ 3)
    (entries : ∀ role, texts[role.place]? = choice role) : GivenBy choice (.arr (texts.map .str))

theorem exists_place_eq {i : Nat} (h : i < 3) : ∃ role : TokenRole, role.place = i := by
  match i, h with
  | 0, _ => exact ⟨.chain, rfl⟩
  | 1, _ => exact ⟨.args, rfl⟩
  | 2, _ => exact ⟨.glue, rfl⟩

/-- A short list that is asked for each token gives them if each answer is a text or nothing. -/
theorem givenBy_of_entries {choice : TokenChoice} {items : List Value} (hlength : items.length ≤ 3)
    (h : ∀ role : TokenRole, items[role.place]? = (choice role).map .str) :
    choice.GivenBy (.arr items) := by
  have htexts : items ∈ Set.range (List.map Value.str) := by
    rw [Set.range_list_map]
    intro item hitem
    obtain ⟨i, hi⟩ := List.mem_iff_getElem?.mp hitem
    obtain ⟨hlt, -⟩ := List.getElem?_eq_some_iff.mp hi
    obtain ⟨role, rfl⟩ := exists_place_eq (hlt.trans_le hlength)
    obtain ⟨text, -, htext⟩ := Option.map_eq_some_iff.mp ((h role).symm.trans hi)
    exact ⟨text, htext⟩
  obtain ⟨texts, rfl⟩ := htexts
  refine .list (by simpa using hlength) fun role => ?_
  have hrole := h role
  rw [List.getElem?_map] at hrole
  exact Option.map_injective Value.str_injective hrole

end TokenChoice

theorem Value.asTextOr_eq_ok_iff {absent text : String} {value : Option Value} :
    asTextOr absent value = .ok text ↔
      ∃ given : Option String, value = given.map .str ∧ given.getD absent = text := by
  constructor
  · intro h
    cases value with
    | none => exact ⟨none, rfl, Except.ok.inj h⟩
    | some value => exact ⟨some text, congrArg some (asText_eq_ok_iff.mp h), rfl⟩
  · rintro ⟨given, rfl, rfl⟩
    cases given <;> rfl

namespace Tokens

theorem exists_givenBy_of_decode {value : Value} {tokens : Tokens} (h : decode value = .ok tokens) :
    ∃ choice : TokenChoice, choice.GivenBy value ∧ choice.tokens = tokens := by
  cases value with
  | obj members =>
    simp only [decode, bind_eq_ok_iff, pure_eq_ok_iff, Value.asTextOr_eq_ok_iff] at h
    obtain ⟨-, ⟨args, hargs, rfl⟩, -, ⟨chain, hchain, rfl⟩, -, ⟨glue, hglue, rfl⟩, rfl⟩ := h
    let choice : TokenChoice
      | .chain => chain
      | .args => args
      | .glue => glue
    refine ⟨choice, .object fun role => ?_, rfl⟩
    cases role <;> assumption
  | arr items =>
    simp only [decode, bind_eq_ok_iff, Value.asTextOr_eq_ok_iff] at h
    obtain ⟨-, ⟨chain, hchain, rfl⟩, -, ⟨args, hargs, rfl⟩, -, ⟨glue, hglue, rfl⟩, h⟩ := h
    split at h
    · rename_i hlength
      cases h
      let choice : TokenChoice
        | .chain => chain
        | .args => args
        | .glue => glue
      refine ⟨choice, TokenChoice.givenBy_of_entries hlength fun role => ?_, rfl⟩
      cases role <;> assumption
    · cases h
  | _ => cases h

theorem decode_of_givenBy {choice : TokenChoice} {value : Value} (h : choice.GivenBy value) :
    decode value = .ok choice.tokens := by
  have hentry (role : TokenRole) (absent : String) :
      Value.asTextOr absent ((choice role).map .str) = .ok ((choice role).getD absent) :=
    Value.asTextOr_eq_ok_iff.mpr ⟨_, rfl, rfl⟩
  cases h with
  | object entries =>
    have hargs := entries .args
    have hchain := entries .chain
    have hglue := entries .glue
    simp only [TokenRole.name] at hargs hchain hglue
    simp only [decode, hargs, hchain, hglue, hentry]
    rfl
  | @list texts length entries =>
    have hitem (role : TokenRole) :
        (texts.map Value.str)[role.place]? = (choice role).map .str := by
      rw [List.getElem?_map, entries]
    have hargs := hitem .args
    have hchain := hitem .chain
    have hglue := hitem .glue
    simp only [TokenRole.place] at hargs hchain hglue
    simp only [decode, hargs, hchain, hglue, hentry, List.length_map, if_pos length]
    rfl

/-- Tokens are read from the values that give a choice of them, and from no others. -/
theorem decode_eq_ok_iff {value : Value} {tokens : Tokens} :
    decode value = .ok tokens ↔
      ∃ choice : TokenChoice, choice.GivenBy value ∧ choice.tokens = tokens := by
  constructor
  · exact exists_givenBy_of_decode
  · rintro ⟨choice, hchoice, rfl⟩
    exact decode_of_givenBy hchoice

end Tokens

namespace Delimiters

/-- Tokens are made delimiters exactly if they are sound, and then they stay as they are. -/
theorem ofTokens_eq_ok_iff_sound {tokens : Tokens} {delimiters : Delimiters} :
    ofTokens tokens = .ok delimiters ↔ tokens.Sound ∧ delimiters.toTokens = tokens := by
  rw [ofTokens_eq_ok_iff, iff_and_self]
  rintro rfl
  exact delimiters.sound

/-- Chosen tokens are looked at as any others, and what is wrong with them is told. -/
theorem decode_of_givenBy {choice : TokenChoice} {value : Value} (h : choice.GivenBy value) :
    decode value = (ofTokens choice.tokens).mapError .delimiters := by
  rw [decode, Tokens.decode_of_givenBy h]
  rfl

theorem decode_eq_ok_iff {value : Value} {delimiters : Delimiters} :
    decode value = .ok delimiters ↔ ∃ choice : TokenChoice, choice.GivenBy value ∧
      choice.tokens.Sound ∧ delimiters.toTokens = choice.tokens := by
  rw [decode, bind_eq_ok_iff]
  simp only [mapError_eq_ok_iff, Tokens.decode_eq_ok_iff, ofTokens_eq_ok_iff_sound]
  constructor
  · rintro ⟨-, ⟨choice, hchoice, rfl⟩, h⟩
    exact ⟨choice, hchoice, h⟩
  · rintro ⟨choice, hchoice, h⟩
    exact ⟨_, ⟨choice, hchoice, rfl⟩, h⟩

theorem decode_encode (delimiters : Delimiters) : decode delimiters.encode = .ok delimiters := by
  have hchoice : TokenChoice.GivenBy (fun role => some (delimiters.get role)) delimiters.encode :=
    .object fun role => by cases role <;> rfl
  exact decode_eq_ok_iff.mpr ⟨_, hchoice, delimiters.sound, rfl⟩

theorem encode_writtenAs_json (delimiters : Delimiters) :
    delimiters.encode.WrittenAs delimiters.json := by
  have htext (role : TokenRole) := Value.WrittenAs.text (delimiters.get role)
  -- The text has the chain token first.
  have horder := List.Perm.swap ("chain", Value.str delimiters.chain)
    ("args", Value.str delimiters.args) [("glue", Value.str delimiters.glue)]
  exact .object horder rfl (.cons (htext .chain) (.cons (htext .args) (.cons (htext .glue) .nil)))

/-- No value makes delimiters of unsound tokens. -/
theorem decode_sound :
    (∀ (choice : TokenChoice) (value : Value), choice.GivenBy value →
      (∀ delimiters, decode value = .ok delimiters ↔ ofTokens choice.tokens = .ok delimiters) ∧
      ∀ flaw, ofTokens choice.tokens = .error flaw →
        ∃ error, decode value = .error error ∧ error.message = flaw.message) ∧
    (∀ tokens delimiters, ofTokens tokens = .ok delimiters ↔
      tokens.Sound ∧ delimiters.toTokens = tokens) ∧
    (∀ value delimiters, decode value = .ok delimiters ↔ ∃ choice : TokenChoice,
      choice.GivenBy value ∧ choice.tokens.Sound ∧ delimiters.toTokens = choice.tokens) ∧
    ∀ delimiters : Delimiters, delimiters.Sound ∧ decode delimiters.encode = .ok delimiters ∧
      delimiters.encode.WrittenAs delimiters.json := by
  refine ⟨fun choice value hchoice => ⟨fun delimiters => ?_, fun flaw hflaw => ?_⟩,
    fun _ _ => ofTokens_eq_ok_iff_sound, fun _ _ => decode_eq_ok_iff, fun delimiters =>
      ⟨delimiters.sound, decode_encode delimiters, encode_writtenAs_json delimiters⟩⟩
  · rw [decode_of_givenBy hchoice, mapError_eq_ok_iff]
  · exact ⟨.delimiters flaw, by rw [decode_of_givenBy hchoice, hflaw]; rfl, rfl⟩

/-- One token that is given clashes with one that is not. -/
theorem decode_sound_clash :
    let choice : TokenChoice := fun role => if role = .chain then some ":" else none
    let value : Value := .obj [("chain", .str ":"), ("note", .null)]
    choice.GivenBy value ∧ ofTokens choice.tokens = .error (.overlappingTokens ":" "::") ∧
    ∃ error, decode value = .error error ∧
      error.message = "token ':' occurs inside token '::'" := by
  intro choice value
  have hchoice : choice.GivenBy value := .object fun role => by cases role <;> rfl
  have htokens : choice.tokens = { chain := ":" } := rfl
  have hflaw : ofTokens choice.tokens = .error (.overlappingTokens ":" "::") := by
    rw [htokens]
    rfl
  obtain ⟨error, herror, hmessage⟩ := (decode_sound.1 choice value hchoice).2 _ hflaw
  exact ⟨hchoice, hflaw, error, herror, hmessage⟩

end Delimiters

end ValueRules
