import Mathlib.Data.List.Forall2
import ValueRules.Decoding
import ValueRules.Encoding
import ValueRules.Proofs.Text.Written

/-!
Chains as JSON. A chain is read from every list that gives each of its steps in one form or another,
and from no other value (`decode_eq_ok_iff`). It is written in one of these forms, and its text ends
nowhere else than it seems to, so neither the value nor the text stands for another chain
(`json_lossless`).
-/

namespace ValueRules

section

variable {ε α β : Type}

theorem bind_eq_ok_iff {result : Except ε α} {next : α → Except ε β} {b : β} :
    (result >>= next) = .ok b ↔ ∃ a, result = .ok a ∧ next a = .ok b := by
  cases result with
  | error error => exact ⟨nofun, fun ⟨a, ha, _⟩ => nomatch ha⟩
  | ok a => exact ⟨fun h => ⟨a, rfl, h⟩, fun ⟨_, ha, h⟩ => Except.ok.inj ha ▸ h⟩

theorem pure_eq_ok_iff {a b : α} : (pure a : Except ε α) = .ok b ↔ a = b :=
  ⟨Except.ok.inj, congrArg Except.ok⟩

theorem mapError_eq_ok_iff {ε' : Type} {f : ε → ε'} {result : Except ε α} {a : α} :
    result.mapError f = .ok a ↔ result = .ok a := by
  cases result <;> simp [Except.mapError]

theorem mapM_eq_ok_iff {f : α → Except ε β} {items : List α} {results : List β} :
    items.mapM f = .ok results ↔
      List.Forall₂ (fun item result => f item = .ok result) items results := by
  induction items generalizing results with
  | nil =>
    rw [List.mapM_nil, List.forall₂_nil_left_iff]
    exact ⟨fun h => (Except.ok.inj h).symm, fun h => congrArg Except.ok h.symm⟩
  | cons item items ih =>
    rw [List.mapM_cons, bind_eq_ok_iff, List.forall₂_cons_left_iff]
    simp only [bind_eq_ok_iff, ih]
    constructor
    · rintro ⟨first, hfirst, rest, hrest, h⟩
      exact ⟨first, rest, hfirst, hrest, (Except.ok.inj h).symm⟩
    · rintro ⟨first, rest, hfirst, hrest, rfl⟩
      exact ⟨first, hfirst, rest, hrest, rfl⟩

end

namespace Value

/-- A compact text of a value that holds texts, lists and objects only. The members of an object may
be written in any order. -/
inductive WrittenAs : Value → String → Prop
  | text (text : String) : WrittenAs (.str text) (Text.quote text)
  | list {items : List Value} {texts : List String} (written : List.Forall₂ WrittenAs items texts) :
    WrittenAs (.arr items) (Text.bracketed texts)
  | object {members ordered : List (String × Value)} {written : List (String × String)}
    (order : members.Perm ordered) (names : ordered.map Prod.fst = written.map Prod.fst)
    (values : List.Forall₂ WrittenAs (ordered.map Prod.snd) (written.map Prod.snd)) :
    WrittenAs (.obj members) (Text.braced written)

theorem asText_eq_ok_iff {value : Value} {text : String} :
    value.asText = .ok text ↔ value = .str text := by
  cases value <;> simp [asText]

theorem asList_eq_ok_iff {value : Value} {items : List Value} :
    value.asList = .ok items ↔ value = .arr items := by
  cases value <;> simp [asList]

theorem asTexts_eq_ok_iff {value : Value} {texts : List String} :
    value.asTexts = .ok texts ↔ value = .arr (texts.map .str) := by
  have hitems (items : List Value) :
      List.Forall₂ (fun item text => item = .str text) items texts ↔ items = texts.map .str := by
    rw [← List.forall₂_map_right_iff, List.forall₂_eq_eq_eq]
  rw [asTexts, bind_eq_ok_iff]
  simp only [asList_eq_ok_iff, mapM_eq_ok_iff, asText_eq_ok_iff, hitems, exists_eq_right]

end Value

namespace Step

/-- The forms in which a value gives a step: an object with a name and arguments, in which no
arguments may be left out and other members do not count, or a list of the name and the arguments,
of which no arguments may be left out. -/
inductive GivenBy (step : Step) : Value → Prop
  | object {members : List (String × Value)}
    (name : Value.lookup? "name" members = some (.str step.name))
    (args : Value.lookup? "args" members = some (.arr (step.args.map .str)) ∨
      Value.lookup? "args" members = none ∧ step.args = []) : GivenBy step (.obj members)
  | fields : GivenBy step (.arr [.str step.name, .arr (step.args.map .str)])
  | name (args : step.args = []) : GivenBy step (.arr [.str step.name])

theorem givenBy_object_iff {members : List (String × Value)} {step : Step} :
    step.GivenBy (.obj members) ↔ Value.lookup? "name" members = some (.str step.name) ∧
      (Value.lookup? "args" members = some (.arr (step.args.map .str)) ∨
        Value.lookup? "args" members = none ∧ step.args = []) := by
  constructor
  · rintro ⟨⟩
    exact ⟨‹_›, ‹_›⟩
  · rintro ⟨name, args⟩
    exact .object name args

theorem givenBy_list_iff {items : List Value} {step : Step} :
    step.GivenBy (.arr items) ↔ items = [.str step.name, .arr (step.args.map .str)] ∨
      items = [.str step.name] ∧ step.args = [] := by
  constructor
  · rintro ⟨⟩
    · exact Or.inl rfl
    · exact Or.inr ⟨rfl, ‹_›⟩
  · rintro (rfl | ⟨rfl, args⟩)
    · exact .fields
    · exact .name args

theorem decode_object {members : List (String × Value)} {step : Step} :
    decode (.obj members) = .ok step ↔ step.GivenBy (.obj members) := by
  obtain ⟨name, args⟩ := step
  rw [decode, givenBy_object_iff]
  cases Value.lookup? "name" members with
  | none => cases Value.lookup? "args" members <;> simp [bind_eq_ok_iff]
  | some value =>
    cases Value.lookup? "args" members with
    | none =>
      simp only [bind_eq_ok_iff, pure_eq_ok_iff, Value.asText_eq_ok_iff, mk.injEq]
      simp [eq_comm, and_comm]
    | some given =>
      simp only [bind_eq_ok_iff, pure_eq_ok_iff, Value.asText_eq_ok_iff, Value.asTexts_eq_ok_iff,
        mk.injEq]
      simp [and_comm]

theorem decode_list {items : List Value} {step : Step} :
    decode (.arr items) = .ok step ↔ step.GivenBy (.arr items) := by
  obtain ⟨name, args⟩ := step
  rw [givenBy_list_iff]
  rcases items with _ | ⟨first, _ | ⟨second, _ | ⟨third, rest⟩⟩⟩
  · simp [decode]
  · simp only [decode, bind_eq_ok_iff, pure_eq_ok_iff, Value.asText_eq_ok_iff, mk.injEq]
    simp [eq_comm]
  · simp only [decode, bind_eq_ok_iff, Value.asText_eq_ok_iff, Value.asTexts_eq_ok_iff]
    simp [pure_eq_ok_iff]
  · -- Both fields are read, and then there is one too many.
    simp [decode, bind_eq_ok_iff]

/-- A step is read from the values that give it and from no others. -/
theorem decode_eq_ok_iff {value : Value} {step : Step} :
    decode value = .ok step ↔ step.GivenBy value := by
  cases value with
  | obj members => exact decode_object
  | arr items => exact decode_list
  | _ => exact ⟨nofun, nofun⟩

theorem givenBy_encode (step : Step) : step.GivenBy step.encode := by
  obtain ⟨name, args⟩ := step
  by_cases hargs : args = []
  · subst hargs
    exact .object rfl (Or.inr ⟨rfl, rfl⟩)
  · rw [encode, if_neg hargs]
    exact .object rfl (Or.inl rfl)

theorem encode_writtenAs_json (step : Step) : step.encode.WrittenAs step.json := by
  obtain ⟨name, args⟩ := step
  have hname := Value.WrittenAs.text name
  rw [encode, json]
  by_cases hargs : args = []
  · rw [if_pos hargs, if_pos hargs]
    have horder := List.Perm.refl [("name", Value.str name)]
    exact .object horder rfl (.cons hname .nil)
  · have htexts : List.Forall₂ Value.WrittenAs (args.map .str) (args.map Text.quote) := by
      rw [List.forall₂_map_left_iff, List.forall₂_map_right_iff, List.forall₂_same]
      exact fun arg _ => .text arg
    rw [if_neg hargs, if_neg hargs]
    -- The text has the name first, and the value has the members in the order of their names.
    have horder : ([("args", Value.arr (args.map .str))] ++ [("name", Value.str name)]).Perm
        [("name", .str name), ("args", .arr (args.map .str))] := List.perm_append_comm
    exact .object horder rfl (.cons hname (.cons (.list htexts) .nil))

/-- The arguments, if there are any, stand between the name and the brace that ends the text. -/
theorem toList_json (step : Step) :
    step.json.toList = '\x7b' :: ((Text.quote "name").toList ++ ':' ::
      ((Text.quote step.name).toList ++
        if step.args = [] then ['\x7d']
        else ',' :: ((Text.quote "args").toList ++ ':' ::
          ((Text.bracketed (step.args.map Text.quote)).toList ++ ['\x7d'])))) := by
  by_cases hargs : step.args = []
  · simp [json, hargs, Text.toList_braced_cons]
  · simp [json, hargs, Text.toList_braced_cons]

theorem selfDelimiting_json : Text.SelfDelimiting fun step : Step => step.json.toList := by
  have hlist : Text.SelfDelimiting fun args : List String =>
      (Text.bracketed (args.map Text.quote)).toList :=
    Text.selfDelimiting_quote.bracketed fun arg => ⟨'"', _, Text.toList_quote arg, by decide⟩
  rintro ⟨name, args⟩ ⟨other, others⟩ after later heq
  simp only [toList_json, List.cons_append, List.append_assoc] at heq
  have hname := List.append_cancel_left (List.cons.inj heq).2
  obtain ⟨rfl, hrest⟩ := Text.selfDelimiting_quote name other _ _ (List.cons.inj hname).2
  -- Behind the name there is a brace or a comma, and that tells whether there are arguments.
  by_cases hargs : args = [] <;> by_cases hothers : others = []
  · simp only [if_pos hargs, if_pos hothers] at hrest
    exact ⟨by rw [hargs, hothers], List.append_cancel_left hrest⟩
  · simp [hargs, hothers] at hrest
  · simp [hargs, hothers] at hrest
  · simp only [if_neg hargs, if_neg hothers, List.cons_append, List.append_assoc] at hrest
    have hvalue := List.append_cancel_left (List.cons.inj hrest).2
    obtain ⟨rfl, hafter⟩ := hlist args others _ _ (List.cons.inj hvalue).2
    exact ⟨rfl, (List.cons.inj hafter).2⟩

end Step

namespace Chain

/-- A chain is read from the lists that give its steps, each in a form of its own. -/
theorem decode_eq_ok_iff {value : Value} {chain : Chain} :
    decode value = .ok chain ↔
      ∃ items, value = .arr items ∧ List.Forall₂ Step.GivenBy chain.steps items := by
  obtain ⟨steps⟩ := chain
  simp only [decode, bind_eq_ok_iff, pure_eq_ok_iff, Value.asList_eq_ok_iff, mapM_eq_ok_iff,
    Step.decode_eq_ok_iff, mk.injEq, exists_eq_right]
  constructor
  · rintro ⟨items, rfl, hsteps⟩
    exact ⟨items, rfl, hsteps.flip⟩
  · rintro ⟨items, rfl, hsteps⟩
    exact ⟨items, rfl, hsteps.flip⟩

theorem decode_encode (chain : Chain) : decode chain.encode = .ok chain := by
  rw [decode_eq_ok_iff]
  refine ⟨_, rfl, ?_⟩
  rw [List.forall₂_map_right_iff, List.forall₂_same]
  exact fun step _ => step.givenBy_encode

theorem encode_writtenAs_json (chain : Chain) : chain.encode.WrittenAs chain.json := by
  apply Value.WrittenAs.list
  rw [List.forall₂_map_left_iff, List.forall₂_map_right_iff, List.forall₂_same]
  exact fun step _ => step.encode_writtenAs_json

theorem json_injective : Function.Injective json := by
  have hsteps : Text.SelfDelimiting fun steps : List Step =>
      (Text.bracketed (steps.map Step.json)).toList :=
    Step.selfDelimiting_json.bracketed fun step => ⟨'\x7b', _, step.toList_json, by decide⟩
  rintro ⟨steps⟩ ⟨others⟩ heq
  exact congrArg mk (hsteps.injective (congrArg String.toList heq))

/-- JSON loses nothing of a chain, whether it can be told from its rule text or not. -/
theorem json_lossless :
    (∀ chain : Chain, decode chain.encode = .ok chain ∧ chain.encode.WrittenAs chain.json) ∧
    Function.Injective json ∧
    ∀ (chain : Chain) (value : Value), decode value = .ok chain ↔
      ∃ items, value = .arr items ∧ List.Forall₂ Step.GivenBy chain.steps items :=
  ⟨fun chain => ⟨decode_encode chain, encode_writtenAs_json chain⟩, json_injective,
    fun _ _ => decode_eq_ok_iff⟩

/-- Four forms in one list, of a chain that no rule text can write. -/
example : decode (.arr [.obj [("name", .str "a->b"), ("note", .null)], .arr [.str "c"],
    .obj [("args", .arr []), ("name", .str "d")], .arr [.str "", .arr [.str ",,"]]]) =
    .ok ⟨[{ name := "a->b" }, { name := "c" }, { name := "d" }, { name := "", args := [",,"] }]⟩ :=
  rfl

end Chain

end ValueRules
