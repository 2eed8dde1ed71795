import Mathlib.Data.List.Nodup
import Mathlib.Data.String.Basic
import ValueRules.Registry

/-!
What each operation of a registry does to what can be looked up in it, and what the names and the
number of procedures say about that. `register_cases` is all that storing a procedure can do.
-/

namespace ValueRules

namespace Delimiters

/-- A procedure can be stored under this name. -/
def Accepts (delimiters : Delimiters) (name : String) : Prop :=
  delimiters.checkName name = .ok ()

instance (delimiters : Delimiters) (name : String) : Decidable (delimiters.Accepts name) :=
  match h : delimiters.checkName name with
  | .ok () => isTrue h
  | .error _ => isFalse (by rw [Accepts, h]; exact nofun)

theorem not_accepts_of_error {delimiters : Delimiters} {name : String} {error : RegistrationError}
    (h : delimiters.checkName name = .error error) : ¬ delimiters.Accepts name := by
  rw [Accepts, h]
  exact nofun

theorem reservedIn?_eq_none_iff {delimiters : Delimiters} {text : String} :
    delimiters.reservedIn? text = none ↔
      ∀ role, ¬ Text.Occurs (delimiters.get role) text := by
  rw [reservedIn?, List.find?_eq_none]
  constructor
  · intro h role
    have hmem : delimiters.get role ∈ delimiters.toList := by
      cases role <;> simp [Tokens.get, Tokens.toList]
    simpa using h _ hmem
  · intro h token htoken
    obtain rfl | rfl | rfl : token = delimiters.chain ∨ token = delimiters.args ∨
        token = delimiters.glue := by simpa [Tokens.toList] using htoken
    · simpa [Tokens.get] using h .chain
    · simpa [Tokens.get] using h .args
    · simpa [Tokens.get] using h .glue

theorem accepts_iff {delimiters : Delimiters} {name : String} :
    delimiters.Accepts name ↔ name ≠ "" ∧
      (∀ role, ¬ Text.Occurs (delimiters.get role) name) ∧
        delimiters.splicedAfter? name = none := by
  rw [Accepts, checkName, ← reservedIn?_eq_none_iff]
  by_cases hempty : name = ""
  · simp [hempty]
  · cases hreserved : delimiters.reservedIn? name with
    | some token => simp [hempty]
    | none => cases hspliced : delimiters.splicedAfter? name <;> simp [hempty]

end Delimiters

namespace Registry

/-- Storing a procedure is refused, with a warning and nothing else, or it is done and tells whether
it took the place of another one. -/
theorem register_cases (registry : Registry) (name : String) (procedure : Procedure) :
    (∃ error, registry.delimiters.checkName name = .error error ∧
      registry.register name procedure =
        ⟨.error error, registry, .registrationSkipped procedure.side name error⟩) ∨
    (registry.delimiters.Accepts name ∧
      registry.register name procedure = ⟨.ok (), registry.insert name procedure,
        if registry.has procedure.side name then .replaced procedure.side name
        else .registered procedure.side name⟩) := by
  cases h : registry.delimiters.checkName name with
  | error error => exact Or.inl ⟨error, rfl, by simp only [register, h]⟩
  | ok accepted => exact Or.inr ⟨h, by simp only [register, h]⟩

@[simp] theorem delimiters_insert (registry : Registry) (name : String) (procedure : Procedure) :
    (registry.insert name procedure).delimiters = registry.delimiters := by
  cases procedure <;> rfl

theorem delimiters_register (registry : Registry) (name : String) (procedure : Procedure) :
    (registry.register name procedure).registry.delimiters = registry.delimiters := by
  rcases registry.register_cases name procedure with ⟨error, -, h⟩ | ⟨-, h⟩ <;> simp [h]

theorem register_eq_ok_iff {registry : Registry} {name : String} {procedure : Procedure} :
    (registry.register name procedure).result = .ok () ↔ registry.delimiters.Accepts name := by
  rcases registry.register_cases name procedure with ⟨error, hrefused, h⟩ | ⟨haccepts, h⟩
  · simp [h, Delimiters.not_accepts_of_error hrefused]
  · simp [h, haccepts]

@[simp] theorem delimiters_remove (registry : Registry) (side : Namespace) (name : String) :
    (registry.remove side name).2.delimiters = registry.delimiters := by
  cases side <;> rfl

/-- A procedure is found on its own side and under its own name. -/
theorem resolve?_insert (registry : Registry) (name other : String) (procedure : Procedure)
    (side : Namespace) :
    (registry.insert name procedure).resolve? side other =
      if procedure.side = side ∧ name = other then some procedure
      else registry.resolve? side other := by
  cases procedure <;> cases side <;> by_cases h : name = other <;>
    simp [insert, resolve?, filter?, validator?, Procedure.side, Std.TreeMap.getElem?_insert, h]

theorem resolve?_remove (registry : Registry) (side other : Namespace) (name found : String) :
    (registry.remove side name).2.resolve? other found =
      if side = other ∧ name = found then none else registry.resolve? other found := by
  cases side <;> cases other <;> by_cases h : name = found <;>
    simp [remove, resolve?, filter?, validator?, Std.TreeMap.getElem?_erase, h]

theorem resolve?_empty (delimiters : Delimiters) (side : Namespace) (name : String) :
    resolve? { delimiters } side name = none := by
  cases side <;> simp [resolve?, filter?, validator?]

theorem filter?_eq_some_iff {registry : Registry} {name : String} {filter : Filter} :
    registry.filter? name = some filter ↔
      registry.resolve? .filter name = some (.filter filter) := by
  simp [resolve?]

theorem validator?_eq_some_iff {registry : Registry} {name : String} {validator : Validator} :
    registry.validator? name = some validator ↔
      registry.resolve? .validator name = some (.validator validator) := by
  simp [resolve?]

theorem has_eq_isSome (registry : Registry) (side : Namespace) (name : String) :
    registry.has side name = (registry.resolve? side name).isSome := by
  cases side with
  | filter =>
    rw [has, resolve?, filter?, Option.isSome_map, Std.TreeMap.contains_eq_isSome_getElem?]
  | validator =>
    rw [has, resolve?, validator?, Option.isSome_map, Std.TreeMap.contains_eq_isSome_getElem?]

theorem names_pairwise_lt (registry : Registry) (side : Namespace) :
    (registry.names side).Pairwise (· < ·) := by
  cases side with
  | filter => simpa only [names, compare_lt_iff_lt] using registry.filters.ordered_keys
  | validator => simpa only [names, compare_lt_iff_lt] using registry.validators.ordered_keys

theorem mem_names_iff {registry : Registry} {side : Namespace} {name : String} :
    name ∈ registry.names side ↔ (registry.resolve? side name).isSome = true := by
  rw [← has_eq_isSome]
  cases side with
  | filter => rw [names, has, Std.TreeMap.mem_keys, Std.TreeMap.mem_iff_contains]
  | validator => rw [names, has, Std.TreeMap.mem_keys, Std.TreeMap.mem_iff_contains]

/-- Every side and name under which a procedure is stored. -/
def keys (registry : Registry) : List (Namespace × String) :=
  (registry.names .filter).map (Prod.mk Namespace.filter) ++
    (registry.names .validator).map (Prod.mk Namespace.validator)

theorem mem_keys_iff {registry : Registry} {key : Namespace × String} :
    key ∈ registry.keys ↔ (registry.resolve? key.1 key.2).isSome = true := by
  obtain ⟨side, name⟩ := key
  rw [← mem_names_iff]
  cases side <;> simp [keys]

theorem nodup_keys (registry : Registry) : registry.keys.Nodup := by
  have hnodup (side : Namespace) : ((registry.names side).map (Prod.mk side)).Nodup :=
    ((registry.names_pairwise_lt side).imp ne_of_lt).map (Prod.mk side)
      fun _ _ hne heq => hne (Prod.mk.inj heq).2
  refine (hnodup .filter).append (hnodup .validator) fun key hfilter hvalidator => ?_
  obtain ⟨name, -, rfl⟩ := List.mem_map.mp hfilter
  obtain ⟨other, -, heq⟩ := List.mem_map.mp hvalidator
  exact Namespace.noConfusion (Prod.mk.inj heq).1

theorem size_eq_length_keys (registry : Registry) : registry.size = registry.keys.length := by
  simp [size, keys, names, Std.TreeMap.length_keys]

end Registry

end ValueRules
