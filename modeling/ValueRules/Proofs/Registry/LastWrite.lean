import Mathlib.Data.Finset.Card
import ValueRules.Proofs.Registry.Contents

/-!
A registry shows a map that remembers the last write. A run of operations is spelled out as a
history of single requests; `History.latest` looks up in it what was stored under a name and not
removed since, and `run_last_write` says that every look-up agrees with that.
-/

namespace ValueRules.Registry

/-- What can be asked of a registry that may change it. -/
inductive Operation where
  | register (name : String) (procedure : Procedure)
  | addFilter (name : String) (filter : Filter)
  | addValidator (name : String) (validator : Validator)
  | registerAll (entries : List (String × Procedure))
  | remove (side : Namespace) (name : String)
  | copy (side : Namespace) (source target : String)

/-- A single procedure to be stored, or a single name to be removed. -/
inductive Request where
  | put (name : String) (procedure : Procedure)
  | drop (side : Namespace) (name : String)

namespace Request

def isPut : Request → Bool
  | put .. => true
  | drop .. => false

/-- What the request leaves under a name: a procedure or none, or else what was there before. -/
def leaves? (delimiters : Delimiters) (side : Namespace) (name : String) :
    Request → Option (Option Procedure)
  | put other procedure =>
    if procedure.side = side ∧ other = name ∧ delimiters.Accepts other then some (some procedure)
    else none
  | drop origin other => if origin = side ∧ other = name then some none else none

end Request

/-- Requests in the order in which they were made. -/
abbrev History := List Request

/-- What the latest request that counts left under a name. -/
def History.latest (delimiters : Delimiters) (history : History) (side : Namespace)
    (name : String) : Option Procedure :=
  (history.reverse.findSome? (Request.leaves? delimiters side name)).join

/-- The requests that an operation makes; a copy stores what is found under its source. -/
def Operation.requests (found : Namespace → String → Option Procedure) : Operation → History
  | register name procedure => [.put name procedure]
  | addFilter name filter => [.put name (.filter filter)]
  | addValidator name validator => [.put name (.validator validator)]
  | registerAll entries => entries.map fun (name, procedure) => .put name procedure
  | remove side name => [.drop side name]
  | copy side source target => (found side source).toList.map (.put target)

/-- The requests of operations that come after a past. -/
def historyAfter (delimiters : Delimiters) (past : History) : List Operation → History
  | [] => past
  | operation :: operations =>
    historyAfter delimiters (past ++ operation.requests (past.latest delimiters)) operations

/-- The registry after a procedure was offered to it, and what was logged. -/
def offer (registry : Registry) (name : String) (procedure : Procedure) : Registry × List Event :=
  let done := registry.register name procedure
  (done.registry, [done.event])

def perform (registry : Registry) : Operation → Registry × List Event
  | .register name procedure => registry.offer name procedure
  | .addFilter name filter =>
    let done := registry.addFilter name filter
    (done.registry, [done.event])
  | .addValidator name validator =>
    let done := registry.addValidator name validator
    (done.registry, [done.event])
  | .registerAll entries => (registry.registerAll entries).2
  | .remove side name => ((registry.remove side name).2, [])
  | .copy side source target =>
    match registry.resolve? side source with
    | some procedure => registry.offer target procedure
    | none => (registry, [])

/-- The operations one after another, with what was logged by all of them. -/
def run (registry : Registry) : List Operation → Registry × List Event
  | [] => (registry, [])
  | operation :: operations =>
    let (registry, events) := registry.perform operation
    let (registry, others) := registry.run operations
    (registry, events ++ others)

def request (registry : Registry) : Request → Registry × List Event
  | .put name procedure => registry.offer name procedure
  | .drop side name => ((registry.remove side name).2, [])

def requestAll (registry : Registry) : List Request → Registry × List Event
  | [] => (registry, [])
  | first :: requests =>
    let (registry, events) := registry.request first
    let (registry, others) := registry.requestAll requests
    (registry, events ++ others)

/-- Everything that can be looked up in the registry agrees with the map. -/
structure Shows (registry : Registry) (delimiters : Delimiters)
    (map : Namespace → String → Option Procedure) : Prop where
  resolve?_eq : ∀ side name, registry.resolve? side name = map side name
  filter?_iff : ∀ name filter,
    registry.filter? name = some filter ↔ map .filter name = some (.filter filter)
  validator?_iff : ∀ name validator,
    registry.validator? name = some validator ↔ map .validator name = some (.validator validator)
  has_eq : ∀ side name, registry.has side name = (map side name).isSome
  names_ascending : ∀ side, (registry.names side).Pairwise (· < ·)
  mem_names : ∀ side name, name ∈ registry.names side ↔ (map side name).isSome = true
  size_eq : ∃ keys : Finset (Namespace × String),
    (∀ key, key ∈ keys ↔ (map key.1 key.2).isSome = true) ∧ registry.size = keys.card
  reachable : ∀ side name, (map side name).isSome = true → name ≠ "" ∧
    (∀ role, ¬ Text.Occurs (delimiters.get role) name) ∧ delimiters.splicedAfter? name = none

/-- The registry stands where its history leads. -/
structure Follows (registry : Registry) (delimiters : Delimiters) (history : History) : Prop where
  delimiters_eq : registry.delimiters = delimiters
  resolve?_eq : ∀ side name, registry.resolve? side name = history.latest delimiters side name

theorem latest_concat (delimiters : Delimiters) (history : History) (last : Request)
    (side : Namespace) (name : String) :
    History.latest delimiters (history ++ [last]) side name =
      (last.leaves? delimiters side name).getD (history.latest delimiters side name) := by
  rw [History.latest, List.reverse_append, List.reverse_singleton, List.singleton_append,
    List.findSome?_cons]
  cases last.leaves? delimiters side name <;> rfl

theorem Request.leaves?_eq_some_some_iff {delimiters : Delimiters} {side : Namespace}
    {name : String} {procedure : Procedure} {asked : Request} :
    asked.leaves? delimiters side name = some (some procedure) ↔
      asked = .put name procedure ∧ procedure.side = side ∧ delimiters.Accepts name := by
  cases asked with
  | put other stored =>
    constructor
    · intro h
      obtain ⟨⟨hside, rfl, haccepts⟩, rfl⟩ : (stored.side = side ∧ other = name ∧
          delimiters.Accepts other) ∧ stored = procedure := by simpa [leaves?] using h
      exact ⟨rfl, hside, haccepts⟩
    · rintro ⟨heq, hside, haccepts⟩
      obtain ⟨rfl, rfl⟩ := Request.put.inj heq
      simp [leaves?, hside, haccepts]
  | drop origin other => simp [leaves?]

/-- A name shows the procedure that the last request to count stored there. -/
theorem latest_eq_some_iff {delimiters : Delimiters} {history : History} {side : Namespace}
    {name : String} {procedure : Procedure} :
    history.latest delimiters side name = some procedure ↔
      ∃ past future, history = past ++ .put name procedure :: future ∧ procedure.side = side ∧
        delimiters.Accepts name ∧
        ∀ later ∈ future, later.leaves? delimiters side name = none := by
  rw [History.latest, Option.join_eq_some_iff, List.findSome?_eq_some_iff]
  constructor
  · rintro ⟨later, asked, earlier, hhistory, hasked, hlater⟩
    obtain ⟨rfl, hside, haccepts⟩ := Request.leaves?_eq_some_some_iff.mp hasked
    refine ⟨earlier.reverse, later.reverse, ?_, hside, haccepts, fun request hrequest => ?_⟩
    · rw [← List.reverse_reverse history, hhistory]
      simp
    · exact hlater request (List.mem_reverse.mp hrequest)
  · rintro ⟨past, future, rfl, hside, haccepts, hfuture⟩
    refine ⟨future.reverse, .put name procedure, past.reverse, by simp,
      Request.leaves?_eq_some_some_iff.mpr ⟨rfl, hside, haccepts⟩, fun request hrequest => ?_⟩
    exact hfuture request (List.mem_reverse.mp hrequest)

theorem accepts_of_latest {delimiters : Delimiters} {history : History} {side : Namespace}
    {name : String} (h : (history.latest delimiters side name).isSome = true) :
    delimiters.Accepts name := by
  obtain ⟨procedure, hprocedure⟩ := Option.isSome_iff_exists.mp h
  obtain ⟨past, future, -, -, haccepts, -⟩ := latest_eq_some_iff.mp hprocedure
  exact haccepts

theorem follows_nil (delimiters : Delimiters) : Follows { delimiters } delimiters [] :=
  ⟨rfl, resolve?_empty delimiters⟩

theorem Follows.offer {registry : Registry} {delimiters : Delimiters} {history : History}
    (h : registry.Follows delimiters history) (name : String) (procedure : Procedure) :
    (registry.offer name procedure).1.Follows delimiters (history ++ [.put name procedure]) := by
  have hdelimiters := h.delimiters_eq
  subst hdelimiters
  rcases registry.register_cases name procedure with ⟨error, hrefused, hdone⟩ | ⟨haccepts, hdone⟩
  · have hnot := Delimiters.not_accepts_of_error hrefused
    refine ⟨by simp [Registry.offer, hdone], fun side other => ?_⟩
    rw [latest_concat, Request.leaves?, if_neg (by rintro ⟨-, -, haccepts⟩; exact hnot haccepts),
      Option.getD_none, ← h.resolve?_eq, Registry.offer, hdone]
  · refine ⟨by simp [Registry.offer, hdone], fun side other => ?_⟩
    rw [latest_concat, Request.leaves?, ← h.resolve?_eq, Registry.offer, hdone, resolve?_insert]
    by_cases hkey : procedure.side = side ∧ name = other
    · rw [if_pos hkey, if_pos ⟨hkey.1, hkey.2, haccepts⟩, Option.getD_some]
    · rw [if_neg hkey, if_neg fun hall => hkey ⟨hall.1, hall.2.1⟩, Option.getD_none]

theorem Follows.request {registry : Registry} {delimiters : Delimiters} {history : History}
    (h : registry.Follows delimiters history) (next : Request) :
    (registry.request next).1.Follows delimiters (history ++ [next]) := by
  cases next with
  | put name procedure => exact h.offer name procedure
  | drop side name =>
    refine ⟨by simp [Registry.request, h.delimiters_eq], fun other found => ?_⟩
    rw [latest_concat, Request.leaves?, Registry.request, resolve?_remove, h.resolve?_eq]
    by_cases hkey : side = other ∧ name = found
    · rw [if_pos hkey, if_pos hkey, Option.getD_some]
    · rw [if_neg hkey, if_neg hkey, Option.getD_none]

theorem Follows.requestAll {registry : Registry} {delimiters : Delimiters} {history : History}
    (h : registry.Follows delimiters history) (requests : List Request) :
    (registry.requestAll requests).1.Follows delimiters (history ++ requests) := by
  induction requests generalizing registry history with
  | nil => simpa [Registry.requestAll] using h
  | cons first requests ih =>
    have hrest := ih (h.request first)
    rwa [List.append_assoc, List.singleton_append] at hrest

/-- Storing many procedures is storing them one by one, and counting the names that pass. -/
theorem registerAll_eq (registry : Registry) (entries : List (String × Procedure)) :
    registry.registerAll entries =
      (entries.countP fun entry => registry.delimiters.Accepts entry.1,
        registry.requestAll (entries.map fun entry => .put entry.1 entry.2)) := by
  induction entries generalizing registry with
  | nil => rfl
  | cons entry entries ih =>
    obtain ⟨name, procedure⟩ := entry
    have hdelimiters : (registry.register name procedure).registry.delimiters =
        registry.delimiters := delimiters_register registry name procedure
    have hcount : (registry.register name procedure).result.toBool =
        decide (registry.delimiters.Accepts name) := by
      rw [Bool.eq_iff_iff, decide_eq_true_iff, ← register_eq_ok_iff]
      cases (registry.register name procedure).result <;> simp [Except.toBool]
    simp only [registerAll, ih, hdelimiters, hcount, List.countP_cons, Nat.add_comm, List.map_cons,
      requestAll, request, offer, List.singleton_append]

/-- Every operation comes down to the requests that it makes. -/
theorem perform_eq_requestAll (registry : Registry) (operation : Operation) :
    registry.perform operation =
      registry.requestAll (operation.requests registry.resolve?) := by
  cases operation with
  | register name procedure => simp [perform, Operation.requests, requestAll, request]
  | addFilter name filter =>
    simp [perform, Operation.requests, requestAll, request, addFilter, offer]
  | addValidator name validator =>
    simp [perform, Operation.requests, requestAll, request, addValidator, offer]
  | registerAll entries => rw [perform, registerAll_eq, Operation.requests]
  | remove side name => simp [perform, Operation.requests, requestAll, request]
  | copy side source target =>
    cases hfound : registry.resolve? side source <;>
      simp [perform, Operation.requests, requestAll, request, hfound]

theorem Follows.resolve?_eq_latest {registry : Registry} {delimiters : Delimiters}
    {history : History} (h : registry.Follows delimiters history) :
    registry.resolve? = history.latest delimiters :=
  funext₂ h.resolve?_eq

theorem Follows.perform {registry : Registry} {delimiters : Delimiters} {history : History}
    (h : registry.Follows delimiters history) (operation : Operation) :
    (registry.perform operation).1.Follows delimiters
      (history ++ operation.requests (history.latest delimiters)) := by
  rw [perform_eq_requestAll, ← h.resolve?_eq_latest]
  exact h.requestAll _

theorem Follows.run {registry : Registry} {delimiters : Delimiters} {history : History}
    (h : registry.Follows delimiters history) (operations : List Operation) :
    (registry.run operations).1.Follows delimiters
      (historyAfter delimiters history operations) := by
  induction operations generalizing registry history with
  | nil => exact h
  | cons operation operations ih => exact ih (h.perform operation)

theorem length_requestAll (registry : Registry) (requests : List Request) :
    (registry.requestAll requests).2.length = requests.countP Request.isPut := by
  induction requests generalizing registry with
  | nil => rfl
  | cons first requests ih =>
    rw [requestAll, List.length_append, ih, List.countP_cons, Nat.add_comm]
    cases first <;> rfl

/-- One event is logged for every procedure that was to be stored, and none for anything else. -/
theorem Follows.length_run {registry : Registry} {delimiters : Delimiters} {history : History}
    (h : registry.Follows delimiters history) (operations : List Operation) :
    history.countP Request.isPut + (registry.run operations).2.length =
      (historyAfter delimiters history operations).countP Request.isPut := by
  induction operations generalizing registry history with
  | nil => rfl
  | cons operation operations ih =>
    rw [historyAfter, ← ih (h.perform operation), List.countP_append, Registry.run,
      List.length_append, perform_eq_requestAll, length_requestAll, h.resolve?_eq_latest,
      Nat.add_assoc]

theorem Follows.shows {registry : Registry} {delimiters : Delimiters} {history : History}
    (h : registry.Follows delimiters history) :
    registry.Shows delimiters (history.latest delimiters) where
  resolve?_eq := h.resolve?_eq
  filter?_iff name filter := by rw [filter?_eq_some_iff, h.resolve?_eq]
  validator?_iff name validator := by rw [validator?_eq_some_iff, h.resolve?_eq]
  has_eq side name := by rw [has_eq_isSome, h.resolve?_eq]
  names_ascending := registry.names_pairwise_lt
  mem_names side name := by rw [mem_names_iff, h.resolve?_eq]
  size_eq := by
    refine ⟨registry.keys.toFinset, fun key => ?_, ?_⟩
    · rw [List.mem_toFinset, mem_keys_iff, h.resolve?_eq]
    · rw [List.toFinset_card_of_nodup registry.nodup_keys, size_eq_length_keys]
  reachable side name hname := Delimiters.accepts_iff.mp (accepts_of_latest hname)

/-- What is logged tells a refused name, a replaced procedure and a new one apart. -/
theorem Follows.event_iff {registry : Registry} {delimiters : Delimiters} {history : History}
    (h : registry.Follows delimiters history) (name : String) (procedure : Procedure) :
    ((registry.register name procedure).event.level = .warn ↔ ¬ delimiters.Accepts name) ∧
    ((registry.register name procedure).event = .replaced procedure.side name ↔
      (history.latest delimiters procedure.side name).isSome = true) ∧
    ((registry.register name procedure).event = .registered procedure.side name ↔
      delimiters.Accepts name ∧ history.latest delimiters procedure.side name = none) := by
  have haccepted := @accepts_of_latest delimiters history procedure.side name
  have hdelimiters := h.delimiters_eq
  subst hdelimiters
  rw [← h.resolve?_eq] at haccepted ⊢
  rcases registry.register_cases name procedure with ⟨error, hrefused, hdone⟩ | ⟨haccepts, hdone⟩
  · have hnot := Delimiters.not_accepts_of_error hrefused
    simp [hdone, hnot, Event.level, mt haccepted hnot]
  · rw [hdone, has_eq_isSome]
    cases hfound : registry.resolve? procedure.side name <;> simp [haccepts, Event.level]

/-- A registry is a map that remembers the last write. After any operations, everything that can be
looked up is what their history says, and storing one more procedure is refused, replaces or adds
accordingly. -/
theorem run_last_write (delimiters : Delimiters) (operations : List Operation) :
    let registry := (run { delimiters } operations).1
    let history := historyAfter delimiters [] operations
    let map := history.latest delimiters
    registry.Shows delimiters map ∧
    (run { delimiters } operations).2.length = history.countP Request.isPut ∧
    (∀ side name, (registry.remove side name).1 = (map side name).isSome) ∧
    (∀ entries, registry.registerAll entries =
      (entries.countP fun entry => delimiters.Accepts entry.1,
        registry.requestAll (entries.map fun entry => .put entry.1 entry.2))) ∧
    ∀ name procedure,
      ((registry.register name procedure).result = .ok () ↔ delimiters.Accepts name) ∧
      ((registry.register name procedure).result = .ok () ∨
        (registry.register name procedure).registry = registry) ∧
      ((registry.register name procedure).event.level = .warn ↔ ¬ delimiters.Accepts name) ∧
      ((registry.register name procedure).event = .replaced procedure.side name ↔
        (map procedure.side name).isSome = true) ∧
      ((registry.register name procedure).event = .registered procedure.side name ↔
        delimiters.Accepts name ∧ map procedure.side name = none) := by
  intro registry history map
  have hfollows : registry.Follows delimiters history := (follows_nil delimiters).run operations
  have hdelimiters : registry.delimiters = delimiters := hfollows.delimiters_eq
  refine ⟨hfollows.shows, ?_, hfollows.shows.has_eq, fun entries => ?_,
    fun name procedure => ⟨?_, ?_, ?_⟩⟩
  · have hlength := (follows_nil delimiters).length_run operations
    rwa [List.countP_nil, Nat.zero_add] at hlength
  · rw [registerAll_eq, hdelimiters]
  · rw [register_eq_ok_iff, hdelimiters]
  · rcases registry.register_cases name procedure with ⟨error, -, hdone⟩ | ⟨-, hdone⟩
    · exact Or.inr (by rw [hdone])
    · exact Or.inl (by rw [hdone])
  · exact hfollows.event_iff name procedure

end ValueRules.Registry
