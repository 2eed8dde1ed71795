import Mathlib.Data.List.DropRight
import ValueRules.Proofs.Chain.RoundTrip

/-!
What the warning of a builder is worth. A run keeps a record of every addition with the event that
was logged for it, and of every text or chain handed over. `warning_exact` compares the warnings
since a chain was last handed over with what its rule text is read back as.
-/

namespace ValueRules.Builder

/-- What can be asked of a builder. -/
inductive Operation where
  | addStep (buffer : Buffer) (name : String) (args : List String)
  | filter (name : String)
  | filterWith (name : String) (args : List String)
  | condition (name : String)
  | conditionWith (name : String) (args : List String)
  | drain (buffer : Buffer)
  | drainChain (buffer : Buffer)
  | createFilter
  | createRule
deriving DecidableEq, Repr

/-- A step that was added, with the event that was logged for it. -/
structure Addition where
  step : Step
  logged : Option Event
deriving DecidableEq, Repr

/-- What a builder did for one operation. -/
inductive Record where
  | added (buffer : Buffer) (addition : Addition)
  | drained (buffer : Buffer) (text : String)
  | drainedChain (buffer : Buffer) (chain : Chain)
deriving DecidableEq, Repr

/-- The event says that the step will not be read back from its rule text. -/
def Addition.Warned (addition : Addition) : Prop :=
  ∃ rendered, addition.logged = some (.unfaithfulStep addition.step.name rendered)

def recordAdd (builder : Builder) (buffer : Buffer) (step : Step) : Record × Builder :=
  let (builder, logged) := builder.add buffer step
  (.added buffer { step, logged }, builder)

def recordDrain (builder : Builder) (buffer : Buffer) : Record × Builder :=
  let (text, builder) := builder.drain buffer
  (.drained buffer text, builder)

def recordDrainChain (builder : Builder) (buffer : Buffer) : Record × Builder :=
  let (chain, builder) := builder.drainChain buffer
  (.drainedChain buffer chain, builder)

def perform (builder : Builder) : Operation → Record × Builder
  | .addStep buffer name args => builder.recordAdd buffer { name, args }
  | .filter name => builder.recordAdd .filter { name }
  | .filterWith name args => builder.recordAdd .filter { name, args }
  | .condition name => builder.recordAdd .rule { name }
  | .conditionWith name args => builder.recordAdd .rule { name, args }
  | .drain buffer => builder.recordDrain buffer
  | .drainChain buffer => builder.recordDrainChain buffer
  | .createFilter => builder.recordDrain .filter
  | .createRule => builder.recordDrain .rule

/-- The operations one after another, with their records in order. -/
def run (builder : Builder) : List Operation → List Record × Builder
  | [] => ([], builder)
  | operation :: operations =>
    let (record, builder) := builder.perform operation
    let (records, builder) := builder.run operations
    (record :: records, builder)

namespace Record

/-- The buffer was emptied. -/
def empties (buffer : Buffer) : Record → Bool
  | added .. => false
  | drained other _ | drainedChain other _ => other = buffer

def addition? (buffer : Buffer) : Record → Option Addition
  | added other addition => if other = buffer then some addition else none
  | drained .. | drainedChain .. => none

end Record

/-- The additions to a buffer since it was last emptied. -/
def pendingAdditions (buffer : Buffer) (records : List Record) : List Addition :=
  (records.rtakeWhile fun record => !record.empties buffer).filterMap (·.addition? buffer)

/-- The records account for what the builder holds, and for why it logged what it logged. -/
structure AccountedBy (builder : Builder) (delimiters : Delimiters) (records : List Record) :
    Prop where
  delimiters_eq : builder.delimiters = delimiters
  steps_eq : ∀ buffer,
    builder.steps buffer = (pendingAdditions buffer records).map Addition.step
  warned_iff : ∀ buffer, ∀ addition ∈ pendingAdditions buffer records,
    addition.Warned ↔ addition.step.roundTrips delimiters = false

theorem pendingAdditions_concat (buffer : Buffer) (records : List Record) (record : Record) :
    pendingAdditions buffer (records ++ [record]) =
      if record.empties buffer then []
      else pendingAdditions buffer records ++ (record.addition? buffer).toList := by
  rw [pendingAdditions, List.rtakeWhile_concat]
  by_cases h : record.empties buffer
  · simp [h]
  · rw [if_pos (by simp [h]), if_neg h, List.filterMap_append, List.filterMap_cons,
      List.filterMap_nil, pendingAdditions]
    cases record.addition? buffer <;> rfl

theorem accountedBy_nil (delimiters : Delimiters) : AccountedBy { delimiters } delimiters [] := by
  refine ⟨rfl, fun buffer => ?_, fun buffer addition haddition => ?_⟩
  · cases buffer <;> rfl
  · exact absurd haddition List.not_mem_nil

/-- A step is added with a warning exactly if it is not read back when another one follows it. -/
theorem warned_add_iff (builder : Builder) (buffer : Buffer) (step : Step) :
    Addition.Warned ⟨step, (builder.add buffer step).2⟩ ↔
      step.roundTrips builder.delimiters = false := by
  rw [Addition.Warned, add]
  by_cases h : step.roundTrips builder.delimiters <;> simp [h]

theorem AccountedBy.recordAdd {builder : Builder} {delimiters : Delimiters}
    {records : List Record} (h : AccountedBy builder delimiters records) (buffer : Buffer)
    (step : Step) :
    AccountedBy (builder.recordAdd buffer step).2 delimiters
      (records ++ [(builder.recordAdd buffer step).1]) := by
  have hrecord : (builder.recordAdd buffer step).1 =
      .added buffer ⟨step, (builder.add buffer step).2⟩ := rfl
  have hbuilder : (builder.recordAdd buffer step).2 =
      builder.withSteps buffer (builder.steps buffer ++ [step]) := rfl
  -- Only the buffer that the step goes to has something new to account for.
  have hpending (other : Buffer) :
      pendingAdditions other (records ++ [(builder.recordAdd buffer step).1]) =
        pendingAdditions other records ++
          if buffer = other then [⟨step, (builder.add buffer step).2⟩] else [] := by
    rw [hrecord, pendingAdditions_concat]
    by_cases hb : buffer = other <;> simp [Record.empties, Record.addition?, hb]
  refine ⟨?_, fun other => ?_, fun other addition haddition => ?_⟩
  · rw [hbuilder, delimiters_withSteps, h.delimiters_eq]
  · rw [hbuilder, steps_withSteps, hpending, List.map_append, ← h.steps_eq]
    by_cases hb : buffer = other <;> simp [hb]
  · rw [hpending, List.mem_append] at haddition
    rcases haddition with hold | hnew
    · exact h.warned_iff other addition hold
    · obtain ⟨-, rfl⟩ : buffer = other ∧ addition = ⟨step, (builder.add buffer step).2⟩ := by
        by_cases hb : buffer = other <;> simp_all
      rw [warned_add_iff, h.delimiters_eq]

/-- Emptying a buffer leaves nothing to account for in it, and the other one as it was. -/
theorem AccountedBy.emptied {builder : Builder} {delimiters : Delimiters} {records : List Record}
    (h : AccountedBy builder delimiters records) {buffer : Buffer} {record : Record}
    (hempties : ∀ other, record.empties other = decide (buffer = other))
    (hnone : ∀ other, record.addition? other = none) :
    AccountedBy (builder.withSteps buffer []) delimiters (records ++ [record]) := by
  have hpending (other : Buffer) : pendingAdditions other (records ++ [record]) =
      if buffer = other then [] else pendingAdditions other records := by
    rw [pendingAdditions_concat, hempties, hnone]
    by_cases hb : buffer = other <;> simp [hb]
  refine ⟨?_, fun other => ?_, fun other addition haddition => ?_⟩
  · rw [delimiters_withSteps, h.delimiters_eq]
  · rw [steps_withSteps, hpending]
    by_cases hb : buffer = other <;> simp [hb, h.steps_eq]
  · rw [hpending] at haddition
    by_cases hb : buffer = other
    · simp [hb] at haddition
    · exact h.warned_iff other addition (by simpa [hb] using haddition)

theorem AccountedBy.perform {builder : Builder} {delimiters : Delimiters} {records : List Record}
    (h : AccountedBy builder delimiters records) (operation : Operation) :
    AccountedBy (builder.perform operation).2 delimiters
      (records ++ [(builder.perform operation).1]) := by
  have hdrain (buffer : Buffer) : AccountedBy (builder.recordDrain buffer).2 delimiters
      (records ++ [(builder.recordDrain buffer).1]) :=
    h.emptied (fun _ => rfl) (fun _ => rfl)
  cases operation with
  | addStep buffer name args => exact h.recordAdd buffer _
  | filter name => exact h.recordAdd .filter _
  | filterWith name args => exact h.recordAdd .filter _
  | condition name => exact h.recordAdd .rule _
  | conditionWith name args => exact h.recordAdd .rule _
  | drain buffer => exact hdrain buffer
  | drainChain buffer => exact h.emptied (fun _ => rfl) (fun _ => rfl)
  | createFilter => exact hdrain .filter
  | createRule => exact hdrain .rule

theorem AccountedBy.run {builder : Builder} {delimiters : Delimiters} {records : List Record}
    (h : AccountedBy builder delimiters records) (operations : List Operation) :
    AccountedBy (builder.run operations).2 delimiters
      (records ++ (builder.run operations).1) := by
  induction operations generalizing builder records with
  | nil => simpa [Builder.run] using h
  | cons operation operations ih =>
    have hrest := ih (h.perform operation)
    rwa [List.append_assoc, List.singleton_append] at hrest

/-- Every record is made by one operation on the builder that the earlier ones left. -/
theorem exists_perform_of_run {builder : Builder} {operations : List Operation}
    {past future : List Record} {record : Record}
    (h : (builder.run operations).1 = past ++ record :: future) :
    ∃ before operation, (builder.run before).1 = past ∧
      ((builder.run before).2.perform operation).1 = record := by
  induction past generalizing builder operations with
  | nil =>
    cases operations with
    | nil => exact absurd h (List.cons_ne_nil _ _).symm
    | cons operation operations => exact ⟨[], operation, rfl, (List.cons.inj h).1⟩
  | cons first past ih =>
    cases operations with
    | nil => exact absurd h (List.cons_ne_nil _ _).symm
    | cons operation operations =>
      obtain ⟨hfirst, hrest⟩ := List.cons.inj h
      obtain ⟨before, last, hbefore, hlast⟩ := ih hrest
      exact ⟨operation :: before, last, congrArg₂ List.cons hfirst hbefore, hlast⟩

/-- Whatever operation hands over a text, the text renders what was collected. -/
theorem text_of_drained {builder : Builder} {operation : Operation} {buffer : Buffer}
    {text : String} (h : (builder.perform operation).1 = .drained buffer text) :
    text = Chain.render builder.delimiters ⟨builder.steps buffer⟩ := by
  have hdrain (other : Buffer) (hother : (builder.recordDrain other).1 = .drained buffer text) :
      text = Chain.render builder.delimiters ⟨builder.steps buffer⟩ := by
    have htext : (builder.recordDrain other).1 =
        .drained other (Chain.render builder.delimiters ⟨builder.steps other⟩) := by
      simp [recordDrain, drain, drainChain]
    obtain ⟨rfl, rfl⟩ := Record.drained.inj (htext.symm.trans hother)
    rfl
  cases operation with
  | drain other => exact hdrain other h
  | createFilter => exact hdrain .filter h
  | createRule => exact hdrain .rule h
  | _ => exact absurd h (by simp [perform, recordAdd, recordDrainChain])

/-- The warning is exact: a rule text none of whose steps was warned of is read back as these steps,
and one with a warned step that another step follows is not. -/
theorem warning_exact (delimiters : Delimiters) (operations : List Operation)
    (past future : List Record) (buffer : Buffer) (text : String)
    (hrun : (run { delimiters } operations).1 = past ++ .drained buffer text :: future)
    (hpending : pendingAdditions buffer past ≠ []) :
    ((∀ addition ∈ pendingAdditions buffer past, ¬ addition.Warned) →
      Chain.parse delimiters text = ⟨(pendingAdditions buffer past).map Addition.step⟩) ∧
    ((∃ addition ∈ (pendingAdditions buffer past).dropLast, addition.Warned) →
      Chain.parse delimiters text ≠ ⟨(pendingAdditions buffer past).map Addition.step⟩) := by
  -- The builder that handed over the text is accounted for by the records before it.
  obtain ⟨before, operation, hpast, hlast⟩ := exists_perform_of_run hrun
  have haccount := (accountedBy_nil delimiters).run before
  rw [List.nil_append, hpast] at haccount
  have htext := text_of_drained hlast
  rw [haccount.delimiters_eq, haccount.steps_eq] at htext
  have hsteps : (pendingAdditions buffer past).map Addition.step ≠ [] := by simpa using hpending
  have hiff := @Chain.parse_render_iff delimiters _ hsteps
  rw [← htext] at hiff
  have hwarned := haccount.warned_iff buffer
  constructor
  · intro hnone
    have hround : ∀ addition ∈ pendingAdditions buffer past,
        addition.step.roundTrips delimiters = true := by
      intro addition haddition
      have hnot := hnone addition haddition
      rwa [hwarned addition haddition, Bool.not_eq_false] at hnot
    refine hiff.mpr ⟨fun step hstep => ?_, fun step hstep => ?_⟩
    · obtain ⟨addition, haddition, rfl⟩ := List.mem_map.mp (List.mem_of_mem_dropLast hstep)
      exact hround addition haddition
    · obtain ⟨addition, haddition, rfl⟩ := List.mem_map.mp (List.mem_of_mem_getLast? hstep)
      exact Step.parse_of_roundTrips (hround addition haddition)
  · -- A step that another one follows would have passed the test that the warned one failed.
    rintro ⟨addition, haddition, hwarn⟩ hback
    have hstep : addition.step ∈ ((pendingAdditions buffer past).map Addition.step).dropLast := by
      rw [← List.map_dropLast]
      exact List.mem_map_of_mem haddition
    have hround := (hiff.mp hback).1 addition.step hstep
    rw [(hwarned addition (List.mem_of_mem_dropLast haddition)).mp hwarn] at hround
    exact Bool.false_ne_true hround

/-- A name that ends in half an args token is warned of, and its text is read differently; the
filters, handed over in between, have no part in it. -/
theorem warning_exact_len :
    let past : List Record := [.added .filter ⟨{ name := "trim" }, none⟩,
      .added .rule ⟨{ name := "len:", args := ["3"] }, some (.unfaithfulStep "len:" "len:::3")⟩,
      .added .rule ⟨{ name := "b" }, none⟩, .drained .filter "trim"]
    (run { delimiters := .standard } [.filter "trim", .conditionWith "len:" ["3"], .condition "b",
      .createFilter, .createRule]).1 = past ++ .drained .rule "len:::3->b" :: [] ∧
    pendingAdditions .rule past ≠ [] ∧
    (∃ addition ∈ (pendingAdditions .rule past).dropLast, addition.Warned) ∧
    Chain.parse .standard "len:::3->b" ≠ ⟨[{ name := "len:", args := ["3"] }, { name := "b" }]⟩ := by
  intro past
  have hrun : (run { delimiters := .standard } [.filter "trim", .conditionWith "len:" ["3"],
      .condition "b", .createFilter, .createRule]).1 =
        past ++ .drained .rule "len:::3->b" :: [] := by decide +kernel
  have hpending : pendingAdditions .rule past ≠ [] := by decide +kernel
  have hwarned : ∃ addition ∈ (pendingAdditions .rule past).dropLast, addition.Warned :=
    ⟨⟨{ name := "len:", args := ["3"] }, some (.unfaithfulStep "len:" "len:::3")⟩,
      by decide +kernel, "len:::3", rfl⟩
  exact ⟨hrun, hpending, hwarned,
    (warning_exact .standard _ past [] .rule _ hrun hpending).2 hwarned⟩

end ValueRules.Builder
