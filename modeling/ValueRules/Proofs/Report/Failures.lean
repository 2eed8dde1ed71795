import ValueRules.Report

/-!
What a report tells of the failures recorded in it. `Report.SumsUp` says it of any sequence of
failures, with names failing more than once; recording one more failure keeps it.
-/

namespace ValueRules

/-- Failures in the order in which they happened, each with the name that failed. -/
abbrev Failures := List (String × List String)

namespace Messages

theorem keys_insert (name : String) (found : List String) (messages : Messages) :
    (insert name found messages).map Prod.fst =
      if name ∈ messages.map Prod.fst then messages.map Prod.fst
      else messages.map Prod.fst ++ [name] := by
  induction messages with
  | nil => rfl
  | cons message rest ih =>
    obtain ⟨other, earlier⟩ := message
    by_cases h : other = name
    · simp [insert, h]
    · have hne : name ≠ other := fun hname => h hname.symm
      rw [insert, if_neg h, List.map_cons, List.map_cons, ih]
      by_cases hmem : name ∈ rest.map Prod.fst
      · rw [if_pos hmem, if_pos (List.mem_cons_of_mem _ hmem)]
      · rw [if_neg hmem, if_neg (List.not_mem_cons_of_ne_of_not_mem hne hmem), List.cons_append]

theorem lookup_cons_eq (name key : String) (found : List String) (rest : Messages) :
    List.lookup name ((key, found) :: rest) =
      if name = key then some found else rest.lookup name := by
  rw [List.lookup_cons]
  by_cases h : name = key
  · rw [if_pos h, beq_iff_eq.mpr h]
  · rw [if_neg h, beq_eq_false_iff_ne.mpr h]

theorem get?_insert (name other : String) (found : List String) (messages : Messages) :
    (insert name found messages).get? other =
      if other = name then some found else messages.get? other := by
  induction messages with
  | nil => rw [insert, get?, lookup_cons_eq, get?]
  | cons message rest ih =>
    obtain ⟨key, earlier⟩ := message
    rw [get?, get?] at ih ⊢
    by_cases hkey : key = name
    · rw [insert, if_pos hkey, lookup_cons_eq, lookup_cons_eq, hkey]
      by_cases h : other = name
      · rw [if_pos h, if_pos h]
      · rw [if_neg h, if_neg h, if_neg h]
    · rw [insert, if_neg hkey, lookup_cons_eq, lookup_cons_eq, ih]
      by_cases h : other = name
      · rw [if_pos h, if_neg (h ▸ Ne.symm hkey), if_pos h]
      · rw [if_neg h, if_neg h]

end Messages

namespace Report

/-- The report is valid if nothing failed; it lists every name that failed once, by its first
failure, and keeps for it the messages of its last one. -/
structure SumsUp (report : Report) (failures : Failures) : Prop where
  valid_iff : report.valid = true ↔ failures = []
  keys_eq : report.messages.map Prod.fst = (failures.map Prod.fst).eraseDups
  get?_eq : ∀ name, report.messages.get? name = failures.reverse.lookup name

/-- Records failures one after another. -/
def recordAll (report : Report) (failures : Failures) : Report :=
  failures.foldl (fun report failure => report.recordFailure failure.1 failure.2) report

theorem sumsUp_nil : SumsUp {} [] :=
  ⟨by simp, rfl, fun _ => rfl⟩

/-- A failure without messages makes the report invalid like any other. -/
theorem SumsUp.valid_eq_false_iff {report : Report} {failures : Failures}
    (h : report.SumsUp failures) : report.valid = false ↔ report.messages ≠ [] := by
  have hkeys : report.messages = [] ↔ failures = [] := by
    rw [← List.map_eq_nil_iff, h.keys_eq]
    cases failures <;> simp [List.eraseDups_cons]
  rw [Ne, hkeys, ← h.valid_iff, Bool.not_eq_true]

theorem eraseDups_concat (keys : List String) (key : String) :
    (keys ++ [key]).eraseDups =
      if key ∈ keys then keys.eraseDups else keys.eraseDups ++ [key] := by
  rw [List.eraseDups_append]
  by_cases h : key ∈ keys <;> simp [List.removeAll, h, List.eraseDups_cons]

theorem SumsUp.recordFailure {report : Report} {failures : Failures} (h : report.SumsUp failures)
    (name : String) (found : List String) :
    (report.recordFailure name found).SumsUp (failures ++ [(name, found)]) := by
  refine ⟨by simp [Report.recordFailure], ?_, fun other => ?_⟩
  · rw [List.map_append, List.map_singleton, eraseDups_concat, ← h.keys_eq]
    have hmem : name ∈ report.messages.map Prod.fst ↔ name ∈ failures.map Prod.fst := by
      rw [h.keys_eq, List.mem_eraseDups]
    rw [Report.recordFailure, Messages.keys_insert]
    simp only [hmem]
  · rw [Report.recordFailure, Messages.get?_insert, h.get?_eq, List.reverse_append,
      List.reverse_singleton, List.singleton_append, Messages.lookup_cons_eq]

theorem SumsUp.recordAll {report : Report} {past : Failures} (h : report.SumsUp past)
    (failures : Failures) : (report.recordAll failures).SumsUp (past ++ failures) := by
  induction failures generalizing report past with
  | nil => simpa [Report.recordAll] using h
  | cons failure failures ih =>
    have hrest := ih (h.recordFailure failure.1 failure.2)
    rwa [List.append_assoc, List.singleton_append] at hrest

theorem recordAll_append (report : Report) (first rest : Failures) :
    report.recordAll (first ++ rest) = (report.recordAll first).recordAll rest :=
  List.foldl_append

theorem outcome_recordAll (report : Report) (failures : Failures) :
    (report.recordAll failures).outcome = report.outcome := by
  induction failures generalizing report with
  | nil => rfl
  | cons failure failures ih => exact ih _

end Report

end ValueRules
