import Mathlib.Data.List.Induction
import Mathlib.Data.List.Nodup
import ValueRules.Proofs.Report.Failures

/-!
One report after another. The messages of the later one are inserted into those of the earlier one,
and `joined_recordAll` says that this is what recording its failures there would have given.
-/

namespace ValueRules

namespace Messages

/-- No name is listed twice. -/
def Distinct (messages : Messages) : Prop := (messages.map Prod.fst).Nodup

/-- The later messages inserted one by one. -/
def insertAll (messages later : Messages) : Messages :=
  later.foldl (fun messages message => insert message.1 message.2 messages) messages

theorem insertAll_cons (messages : Messages) (name : String) (found : List String)
    (later : Messages) :
    messages.insertAll ((name, found) :: later) = (insert name found messages).insertAll later :=
  rfl

theorem insertAll_concat (messages later : Messages) (name : String) (found : List String) :
    messages.insertAll (later ++ [(name, found)]) =
      insert name found (messages.insertAll later) := by
  rw [insertAll, List.foldl_append, List.foldl_cons, List.foldl_nil, insertAll]

theorem distinct_nil : Distinct [] := List.nodup_nil

theorem Distinct.insert {messages : Messages} (h : messages.Distinct) (name : String)
    (found : List String) : (insert name found messages).Distinct := by
  rw [Distinct, keys_insert]
  by_cases hmem : name ∈ messages.map Prod.fst
  · rwa [if_pos hmem]
  · rw [if_neg hmem]
    exact List.concat_eq_append ▸ h.concat hmem

theorem Distinct.insertAll {messages : Messages} (h : messages.Distinct) (later : Messages) :
    (messages.insertAll later).Distinct := by
  induction later generalizing messages with
  | nil => exact h
  | cons message later ih => exact ih (h.insert message.1 message.2)

/-- The names that were there keep their places, and the new ones follow. -/
theorem keys_insertAll (messages : Messages) {later : Messages} (h : later.Distinct) :
    (messages.insertAll later).map Prod.fst =
      messages.map Prod.fst ++
        (later.map Prod.fst).filter fun name => name ∉ messages.map Prod.fst := by
  induction later generalizing messages with
  | nil => simp [insertAll]
  | cons message later ih =>
    obtain ⟨name, found⟩ := message
    obtain ⟨hname, hlater⟩ := List.nodup_cons.mp h
    rw [insertAll_cons, ih _ hlater, keys_insert, List.map_cons]
    by_cases hmem : name ∈ messages.map Prod.fst
    · rw [if_pos hmem, List.filter_cons_of_neg (by simpa using hmem)]
    · rw [if_neg hmem, List.filter_cons_of_pos (by simpa using hmem), List.append_assoc,
        List.singleton_append]
      -- The name does not come again, so it may count among those that are there.
      have hrest : ∀ other ∈ later.map Prod.fst, other ≠ name := fun other hother heq =>
        hname (heq ▸ hother)
      have hfilter : ((later.map Prod.fst).filter fun other =>
          other ∉ messages.map Prod.fst ++ [name]) =
            (later.map Prod.fst).filter fun other => other ∉ messages.map Prod.fst := by
        refine List.filter_congr fun other hother => ?_
        simp [hrest other hother]
      rw [hfilter]

theorem get?_cons (messages : Messages) (key : String) (found : List String) (name : String) :
    get? ((key, found) :: messages) name = if name = key then some found else messages.get? name :=
  lookup_cons_eq name key found messages

theorem get?_eq_none_iff {messages : Messages} {name : String} :
    messages.get? name = none ↔ name ∉ messages.map Prod.fst := by
  induction messages with
  | nil => simp [get?]
  | cons message messages ih =>
    obtain ⟨key, found⟩ := message
    rw [get?_cons, List.map_cons, List.mem_cons]
    by_cases h : name = key
    · simp [h]
    · rw [if_neg h, ih, or_iff_right h]

/-- Of a name in both, the later messages count. -/
theorem get?_insertAll (messages : Messages) {later : Messages} (h : later.Distinct)
    (name : String) :
    (messages.insertAll later).get? name = (later.get? name).or (messages.get? name) := by
  induction later generalizing messages with
  | nil => rfl
  | cons message later ih =>
    obtain ⟨key, found⟩ := message
    obtain ⟨hkey, hlater⟩ := List.nodup_cons.mp h
    rw [insertAll_cons, ih _ hlater, get?_insert, get?_cons]
    -- The key is not among the later ones, so nothing overwrites what is found under it.
    by_cases heq : name = key
    · rw [if_pos heq, if_pos heq, get?_eq_none_iff.mpr (heq ▸ hkey), Option.none_or, Option.some_or]
    · rw [if_neg heq, if_neg heq]

/-- Messages are told by their names in order and by what is found under each. -/
theorem Distinct.eq_of_get? {messages others : Messages} (h : messages.Distinct)
    (hkeys : messages.map Prod.fst = others.map Prod.fst)
    (hget : ∀ name, messages.get? name = others.get? name) : messages = others := by
  induction messages generalizing others with
  | nil => exact (List.map_eq_nil_iff.mp hkeys.symm).symm
  | cons message messages ih =>
    cases others with
    | nil => exact absurd hkeys (List.cons_ne_nil _ _)
    | cons other others =>
      obtain ⟨name, found⟩ := message
      obtain ⟨key, earlier⟩ := other
      obtain ⟨hname, hrest⟩ := List.nodup_cons.mp h
      obtain ⟨rfl, htail⟩ := List.cons.inj hkeys
      obtain rfl : found = earlier := by
        have hfirst := hget name
        rw [get?_cons, get?_cons, if_pos rfl, if_pos rfl] at hfirst
        exact Option.some.inj hfirst
      refine congrArg _ (ih hrest htail fun asked => ?_)
      -- The first name is not asked for again, so both answers come from the rest.
      by_cases hasked : asked = name
      · subst hasked
        rw [get?_eq_none_iff.mpr hname, get?_eq_none_iff.mpr (htail ▸ hname)]
      · have hlater := hget asked
        rwa [get?_cons, get?_cons, if_neg hasked, if_neg hasked] at hlater

theorem Distinct.mem_iff {messages : Messages} (h : messages.Distinct) (name : String)
    (found : List String) : (name, found) ∈ messages ↔ messages.get? name = some found := by
  induction messages with
  | nil => simp [get?]
  | cons message messages ih =>
    obtain ⟨key, earlier⟩ := message
    obtain ⟨hkey, hrest⟩ := List.nodup_cons.mp h
    rw [get?_cons, List.mem_cons, ih hrest, Prod.mk.injEq]
    by_cases hname : name = key
    · -- The key is not listed behind, so only the first entry can be meant.
      have hlater : get? messages name ≠ some found := by
        rw [get?_eq_none_iff.mpr (hname ▸ hkey)]
        exact (Option.some_ne_none found).symm
      rw [if_pos hname, or_iff_left hlater, and_iff_right hname, Option.some.injEq, eq_comm]
    · rw [if_neg hname, or_iff_right fun h => hname h.1]

/-- Messages with the same answer to every name differ in their order only. -/
theorem Distinct.perm_of_get? {messages others : Messages} (h : messages.Distinct)
    (hothers : others.Distinct) (hget : ∀ name, messages.get? name = others.get? name) :
    messages.Perm others := by
  apply (List.perm_ext_iff_of_nodup (.of_map _ h) (.of_map _ hothers)).mpr
  rintro ⟨name, found⟩
  rw [h.mem_iff, hothers.mem_iff, hget]

theorem insertAll_insert {messages later : Messages} (hmessages : messages.Distinct)
    (hlater : later.Distinct) (name : String) (found : List String) :
    messages.insertAll (insert name found later) =
      insert name found (messages.insertAll later) := by
  refine (hmessages.insertAll _).eq_of_get? ?_ fun asked => ?_
  · rw [keys_insertAll messages (hlater.insert name found), keys_insert, keys_insert,
      keys_insertAll messages hlater]
    by_cases hold : name ∈ messages.map Prod.fst <;>
      by_cases hnew : name ∈ later.map Prod.fst <;> simp_all
  · rw [get?_insertAll messages (hlater.insert name found), get?_insert, get?_insert,
      get?_insertAll messages hlater]
    by_cases hasked : asked = name <;> simp [hasked]

/-- Messages gathered apart and inserted then are those that are inserted as they come. -/
theorem insertAll_gathered {messages : Messages} (h : messages.Distinct) (failures : Failures) :
    messages.insertAll (insertAll [] failures) = messages.insertAll failures := by
  induction failures using List.reverseRecOn with
  | nil => rfl
  | append_singleton failures failure ih =>
    obtain ⟨name, found⟩ := failure
    rw [insertAll_concat, insertAll_insert h (distinct_nil.insertAll failures), ih,
      insertAll_concat]

end Messages

/-- The same step, counted from the beginning of a chain that has `offset` steps before. -/
def Outcome.shift (offset : Nat) : Outcome → Outcome
  | exhausted => exhausted
  | skipped position => skipped (position + offset)

namespace Report

/-- The report on a chain and on a later one that was run behind its `offset` steps. -/
def joined (report : Report) (offset : Nat) (later : Report) : Report where
  valid := report.valid && later.valid
  messages := report.messages.insertAll later.messages
  outcome := later.outcome.shift offset

theorem messages_recordAll (report : Report) (failures : Failures) :
    (report.recordAll failures).messages = report.messages.insertAll failures := by
  induction failures generalizing report with
  | nil => rfl
  | cons failure failures ih => exact ih _

theorem distinct_recordAll (failures : Failures) :
    (recordAll {} failures).messages.Distinct := by
  rw [messages_recordAll]
  exact Messages.distinct_nil.insertAll failures

theorem valid_recordAll (report : Report) (failures : Failures) :
    (report.recordAll failures).valid = (report.valid && failures.isEmpty) := by
  induction failures generalizing report with
  | nil => simp [recordAll]
  | cons failure failures ih => exact (ih _).trans (by simp [recordFailure])

/-- Failures recorded in a report of their own, which is joined then, are those recorded at once. -/
theorem joined_recordAll {report : Report} (h : report.messages.Distinct) (offset : Nat)
    (failures : Failures) (outcome : Outcome) :
    report.joined offset { recordAll {} failures with outcome } =
      { report.recordAll failures with outcome := outcome.shift offset } := by
  simp only [joined, mk.injEq, messages_recordAll, valid_recordAll, Bool.true_and, and_true,
    true_and]
  exact Messages.insertAll_gathered h failures

end Report

end ValueRules
