import Mathlib.Data.Finset.Card
import Mathlib.Data.Finset.Image
import ValueRules.Text.Cut

/-!
Where a token stands in a text. `Closes token before` says that the token, written right after
`before`, begins nowhere earlier; this alone decides whether a text is cut there.
`pieces_intercalate_iff` says which pieces come back when they are joined and split again, and
`exists_leftmost` counts them by the occurrences of the token.
-/

namespace ValueRules.Text

/-- The token stands in the text after its first `i` characters. -/
def StandsAt (token text : List Char) (i : Nat) : Prop := token <+: text.drop i

/-- Written right after `before`, the token begins nowhere earlier. -/
def Closes (token before : List Char) : Prop :=
  ∀ i < before.length, ¬ StandsAt token (before ++ token) i

/-- The occurrences met from the left: one is passed over only if it begins inside an earlier one
that was met. -/
def Leftmost (token text : List Char) (starts : Finset Nat) : Prop :=
  ∀ i, i ∈ starts ↔ StandsAt token text i ∧ ∀ j ∈ starts, j < i → j + token.length ≤ i

theorem infix_iff_standsAt {token text : List Char} :
    token <:+: text ↔ ∃ i, StandsAt token text i := by
  constructor
  · rintro ⟨before, after, h⟩
    exact ⟨before.length, after, by simp [← h]⟩
  · rintro ⟨i, h⟩
    exact h.isInfix.trans (List.drop_suffix i text).isInfix

/-- What stands before a place has no part in what stands there. -/
theorem standsAt_append_right {token before text : List Char} (i : Nat) :
    StandsAt token (before ++ text) (before.length + i) ↔ StandsAt token text i := by
  have hdrop : (before ++ text).drop (before.length + i) = text.drop i := by
    rw [← List.drop_drop, List.drop_left]
  rw [StandsAt, hdrop, StandsAt]

/-- An occurrence that ends inside `text` does not depend on what follows. -/
theorem standsAt_append_left {token text after : List Char} {i : Nat}
    (h : i + token.length ≤ text.length) :
    StandsAt token (text ++ after) i ↔ StandsAt token text i := by
  rw [StandsAt, List.drop_append_of_le_length (by omega), StandsAt]
  constructor
  · intro hp
    apply List.prefix_of_prefix_length_le hp (List.prefix_append _ _)
    rw [List.length_drop]
    omega
  · intro hp
    exact hp.trans (List.prefix_append _ _)

theorem StandsAt.add_length_le {token text : List Char} {i : Nat} (h : StandsAt token text i)
    (htoken : token ≠ []) : i + token.length ≤ text.length := by
  have hlen := List.IsPrefix.length_le h
  have hpos := List.length_pos_iff.mpr htoken
  rw [List.length_drop] at hlen
  omega

/-- An occurrence that does not begin behind `before` ends before the end of `middle`, unless all of
`middle` stands in the token. -/
theorem StandsAt.infix_append {token before middle after : List Char} {i : Nat}
    (h : StandsAt token (before ++ (middle ++ after)) i) (hi : i ≤ before.length)
    (hmiddle : ¬ middle <:+: token) : token <:+: before ++ middle := by
  have hfits : i + token.length ≤ (before ++ middle).length := by
    by_contra hlong
    have hrest : (before ++ middle).drop i = before.drop i ++ middle :=
      List.drop_append_of_le_length hi
    have hwhole : (before ++ middle).drop i <+: (before ++ (middle ++ after)).drop i := by
      rw [← List.append_assoc]
      exact (List.prefix_append _ _).drop i
    -- The token is too long for what is left of both, so it begins with all of that.
    have hprefix : before.drop i ++ middle <+: token := by
      rw [← hrest]
      apply List.prefix_of_prefix_length_le hwhole h
      rw [List.length_drop]
      omega
    exact hmiddle ((List.suffix_append _ _).isInfix.trans hprefix.isInfix)
  rw [← List.append_assoc] at h
  exact infix_iff_standsAt.mpr ⟨i, (standsAt_append_left hfits).mp h⟩

theorem closes_nil (token : List Char) : Closes token [] := by
  intro i hi
  exact absurd hi (Nat.not_lt_zero i)

theorem closes_cons {token before : List Char} {c : Char} :
    Closes token (c :: before) ↔ ¬ token <+: c :: (before ++ token) ∧ Closes token before := by
  constructor
  · intro h
    refine ⟨h 0 (Nat.succ_pos _), fun i hi hs => h (i + 1) (Nat.succ_lt_succ hi) ?_⟩
    exact hs
  · rintro ⟨hzero, h⟩ i hi
    cases i with
    | zero => exact hzero
    | succ i => exact h i (Nat.lt_of_succ_lt_succ hi)

theorem closes_append {token before after : List Char} :
    Closes token (before ++ after) ↔
      (∀ i < before.length, ¬ StandsAt token (before ++ (after ++ token)) i) ∧
        Closes token after := by
  rw [Closes, List.append_assoc, List.length_append]
  constructor
  · intro h
    refine ⟨fun i hi => h i (by omega), fun i hi hs => ?_⟩
    exact h (before.length + i) (by omega) ((standsAt_append_right i).mpr hs)
  · rintro ⟨hbefore, hafter⟩ i hi hs
    by_cases hfront : i < before.length
    · exact hbefore i hfront hs
    · obtain ⟨k, rfl⟩ : ∃ k, i = before.length + k := ⟨i - before.length, by omega⟩
      exact hafter k (by omega) ((standsAt_append_right k).mp hs)

/-- A token that begins no earlier than after `before` does not stand in `before`. -/
theorem Closes.absent {token before : List Char} (h : Closes token before)
    (htoken : token ≠ []) : ¬ token <:+: before := by
  intro hinfix
  obtain ⟨i, hi⟩ := infix_iff_standsAt.mp hinfix
  have hlen := hi.add_length_le htoken
  have hpos := List.length_pos_iff.mpr htoken
  exact h i (by omega) ((standsAt_append_left hlen).mpr hi)

theorem cut?_append_self (token after : List Char) :
    cut? token (token ++ after) = some ([], after) := by
  cases token with
  | nil => cases after <;> simp [cut?]
  | cons c token =>
    have hprefix : (c :: token).isPrefixOf (c :: token ++ after) = true :=
      List.isPrefixOf_iff_prefix.mpr (List.prefix_append _ _)
    rw [List.cons_append] at hprefix ⊢
    rw [cut?, if_pos hprefix, ← List.cons_append, List.drop_left]

theorem Closes.cut?_append {token before : List Char} (h : Closes token before)
    (after : List Char) : cut? token (before ++ token ++ after) = some (before, after) := by
  induction before with
  | nil => exact cut?_append_self token after
  | cons c before ih =>
    obtain ⟨-, hclose⟩ := closes_cons.mp h
    -- At the front the token would have to end inside `before ++ token`, where it does not stand.
    have hle : 0 + token.length ≤ (c :: before ++ token).length := by
      rw [List.length_append]
      omega
    have hfront : ¬ StandsAt token (c :: before ++ token ++ after) 0 := fun hstands =>
      h 0 (Nat.succ_pos _) ((standsAt_append_left hle).mp hstands)
    have hprefix : ¬ token.isPrefixOf (c :: (before ++ token ++ after)) = true :=
      fun hp => hfront (List.isPrefixOf_iff_prefix.mp hp)
    rw [List.cons_append, List.cons_append, cut?, if_neg hprefix, ih hclose, Option.map_some]

theorem closes_of_cut? {token text before after : List Char}
    (h : cut? token text = some (before, after)) : Closes token before := by
  induction text generalizing before with
  | nil =>
    rw [cut?] at h
    split at h
    · obtain ⟨rfl, -⟩ : [] = before ∧ [] = after := by simpa using h
      exact closes_nil token
    · exact absurd h.symm (Option.some_ne_none _)
  | cons c rest ih =>
    rw [cut?] at h
    split at h
    · obtain ⟨rfl, -⟩ : [] = before ∧ (c :: rest).drop token.length = after := by simpa using h
      exact closes_nil token
    · rename_i hprefix
      obtain ⟨⟨b, a⟩, hrest, he⟩ := Option.map_eq_some_iff.mp h
      obtain ⟨rfl, rfl⟩ : c :: b = before ∧ a = after := by simpa using he
      refine closes_cons.mpr ⟨fun hp => hprefix (List.isPrefixOf_iff_prefix.mpr ?_), ih hrest⟩
      rw [eq_append_of_cut? hrest]
      exact hp.trans (List.prefix_append (c :: (b ++ token)) a)

theorem cut?_eq_some_iff {token text before after : List Char} :
    cut? token text = some (before, after) ↔
      text = before ++ token ++ after ∧ Closes token before := by
  constructor
  · intro h
    exact ⟨eq_append_of_cut? h, closes_of_cut? h⟩
  · rintro ⟨rfl, h⟩
    exact h.cut?_append after

theorem cut?_eq_none_iff {token text : List Char} : cut? token text = none ↔ ¬ token <:+: text := by
  rw [← cut?_isSome_iff, Option.not_isSome_iff_eq_none]

theorem pieces_of_absent {token text : List Char} (h : ¬ token <:+: text) :
    pieces token text = [text] := by
  have hcut := cut?_eq_none_iff.mpr h
  rw [pieces]
  split
  · rfl
  · split <;> simp_all

theorem pieces_append {token before : List Char} (after : List Char) (htoken : token ≠ [])
    (h : Closes token before) :
    pieces token (before ++ token ++ after) = before :: pieces token after := by
  have hcut := h.cut?_append after
  rw [pieces, dif_neg htoken]
  split <;> simp_all

/-- A text that holds the token is cut before and after it. -/
theorem exists_pieces_eq_cons {token text : List Char} (htoken : token ≠ [])
    (h : token <:+: text) :
    ∃ before after, text = before ++ token ++ after ∧ Closes token before ∧
      pieces token text = before :: pieces token after := by
  obtain ⟨⟨before, after⟩, hcut⟩ := Option.isSome_iff_exists.mp (cut?_isSome_iff.mpr h)
  obtain ⟨rfl, hclose⟩ := cut?_eq_some_iff.mp hcut
  exact ⟨before, after, rfl, hclose, pieces_append after htoken hclose⟩

/-- Joined pieces come back exactly if the token closes every piece but the last and does not stand
in the last one. -/
theorem pieces_intercalate_iff {token : List Char} {parts : List (List Char)} (htoken : token ≠ [])
    (hparts : parts ≠ []) :
    pieces token (token.intercalate parts) = parts ↔
      (∀ part ∈ parts.dropLast, Closes token part) ∧
        ∀ part ∈ parts.getLast?, ¬ token <:+: part := by
  induction parts with
  | nil => exact absurd rfl hparts
  | cons first others ih =>
    cases others with
    | nil =>
      constructor
      · intro h
        refine ⟨by simp, ?_⟩
        rintro part hpart hinfix
        obtain rfl : first = part := by simpa using hpart
        obtain ⟨before, after, -, -, hcons⟩ := exists_pieces_eq_cons htoken hinfix
        rw [List.intercalate_singleton, hcons] at h
        exact pieces_ne_nil token after (List.cons.inj h).2
      · rintro ⟨-, h⟩
        rw [List.intercalate_singleton]
        exact pieces_of_absent (h first (by simp))
    | cons second others =>
      have hjoin : token.intercalate (first :: second :: others) =
          first ++ token ++ token.intercalate (second :: others) := by
        rw [List.intercalate_cons_cons]
      -- The first cut decides about the first piece; the others are joined on their own.
      rw [hjoin, List.dropLast_cons_cons, List.forall_mem_cons, List.getLast?_cons_cons, and_assoc,
        ← ih (List.cons_ne_nil _ _)]
      constructor
      · intro h
        have hinfix : token <:+: first ++ token ++ token.intercalate (second :: others) :=
          ⟨first, _, rfl⟩
        obtain ⟨before, after, htext, hclose, hcons⟩ := exists_pieces_eq_cons htoken hinfix
        obtain ⟨rfl, htail⟩ := List.cons.inj (hcons.symm.trans h)
        have hafter : token.intercalate (second :: others) = after :=
          List.append_cancel_left htext
        exact ⟨hclose, hafter ▸ htail⟩
      · rintro ⟨hclose, htail⟩
        rw [pieces_append _ htoken hclose, htail]

/-- No piece holds the token. -/
theorem not_infix_of_mem_pieces {token text piece : List Char} (htoken : token ≠ [])
    (h : piece ∈ pieces token text) : ¬ token <:+: piece := by
  have hback : pieces token (token.intercalate (pieces token text)) = pieces token text := by
    rw [intercalate_pieces]
  obtain ⟨hclose, hlast⟩ := (pieces_intercalate_iff htoken (pieces_ne_nil token text)).mp hback
  rw [← List.dropLast_append_getLast (pieces_ne_nil token text), List.mem_append,
    List.mem_singleton] at h
  rcases h with h | rfl
  · exact (hclose piece h).absent htoken
  · exact hlast _ (List.getLast_mem_getLast? _)

theorem Leftmost.unique {token text : List Char} {starts others : Finset Nat}
    (h : Leftmost token text starts) (h' : Leftmost token text others) : starts = others := by
  -- Whether a place is met depends on the earlier places only.
  have hagree : ∀ i, i ∈ starts ↔ i ∈ others := by
    intro i
    induction i using Nat.strong_induction_on with
    | _ i ih =>
      rw [h i, h' i]
      refine and_congr_right fun _ => ⟨fun hs j hj hji => ?_, fun hs j hj hji => ?_⟩
      · exact hs j ((ih j hji).mpr hj) hji
      · exact hs j ((ih j hji).mp hj) hji
  exact Finset.ext hagree

theorem leftmost_of_absent {token text : List Char} (h : ¬ token <:+: text) :
    Leftmost token text ∅ := by
  intro i
  refine ⟨fun hi => absurd hi (Finset.notMem_empty i), fun hi => ?_⟩
  exact absurd (infix_iff_standsAt.mpr ⟨i, hi.1⟩) h

/-- The first occurrence is met, and then those met in what follows it. -/
theorem Leftmost.append {token before after : List Char} {starts : Finset Nat} (htoken : token ≠ [])
    (hclose : Closes token before) (h : Leftmost token after starts) :
    Leftmost token (before ++ token ++ after)
      (insert before.length (starts.image ((before ++ token).length + ·))) := by
  have hpos := List.length_pos_iff.mpr htoken
  have hlen : (before ++ token).length = before.length + token.length := List.length_append
  have hfirst : StandsAt token (before ++ token ++ after) before.length :=
    (standsAt_append_left hlen.ge).mpr ((standsAt_append_right 0).mpr (List.prefix_refl token))
  intro i
  rw [Finset.mem_insert, Finset.mem_image]
  constructor
  · rintro (rfl | ⟨k, hk, rfl⟩)
    · refine ⟨hfirst, fun j hj hji => ?_⟩
      rcases Finset.mem_insert.mp hj with rfl | hj
      · omega
      · obtain ⟨k, -, rfl⟩ := Finset.mem_image.mp hj
        omega
    · obtain ⟨hstands, hearlier⟩ := (h k).mp hk
      refine ⟨(standsAt_append_right k).mpr hstands, fun j hj hjk => ?_⟩
      rcases Finset.mem_insert.mp hj with rfl | hj
      · omega
      · obtain ⟨m, hm, rfl⟩ := Finset.mem_image.mp hj
        have := hearlier m hm (by omega)
        omega
  · rintro ⟨hstands, hearlier⟩
    -- Before the first occurrence there is none, and behind it a place is only shifted.
    rcases lt_trichotomy i before.length with hi | hi | hi
    · exact absurd ((standsAt_append_left (by omega)).mp hstands) (hclose i hi)
    · exact Or.inl hi
    · have hafter : before.length + token.length ≤ i :=
        hearlier _ (Finset.mem_insert_self _ _) hi
      obtain ⟨k, rfl⟩ : ∃ k, i = (before ++ token).length + k :=
        ⟨i - (before ++ token).length, by omega⟩
      refine Or.inr ⟨k, (h k).mpr ⟨(standsAt_append_right k).mp hstands, fun m hm hmk => ?_⟩, rfl⟩
      have := hearlier _ (Finset.mem_insert_of_mem (Finset.mem_image_of_mem _ hm)) (by omega)
      omega

/-- There is one more piece than occurrences met from the left. -/
theorem exists_leftmost {token : List Char} (text : List Char) (htoken : token ≠ []) :
    ∃ starts, Leftmost token text starts ∧ (pieces token text).length = starts.card + 1 := by
  fun_induction pieces token text with
  | case1 => contradiction
  | case2 text _ hcut =>
    exact ⟨∅, leftmost_of_absent (cut?_eq_none_iff.mp hcut), by simp⟩
  | case3 text _ before after hcut ih =>
    obtain ⟨rfl, hclose⟩ := cut?_eq_some_iff.mp hcut
    obtain ⟨starts, hstarts, hcard⟩ := ih
    refine ⟨_, hstarts.append htoken hclose, ?_⟩
    have hpos := List.length_pos_iff.mpr htoken
    have hnew : before.length ∉ starts.image ((before ++ token).length + ·) := by
      simp only [Finset.mem_image, List.length_append]
      omega
    rw [Finset.card_insert_of_notMem hnew,
      Finset.card_image_of_injective _ fun _ _ => Nat.add_left_cancel, List.length_cons, hcard]

theorem not_occurs_empty {token : String} (htoken : token ≠ "") : ¬ Occurs token "" := by
  simpa [Occurs] using htoken

theorem Occurs.trans {inner middle outer : String} (h : Occurs inner middle)
    (h' : Occurs middle outer) : Occurs inner outer :=
  List.IsInfix.trans h h'

theorem splitOnce?_eq_some_iff {token text before after : String} :
    splitOnce? token text = some (before, after) ↔
      text = before ++ token ++ after ∧ Closes token.toList before.toList := by
  rw [splitOnce?, Option.map_eq_some_iff]
  constructor
  · rintro ⟨⟨b, a⟩, hcut, he⟩
    obtain ⟨rfl, rfl⟩ : String.ofList b = before ∧ String.ofList a = after := by simpa using he
    obtain ⟨htext, hclose⟩ := cut?_eq_some_iff.mp hcut
    exact ⟨by simpa [← String.toList_inj] using htext, by simpa using hclose⟩
  · rintro ⟨rfl, hclose⟩
    exact ⟨(before.toList, after.toList), cut?_eq_some_iff.mpr ⟨by simp, hclose⟩, by simp⟩

theorem splitOnce?_eq_none_iff {token text : String} :
    splitOnce? token text = none ↔ ¬ Occurs token text := by
  rw [splitOnce?, Option.map_eq_none_iff, cut?_eq_none_iff, Occurs]

theorem position?_append_self_iff {token text : String} :
    position? token (text ++ token) = some text.length ↔
      Closes token.toList text.toList := by
  rw [position?, String.toList_append, Option.map_eq_some_iff]
  constructor
  · rintro ⟨⟨before, after⟩, hcut, hlength⟩
    obtain ⟨htext, hclose⟩ := cut?_eq_some_iff.mp hcut
    -- Only the text itself is that long and stands at the front.
    have hbefore : text.toList = before := by
      rw [List.append_assoc] at htext
      exact List.append_inj_left htext (by rw [String.length_toList, ← hlength])
    rwa [hbefore]
  · intro hclose
    have hcut := hclose.cut?_append []
    rw [List.append_nil] at hcut
    exact ⟨_, hcut, String.length_toList⟩

theorem infix_intercalate_of_mem (token : List Char) {parts : List (List Char)} {part : List Char}
    (h : part ∈ parts) : part <:+: token.intercalate parts := by
  induction parts with
  | nil => exact absurd h List.not_mem_nil
  | cons first others ih =>
    cases others with
    | nil =>
      obtain rfl : part = first := List.mem_singleton.mp h
      rw [List.intercalate_singleton]
    | cons second others =>
      rw [List.intercalate_cons_cons]
      rcases List.mem_cons.mp h with rfl | h
      · exact ((List.prefix_append _ _).trans (List.prefix_append _ _)).isInfix
      · exact (ih h).trans (List.suffix_append _ _).isInfix

/-- What is between two occurrences of the token stands in the text. -/
theorem occurs_of_mem_split {token text piece : String} (h : piece ∈ split token text) :
    Occurs piece text := by
  obtain ⟨part, hpart, rfl⟩ := List.mem_map.mp h
  have hinfix := infix_intercalate_of_mem token.toList hpart
  rw [intercalate_pieces] at hinfix
  simpa [Occurs] using hinfix

theorem not_occurs_of_mem_split {token text piece : String} (htoken : token ≠ "")
    (h : piece ∈ split token text) : ¬ Occurs token piece := by
  obtain ⟨part, hpart, rfl⟩ := List.mem_map.mp h
  rw [Occurs, String.toList_ofList]
  exact not_infix_of_mem_pieces (by simpa using htoken) hpart

theorem split_append {token before : String} (after : String) (htoken : token ≠ "")
    (h : Closes token.toList before.toList) :
    split token (before ++ token ++ after) = before :: split token after := by
  have hlists : token.toList ≠ [] := by simpa using htoken
  rw [split, String.toList_append, String.toList_append, pieces_append _ hlists h, List.map_cons,
    String.ofList_toList, split]

theorem split_intercalate_iff {token : String} (parts : List String) (htoken : token ≠ "")
    (hparts : parts ≠ []) :
    split token (token.intercalate parts) = parts ↔
      (∀ part ∈ parts.dropLast, Closes token.toList part.toList) ∧
        ∀ part ∈ parts.getLast?, ¬ Occurs token part := by
  have hinv : (parts.map String.toList).map String.ofList = parts := by
    simp [Function.comp_def]
  have hlists : split token (token.intercalate parts) = parts ↔
      pieces token.toList (token.toList.intercalate (parts.map String.toList)) =
        parts.map String.toList := by
    rw [split, String.toList_intercalate]
    constructor
    · intro h
      have hback := congrArg (List.map String.toList) h
      simpa [Function.comp_def] using hback
    · intro h
      rw [h, hinv]
  rw [hlists, pieces_intercalate_iff (by simpa using htoken) (by simpa using hparts),
    ← List.map_dropLast, List.forall_mem_map, List.getLast?_map, Option.forall_mem_map]
  rfl

end ValueRules.Text
