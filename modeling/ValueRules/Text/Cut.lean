/-!
Occurrences of a token in a text. `cut?` finds the leftmost one; `split` and `replace` work on the
pieces between all of them, taken from the left without overlap. `intercalate_split` says that no
character is lost.
-/

namespace ValueRules.Text

/-- What stands before and after the leftmost occurrence of `token`. -/
def cut? (token : List Char) : List Char → Option (List Char × List Char)
  | [] => if token = [] then some ([], []) else none
  | c :: rest =>
    if token.isPrefixOf (c :: rest) then some ([], (c :: rest).drop token.length)
    else (cut? token rest).map fun (before, after) => (c :: before, after)

theorem eq_append_of_cut? {token text before after : List Char}
    (h : cut? token text = some (before, after)) : text = before ++ token ++ after := by
  induction text generalizing before with
  | nil =>
    simp only [cut?] at h
    split at h <;> simp_all
  | cons c rest ih =>
    simp only [cut?] at h
    split at h
    · rename_i hp
      obtain ⟨tail, ht⟩ := List.isPrefixOf_iff_prefix.1 hp
      obtain ⟨rfl, rfl⟩ : [] = before ∧ (c :: rest).drop token.length = after := by simpa using h
      simp [← ht]
    · obtain ⟨⟨b, a⟩, hc, he⟩ := Option.map_eq_some_iff.1 h
      obtain ⟨rfl, rfl⟩ : c :: b = before ∧ a = after := by simpa using he
      simp [ih hc]

theorem length_lt_of_cut? {token text before after : List Char} (hne : token ≠ [])
    (h : cut? token text = some (before, after)) : after.length < text.length := by
  have hpos := List.length_pos_iff.2 hne
  simp only [eq_append_of_cut? h, List.length_append]
  omega

theorem cut?_isSome_iff {token text : List Char} : (cut? token text).isSome ↔ token <:+: text := by
  constructor
  · intro h
    obtain ⟨⟨before, after⟩, hc⟩ := Option.isSome_iff_exists.1 h
    exact ⟨before, after, (eq_append_of_cut? hc).symm⟩
  · induction text with
    | nil => intro h; simp [cut?, List.infix_nil.1 h]
    | cons c rest ih =>
      intro h
      simp only [cut?]
      split
      · rfl
      · rename_i hp
        rcases List.infix_cons_iff.1 h with h | h
        · exact absurd (List.isPrefixOf_iff_prefix.2 h) hp
        · simpa using ih h

/-- The pieces of `text` between the occurrences of `token`; an empty token leaves the text
whole. -/
def pieces (token text : List Char) : List (List Char) :=
  if _hne : token = [] then [text]
  else match _h : cut? token text with
    | none => [text]
    | some (before, after) => before :: pieces token after
termination_by text.length
decreasing_by exact length_lt_of_cut? _hne _h

theorem pieces_ne_nil (token text : List Char) : pieces token text ≠ [] := by
  rw [pieces]
  split
  · simp
  · split <;> simp

/-- Writing the token between the pieces gives the text back. -/
theorem intercalate_pieces (token text : List Char) :
    token.intercalate (pieces token text) = text := by
  fun_induction pieces token text with
  | case1 => simp
  | case2 => simp
  | case3 text _ before after h ih =>
    rw [List.intercalate_cons_of_ne_nil (pieces_ne_nil _ _), ih]
    simpa using (eq_append_of_cut? h).symm

/-- The token stands somewhere in the text. -/
def Occurs (token text : String) : Prop := token.toList <:+: text.toList

instance (token text : String) : Decidable (Occurs token text) :=
  decidable_of_iff _ cut?_isSome_iff

/-- How many characters stand before the leftmost occurrence of the token. -/
def position? (token text : String) : Option Nat :=
  (cut? token.toList text.toList).map (·.1.length)

/-- What stands before and after the leftmost occurrence of the token. -/
def splitOnce? (token text : String) : Option (String × String) :=
  (cut? token.toList text.toList).map fun (before, after) =>
    (String.ofList before, String.ofList after)

/-- The pieces of a text between the occurrences of the token. -/
def split (token text : String) : List String :=
  (pieces token.toList text.toList).map String.ofList

/-- Every occurrence of `old` gives way to `new`. -/
def replace (old new text : String) : String :=
  new.intercalate (split old text)

theorem eq_append_of_splitOnce? {token text before after : String}
    (h : splitOnce? token text = some (before, after)) : text = before ++ token ++ after := by
  obtain ⟨⟨b, a⟩, hc, he⟩ := Option.map_eq_some_iff.1 h
  obtain ⟨rfl, rfl⟩ : String.ofList b = before ∧ String.ofList a = after := by simpa using he
  simpa [← String.toList_inj] using eq_append_of_cut? hc

theorem split_ne_nil (token text : String) : split token text ≠ [] := by
  simp [split, pieces_ne_nil]

/-- Splitting loses no character. -/
theorem intercalate_split (token text : String) : token.intercalate (split token text) = text := by
  rw [← String.toList_inj, String.toList_intercalate, split, List.map_map]
  simp [Function.comp_def, intercalate_pieces]

end ValueRules.Text
