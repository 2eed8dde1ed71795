import Mathlib.Data.List.Nodup
import ValueRules.Pattern.Cache

/-!
What a cache of patterns holds and gives. A call that is answered from the cache or fails leaves it
as it is; any other keeps its pattern and costs at most one entry of a full cache. So the cache
stays small and holds nothing but what compiling gives (`Cache.Sound`), and no call can tell that it
is there (`Cache.Serves`).
-/

namespace ValueRules.Pattern

variable {ε α : Type} {compile : String → Except ε α}

theorem limited_of_le {text : String} (h : text.utf8ByteSize ≤ greatestLength) :
    limited compile text = (compile text).mapError .malformed := by
  rw [limited, if_neg (Nat.not_lt.mpr h)]

theorem limited_of_lt {text : String} (h : greatestLength < text.utf8ByteSize) :
    limited compile text = .error .tooLong := by
  rw [limited, if_pos h]

theorem limited_eq_ok_iff {text : String} {compiled : α} :
    limited compile text = .ok compiled ↔
      text.utf8ByteSize ≤ greatestLength ∧ compile text = .ok compiled := by
  by_cases hfits : text.utf8ByteSize ≤ greatestLength
  · rw [limited_of_le hfits]
    cases compile text <;> simp [Except.mapError, hfits]
  · simp [limited_of_lt (Nat.not_le.mp hfits), hfits]

namespace Cache

def keys (cache : Cache α) : List String := cache.entries.map Prod.fst

/-- A cache of at most a hundred patterns, each compiled from its text. -/
structure Sound (compile : String → Except ε α) (cache : Cache α) : Prop where
  length_le : cache.entries.length ≤ capacity
  nodup : cache.keys.Nodup
  fits : ∀ entry ∈ cache.entries, entry.1.utf8ByteSize ≤ greatestLength
  compiled : ∀ entry ∈ cache.entries, compile entry.1 = .ok entry.2

theorem find?_eq_none_iff {cache : Cache α} {text : String} :
    cache.find? text = none ↔ text ∉ cache.keys := by
  rw [find?, List.lookup_eq_none_iff, keys]
  constructor
  · intro h hmem
    obtain ⟨entry, hentry, rfl⟩ := List.mem_map.mp hmem
    exact absurd (h entry hentry) (by simp)
  · intro h entry hentry
    exact bne_iff_ne.mpr fun heq => h (List.mem_map.mpr ⟨entry, hentry, heq.symm⟩)

theorem mem_of_find? {cache : Cache α} {text : String} {compiled : α}
    (h : cache.find? text = some compiled) : (text, compiled) ∈ cache.entries := by
  obtain ⟨front, back, hentries, -⟩ := List.lookup_eq_some_iff.mp h
  rw [hentries]
  exact List.mem_append_right _ List.mem_cons_self

theorem find?_insert (cache : Cache α) (text other : String) (compiled : α) :
    (cache.insert text compiled).find? other =
      if other = text then some compiled else cache.find? other := by
  rw [find?, insert, List.lookup_cons, find?]
  by_cases h : other = text
  · rw [if_pos h, beq_iff_eq.mpr h]
  · rw [if_neg h, beq_eq_false_iff_ne.mpr h]

/-- A full cache loses the entry that is picked, and no other. -/
theorem exists_makeRoom {cache : Cache α} (hfull : cache.entries.length = capacity) (pick : ℕ) :
    ∃ front dropped back, cache.entries = front ++ dropped :: back ∧
      front.length = pick % capacity ∧ cache.makeRoom pick = ⟨front ++ back⟩ := by
  have hpick : pick % capacity < cache.entries.length := by
    rw [hfull]
    exact Nat.mod_lt _ (by decide)
  refine ⟨cache.entries.take (pick % capacity), cache.entries[pick % capacity],
    cache.entries.drop (pick % capacity + 1), ?_, ?_, ?_⟩
  · rw [← List.drop_eq_getElem_cons hpick, List.take_append_drop]
  · exact List.length_take_of_le (Nat.le_of_lt hpick)
  · rw [makeRoom, if_neg (by omega), hfull, List.eraseIdx_eq_take_drop_succ]

/-- The entry that gave way is gone, and look-ups of other texts do not notice. -/
theorem find?_of_dropped {front back : List (String × α)} {dropped : String × α}
    (h : ((front ++ dropped :: back).map Prod.fst).Nodup) (other : String) :
    find? ⟨front ++ back⟩ other =
      if other = dropped.1 then none else find? ⟨front ++ dropped :: back⟩ other := by
  by_cases hother : other = dropped.1
  · rw [if_pos hother, find?_eq_none_iff, keys, hother]
    rw [List.map_append, List.map_cons, List.nodup_middle, List.nodup_cons] at h
    rw [List.map_append]
    exact h.1
  · rw [if_neg hother, find?, find?, List.lookup_append, List.lookup_append, List.lookup_cons,
      beq_eq_false_iff_ne.mpr hother]

/-- A pattern that is new and compiles is brought into the cache. -/
theorem fetch_of_new {cache : Cache α} {text : String} {compiled : α}
    (hnew : cache.find? text = none) (hok : limited compile text = .ok compiled) (pick : ℕ) :
    cache.fetch compile pick text =
      (.ok compiled, (cache.makeRoom pick).insert text compiled) := by
  obtain ⟨hfits, hcompile⟩ := limited_eq_ok_iff.mp hok
  rw [fetch, if_neg (Nat.not_lt.mpr hfits)]
  simp only [hnew, hcompile]

/-- A call fails, is answered from the cache or brings its pattern into it. -/
theorem fetch_cases (compile : String → Except ε α) (cache : Cache α) (pick : ℕ)
    (text : String) :
    (∃ refusal, limited compile text = .error refusal ∧
      cache.fetch compile pick text = (.error refusal, cache)) ∨
    (∃ compiled, cache.find? text = some compiled ∧
      cache.fetch compile pick text = (.ok compiled, cache)) ∨
    ∃ compiled, cache.find? text = none ∧ limited compile text = .ok compiled ∧
      cache.fetch compile pick text =
        (.ok compiled, (cache.makeRoom pick).insert text compiled) := by
  by_cases hlong : greatestLength < text.utf8ByteSize
  · left
    refine ⟨.tooLong, limited_of_lt hlong, ?_⟩
    rw [fetch, if_pos hlong]
  · rw [fetch, if_neg hlong, limited_of_le (Nat.not_lt.mp hlong)]
    cases hfind : cache.find? text with
    | some compiled => exact Or.inr (Or.inl ⟨compiled, rfl, rfl⟩)
    | none =>
      cases hcompile : compile text with
      | error error => exact Or.inl ⟨.malformed error, rfl, rfl⟩
      | ok compiled => exact Or.inr (Or.inr ⟨compiled, rfl, rfl, rfl⟩)

theorem sound_empty (compile : String → Except ε α) : Sound compile {} :=
  ⟨Nat.zero_le _, List.nodup_nil, by simp, by simp⟩

namespace Sound

variable {cache : Cache α}

theorem limited_of_find? (h : Sound compile cache) {text : String} {compiled : α}
    (hfind : cache.find? text = some compiled) : limited compile text = .ok compiled := by
  have hmem := mem_of_find? hfind
  exact limited_eq_ok_iff.mpr ⟨h.fits _ hmem, h.compiled _ hmem⟩

/-- What is left after an entry gave way is sound, and there is room for one more. -/
theorem makeRoom (h : Sound compile cache) (pick : ℕ) :
    Sound compile (cache.makeRoom pick) ∧ (cache.makeRoom pick).entries.length < capacity ∧
      (cache.makeRoom pick).keys.Sublist cache.keys := by
  by_cases hroom : cache.entries.length < capacity
  · rw [Cache.makeRoom, if_pos hroom]
    exact ⟨h, hroom, List.Sublist.refl _⟩
  · have hfull := Nat.le_antisymm h.length_le (Nat.not_lt.mp hroom)
    obtain ⟨front, dropped, back, hentries, -, hafter⟩ := exists_makeRoom hfull pick
    have hsublist : (front ++ back).Sublist cache.entries := by
      rw [hentries]
      exact List.Sublist.append_left (List.sublist_cons_self dropped back) front
    have hlength : (front ++ back).length < capacity := by
      rw [← hfull, hentries]
      simp only [List.length_append, List.length_cons]
      omega
    rw [hafter]
    refine ⟨⟨Nat.le_of_lt hlength, h.nodup.sublist (hsublist.map _), ?_, ?_⟩, hlength,
      hsublist.map _⟩
    · intro entry hentry
      exact h.fits entry (hsublist.subset hentry)
    · intro entry hentry
      exact h.compiled entry (hsublist.subset hentry)

theorem insert (h : Sound compile cache) {text : String} {compiled : α}
    (hroom : cache.entries.length < capacity) (hnew : text ∉ cache.keys)
    (hok : limited compile text = .ok compiled) : Sound compile (cache.insert text compiled) := by
  obtain ⟨hfits, hcompile⟩ := limited_eq_ok_iff.mp hok
  refine ⟨hroom, List.nodup_cons.mpr ⟨hnew, h.nodup⟩, ?_, ?_⟩
  · intro entry hentry
    rcases List.mem_cons.mp hentry with rfl | hentry
    · exact hfits
    · exact h.fits entry hentry
  · intro entry hentry
    rcases List.mem_cons.mp hentry with rfl | hentry
    · exact hcompile
    · exact h.compiled entry hentry

theorem fetch (h : Sound compile cache) (pick : ℕ) (text : String) :
    Sound compile (cache.fetch compile pick text).2 := by
  rcases fetch_cases compile cache pick text with ⟨refusal, -, hfetch⟩ | ⟨compiled, -, hfetch⟩ |
    ⟨compiled, hfind, hok, hfetch⟩
  · rw [hfetch]
    exact h
  · rw [hfetch]
    exact h
  · -- Making room only drops keys, so the text is still not one of them.
    rw [hfetch]
    obtain ⟨hsound, hroom, hkeys⟩ := h.makeRoom pick
    have hnew : text ∉ (cache.makeRoom pick).keys := fun hmem =>
      find?_eq_none_iff.mp hfind (hkeys.subset hmem)
    exact hsound.insert hroom hnew hok

theorem fetch_eq_limited (h : Sound compile cache) (pick : ℕ) (text : String) :
    (cache.fetch compile pick text).1 = limited compile text := by
  rcases fetch_cases compile cache pick text with ⟨refusal, hrefusal, hfetch⟩ |
    ⟨compiled, hfind, hfetch⟩ | ⟨compiled, -, hok, hfetch⟩
  · rw [hfetch, hrefusal]
  · rw [hfetch, h.limited_of_find? hfind]
  · rw [hfetch, hok]

end Sound

/-- What one call gives and what it makes of the cache. -/
structure Serves (compile : String → Except ε α) (cache : Cache α) (pick : ℕ)
    (text : String) : Prop where
  result_eq : (cache.fetch compile pick text).1 = limited compile text
  unchanged : (cache.find? text).isSome ∨ (∃ refusal, limited compile text = .error refusal) →
    (cache.fetch compile pick text).2 = cache
  kept : ∀ compiled, limited compile text = .ok compiled →
    (cache.fetch compile pick text).2.find? text = some compiled
  others : (∀ other, other ≠ text →
      (cache.fetch compile pick text).2.find? other = cache.find? other) ∨
    cache.entries.length = capacity ∧ ∃ dropped ∈ cache.keys, ∀ other, other ≠ text →
      (cache.fetch compile pick text).2.find? other =
        if other = dropped then none else cache.find? other

/-- Every entry of a full cache is the one that some pick drops. -/
theorem exists_makeRoom_dropping {cache : Cache α} (h : cache.keys.Nodup)
    (hfull : cache.entries.length = capacity) {key : String} (hkey : key ∈ cache.keys) :
    ∃ pick, (cache.makeRoom pick).find? key = none := by
  obtain ⟨index, hindex, rfl⟩ := List.mem_iff_getElem.mp hkey
  have hlt : index < capacity := by
    rwa [keys, List.length_map, hfull] at hindex
  obtain ⟨front, dropped, back, hentries, hfront, hafter⟩ := exists_makeRoom hfull index
  rw [Nat.mod_eq_of_lt hlt] at hfront
  refine ⟨index, ?_⟩
  have hdropped : cache.keys[index] = dropped.1 := by
    simp only [keys, hentries, ← hfront, List.getElem_map,
      List.getElem_append_right (Nat.le_refl _)]
    simp
  rw [keys, hentries] at h
  rw [hafter, find?_of_dropped h, if_pos hdropped]

/-- A new pattern can take the place of any entry of a full cache. -/
theorem Sound.exists_fetch_dropping {cache : Cache α} (h : Sound compile cache)
    (hfull : cache.entries.length = capacity) {text key : String} {compiled : α}
    (hnew : cache.find? text = none) (hok : limited compile text = .ok compiled)
    (hkey : key ∈ cache.keys) : ∃ pick, (cache.fetch compile pick text).2.find? key = none := by
  obtain ⟨pick, hdropped⟩ := exists_makeRoom_dropping h.nodup hfull hkey
  have hne : key ≠ text := fun heq => find?_eq_none_iff.mp hnew (heq ▸ hkey)
  refine ⟨pick, ?_⟩
  rw [fetch_of_new hnew hok, find?_insert, if_neg hne, hdropped]

theorem find?_makeRoom {cache : Cache α} (h : Sound compile cache) (pick : ℕ) :
    (∀ other, (cache.makeRoom pick).find? other = cache.find? other) ∨
      cache.entries.length = capacity ∧ ∃ dropped ∈ cache.keys, ∀ other,
        (cache.makeRoom pick).find? other =
          if other = dropped then none else cache.find? other := by
  by_cases hroom : cache.entries.length < capacity
  · left
    intro other
    rw [makeRoom, if_pos hroom]
  · right
    have hfull := Nat.le_antisymm h.length_le (Nat.not_lt.mp hroom)
    obtain ⟨front, dropped, back, hentries, -, hafter⟩ := exists_makeRoom hfull pick
    have hnodup := h.nodup
    rw [keys, hentries] at hnodup
    refine ⟨hfull, dropped.1, ?_, fun other => ?_⟩
    · rw [keys, hentries]
      exact List.mem_map_of_mem (List.mem_append_right _ List.mem_cons_self)
    · rw [hafter, find?_of_dropped hnodup, ← hentries]

theorem Sound.serves {cache : Cache α} (h : Sound compile cache) (pick : ℕ) (text : String) :
    Serves compile cache pick text := by
  have hresult := h.fetch_eq_limited pick text
  rcases fetch_cases compile cache pick text with ⟨refusal, hrefusal, hfetch⟩ |
    ⟨compiled, hfind, hfetch⟩ | ⟨compiled, hfind, hok, hfetch⟩
  · -- The call fails.
    refine ⟨hresult, fun _ => by rw [hfetch], fun compiled hok => ?_, Or.inl fun other _ => ?_⟩
    · rw [hrefusal] at hok
      cases hok
    · rw [hfetch]
  · -- The pattern is in the cache, and what is there is what compiling gives.
    refine ⟨hresult, fun _ => by rw [hfetch], fun other hok => ?_, Or.inl fun other _ => ?_⟩
    · rw [h.limited_of_find? hfind] at hok
      cases hok
      rw [hfetch, hfind]
    · rw [hfetch]
  · refine ⟨hresult, fun hstays => ?_, fun other hother => ?_, ?_⟩
    · -- The pattern is new and compiles, so nothing speaks for leaving the cache as it is.
      rcases hstays with hhit | ⟨refusal, hrefusal⟩
      · rw [hfind] at hhit
        cases hhit
      · rw [hok] at hrefusal
        cases hrefusal
    · rw [hok] at hother
      cases hother
      rw [hfetch, find?_insert, if_pos rfl]
    · rcases find?_makeRoom h pick with hsame | ⟨hfull, dropped, hdropped, hafter⟩
      · left
        intro other hne
        rw [hfetch, find?_insert, if_neg hne, hsame]
      · right
        refine ⟨hfull, dropped, hdropped, fun other hne => ?_⟩
        rw [hfetch, find?_insert, if_neg hne, hafter]

/-- Whatever is picked, a run of calls gives what compiling each text would give. -/
theorem Sound.fetchAll {cache : Cache α} (h : Sound compile cache) (calls : List (ℕ × String)) :
    (cache.fetchAll compile calls).1 = calls.map (fun call => limited compile call.2) ∧
      Sound compile (cache.fetchAll compile calls).2 := by
  induction calls generalizing cache with
  | nil => exact ⟨rfl, h⟩
  | cons call rest ih =>
    obtain ⟨pick, text⟩ := call
    obtain ⟨hresults, hsound⟩ := ih (h.fetch pick text)
    refine ⟨?_, hsound⟩
    rw [List.map_cons, ← hresults, ← h.fetch_eq_limited pick text]
    rfl

end Cache

end ValueRules.Pattern
