/-! Searching and splitting texts. `splitAtFirst` cuts a text around the first occurrence of a
pattern, so that the three pieces join to the text and the pattern does not occur earlier;
`splitOn` cuts at every occurrence of one character and never yields an empty list. -/
namespace RecordStore.Text

/-- The text before and after the first occurrence of `pattern`, if there is one. -/
def splitAtFirst (pattern : List Char) : List Char → Option (List Char × List Char)
  | [] => if pattern.isEmpty then some ([], []) else none
  | c :: rest =>
    if pattern.isPrefixOf (c :: rest) then some ([], (c :: rest).drop pattern.length)
    else (splitAtFirst pattern rest).map fun (before, after) => (c :: before, after)

/-- Whether `pattern` occurs anywhere in `text`. -/
def occursIn (pattern text : List Char) : Bool :=
  (splitAtFirst pattern text).isSome

/-- The pieces between the occurrences of `separator`; one piece when there is none. -/
def splitOn (separator : Char) : List Char → List (List Char)
  | [] => [[]]
  | c :: rest =>
    if c = separator then [] :: splitOn separator rest
    else match splitOn separator rest with
      | [] => [[c]]
      | piece :: pieces => (c :: piece) :: pieces

theorem splitOn_ne_nil (separator : Char) (text : List Char) : splitOn separator text ≠ [] := by
  cases text with
  | nil => simp [splitOn]
  | cons c rest =>
    by_cases h : c = separator
    · simp [splitOn, h]
    · cases hs : splitOn separator rest <;> simp [splitOn, h, hs]

/-- A text is cut at a separator whatever stands before and after it. -/
theorem splitOn_append (separator : Char) (before after : List Char) :
    splitOn separator (before ++ separator :: after) =
      splitOn separator before ++ splitOn separator after := by
  induction before with
  | nil => simp [splitOn]
  | cons c rest ih =>
    by_cases h : c = separator
    · simp [splitOn, h, ih]
    · obtain ⟨piece, pieces, hs⟩ := List.exists_cons_of_ne_nil (splitOn_ne_nil separator rest)
      simp [splitOn, h, ih, hs]

theorem splitAtFirst_eq_some {pattern text before after : List Char}
    (h : splitAtFirst pattern text = some (before, after)) : text = before ++ pattern ++ after := by
  induction text generalizing before with
  | nil =>
    simp only [splitAtFirst] at h
    split at h
    · simp_all
    · cases h
  | cons c rest ih =>
    simp only [splitAtFirst] at h
    split at h
    · next hp =>
      obtain ⟨tail, ht⟩ := List.isPrefixOf_iff_prefix.1 hp
      simp only [Option.some.injEq, Prod.mk.injEq] at h
      obtain ⟨rfl, rfl⟩ := h
      simp [← ht]
    · obtain ⟨⟨b, a⟩, hb, he⟩ := Option.map_eq_some_iff.1 h
      simp only [Prod.mk.injEq] at he
      obtain ⟨rfl, rfl⟩ := he
      simp [ih hb]

end RecordStore.Text
