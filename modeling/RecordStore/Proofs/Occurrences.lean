import Mathlib.Data.List.Infix
import RecordStore.Text.Search

/-! Occurrences of a pattern in a text. A text is cut at the first one, so the pattern does not
occur in what stands before; and a character that the pattern lacks keeps its occurrences on one
side. -/
namespace RecordStore.Text

variable {pattern a b before after : List Char} {c : Char}

theorem splitAtFirst_eq_none_iff : splitAtFirst pattern a = none ↔ ¬pattern <:+: a := by
  induction a with
  | nil => cases pattern <;> simp [splitAtFirst]
  | cons c rest ih =>
    rw [splitAtFirst, List.infix_cons_iff]
    by_cases here : pattern <+: c :: rest
    · simp [here]
    · simp [here, ih]

theorem prefix_append_cons (other : c ∉ pattern) :
    pattern <+: a ++ c :: b ↔ pattern <+: a := by
  constructor
  · intro starts
    have shorter : a <+: a ++ c :: b := List.prefix_append a (c :: b)
    rcases List.prefix_or_prefix_of_prefix starts shorter with inside | longer
    · exact inside
    · obtain ⟨more, rfl⟩ := longer
      rw [List.prefix_append_right_inj] at starts
      cases more with
      | nil => simp
      | cons d more =>
        obtain ⟨rfl, -⟩ := List.cons_prefix_cons.1 starts
        simp at other
  · intro starts
    exact starts.trans (List.prefix_append _ _)

theorem infix_append_cons (some : pattern ≠ []) (other : c ∉ pattern) :
    pattern <:+: a ++ c :: b ↔ pattern <:+: a ∨ pattern <:+: b := by
  induction a with
  | nil =>
    have never : ¬pattern <+: [] ++ c :: b := by
      rw [prefix_append_cons other]
      simpa using some
    rw [List.nil_append] at never ⊢
    simp [List.infix_cons_iff, never, some]
  | cons d rest ih =>
    have here := prefix_append_cons (a := d :: rest) (b := b) other
    rw [List.cons_append] at here ⊢
    rw [List.infix_cons_iff, List.infix_cons_iff, here, ih, or_assoc]

theorem splitAtFirst_self_append (some : pattern ≠ []) (rest : List Char) :
    splitAtFirst pattern (pattern ++ rest) = Option.some ([], rest) := by
  cases pattern with
  | nil => exact absurd rfl some
  | cons c more =>
    have here : (c :: more).isPrefixOf (c :: (more ++ rest)) = true :=
      List.isPrefixOf_iff_prefix.2 (List.prefix_append (c :: more) rest)
    rw [List.cons_append, splitAtFirst, if_pos here]
    simp

theorem splitAtFirst_append_cons (some : pattern ≠ []) (other : c ∉ pattern)
    (absent : ¬pattern <:+: a) (b : List Char) :
    splitAtFirst pattern (a ++ c :: b) =
      (splitAtFirst pattern b).map fun (before, after) => (a ++ c :: before, after) := by
  induction a with
  | nil =>
    have never : ¬pattern <+: [] ++ c :: b := by
      rw [prefix_append_cons other]
      simpa using some
    rw [List.nil_append] at never ⊢
    rw [splitAtFirst, if_neg (by rwa [List.isPrefixOf_iff_prefix])]
    rfl
  | cons d rest ih =>
    rw [List.infix_cons_iff, not_or] at absent
    have never : ¬pattern <+: d :: rest ++ c :: b := by
      rw [prefix_append_cons other]
      exact absent.1
    rw [List.cons_append] at never ⊢
    rw [splitAtFirst, if_neg (by rwa [List.isPrefixOf_iff_prefix]), ih absent.2, Option.map_map]
    rfl

/-! Texts that share no character with the pattern. -/

theorem infix_append_apart (some : pattern ≠ []) (apart : ∀ c ∈ b, c ∉ pattern) :
    pattern <:+: a ++ b ↔ pattern <:+: a := by
  cases b with
  | nil => rw [List.append_nil]
  | cons c b =>
    rw [infix_append_cons some (apart c List.mem_cons_self)]
    apply or_iff_left
    intro occurs
    obtain ⟨d, rest, rfl⟩ := List.exists_cons_of_ne_nil some
    have inside : d ∈ b := occurs.subset List.mem_cons_self
    exact apart d (List.mem_cons_of_mem _ inside) List.mem_cons_self

theorem infix_apart_append (some : pattern ≠ []) (apart : ∀ c ∈ a, c ∉ pattern) :
    pattern <:+: a ++ b ↔ pattern <:+: b := by
  induction a with
  | nil => rw [List.nil_append]
  | cons c a ih =>
    obtain ⟨other, others⟩ := List.forall_mem_cons.1 apart
    have skipped := infix_append_cons (a := []) (b := a ++ b) some other
    rw [List.nil_append, List.infix_nil, or_iff_right some, ih others] at skipped
    exact skipped

theorem splitAtFirst_apart_append (some : pattern ≠ []) (apart : ∀ c ∈ a, c ∉ pattern)
    (b : List Char) : splitAtFirst pattern (a ++ b) =
      (splitAtFirst pattern b).map fun (before, after) => (a ++ before, after) := by
  induction a with
  | nil => simp
  | cons c a ih =>
    obtain ⟨other, others⟩ := List.forall_mem_cons.1 apart
    have absent : ¬pattern <:+: [] := by rwa [List.infix_nil]
    have skipped := splitAtFirst_append_cons some other absent (a ++ b)
    rw [List.nil_append, ih others, Option.map_map] at skipped
    exact skipped

/-- The pattern does not occur before its first occurrence. -/
theorem not_infix_of_splitAtFirst (some : pattern ≠ [])
    (found : splitAtFirst pattern a = Option.some (before, after)) : ¬pattern <:+: before := by
  induction a generalizing before with
  | nil =>
    rw [splitAtFirst, if_neg (by simpa using some)] at found
    cases found
  | cons c rest ih =>
    rw [splitAtFirst] at found
    split at found
    · cases found
      simpa using some
    · next never =>
      obtain ⟨⟨front, back⟩, later, same⟩ := Option.map_eq_some_iff.1 found
      cases same
      rw [List.infix_cons_iff, not_or]
      refine ⟨?_, ih later⟩
      intro starts
      apply never
      rw [List.isPrefixOf_iff_prefix, splitAtFirst_eq_some later, List.append_assoc]
      exact starts.trans (List.prefix_append (c :: front) _)

end RecordStore.Text
