import Mathlib.Data.List.Infix
import RecordStore.Text.Utf8

/-! The octets of characters. A character of ASCII is one octet, its code; of any other character no
octet is the code of a character. What offsets cut out of a text are whole characters, with as many
octets before them as the first offset says and as many in them as lie between the two. -/
namespace RecordStore.Text

theorem octetCount_append (a b : List Char) :
    octetCount (a ++ b) = octetCount a + octetCount b := by
  rw [← length_octets, octets_append, List.length_append, length_octets, length_octets]

theorem encode_ascii {c : Char} (ascii : c.toNat < 0x80) :
    String.utf8EncodeChar c = [UInt8.ofNat c.toNat] :=
  if_pos (Nat.le_of_lt_succ ascii)

theorem encode_ne_nil (c : Char) : String.utf8EncodeChar c ≠ [] := by
  intro none
  have size := congrArg List.length none
  rw [String.length_utf8EncodeChar] at size
  exact Nat.ne_of_gt (Char.utf8Size_pos c) size

theorem le_of_mem_encode {c : Char} (other : 0x80 ≤ c.toNat) {octet : UInt8}
    (member : octet ∈ String.utf8EncodeChar c) : 0x80 ≤ octet.toNat := by
  have wide : ¬c.val.toNat ≤ 0x7f := by
    change ¬c.toNat ≤ 0x7f
    omega
  have high (n : Nat) (small : n < 0x80) : 0x80 ≤ (UInt8.ofNat (n + 0x80)).toNat := by
    rw [UInt8.toNat_ofNat']
    omega
  simp only [String.utf8EncodeChar, wide, if_false] at member
  split at member
  · rcases List.mem_cons.1 member with rfl | member
    · exact high (_ + 0x40) (by omega)
    · rw [List.mem_singleton.1 member]
      exact high _ (by omega)
  split at member
  · rcases List.mem_cons.1 member with rfl | member
    · exact high (_ + 0x60) (by omega)
    rcases List.mem_cons.1 member with rfl | member
    · exact high _ (by omega)
    · rw [List.mem_singleton.1 member]
      exact high _ (by omega)
  · rcases List.mem_cons.1 member with rfl | member
    · exact high (_ + 0x70) (by omega)
    rcases List.mem_cons.1 member with rfl | member
    · exact high _ (by omega)
    rcases List.mem_cons.1 member with rfl | member
    · exact high _ (by omega)
    · rw [List.mem_singleton.1 member]
      exact high _ (by omega)

/-- A character that has an octet below U+0080 is that octet alone. -/
theorem eq_of_mem_encode {c d : Char} (ascii : d.toNat < 0x80)
    (member : UInt8.ofNat d.toNat ∈ String.utf8EncodeChar c) : c = d := by
  have code {e : Char} (narrow : e.toNat < 0x80) : (UInt8.ofNat e.toNat).toNat = e.toNat :=
    UInt8.toNat_ofNat_of_lt' (Nat.lt_trans narrow (by decide))
  have narrow : c.toNat < 0x80 := by
    by_contra other
    have high := le_of_mem_encode (by omega) member
    rw [code ascii] at high
    omega
  rw [encode_ascii narrow, List.mem_singleton] at member
  have same := congrArg UInt8.toNat member
  rw [code narrow, code ascii] at same
  exact Char.toNat_inj.1 same.symm

/-! What offsets cut out. -/

theorem dropOctets?_eq_some_iff {n : Nat} {text rest : List Char} :
    dropOctets? n text = some rest ↔ ∃ front, text = front ++ rest ∧ octetCount front = n := by
  constructor
  · intro dropped
    induction text generalizing n with
    | nil =>
      cases n <;> cases dropped
      exact ⟨[], rfl, rfl⟩
    | cons c more ih =>
      cases n with
      | zero =>
        cases dropped
        exact ⟨[], rfl, rfl⟩
      | succ n =>
        simp only [dropOctets?] at dropped
        split at dropped
        · next within =>
          obtain ⟨front, rfl, count⟩ := ih dropped
          exact ⟨c :: front, rfl, by rw [octetCount]; omega⟩
        · cases dropped
  · rintro ⟨front, rfl, rfl⟩
    exact dropOctets?_append front rest

theorem takeOctets?_eq_some_iff {n : Nat} {text front : List Char} :
    takeOctets? n text = some front ↔ ∃ rest, text = front ++ rest ∧ octetCount front = n := by
  constructor
  · intro taken
    induction text generalizing n front with
    | nil =>
      cases n <;> cases taken
      exact ⟨[], rfl, rfl⟩
    | cons c more ih =>
      cases n with
      | zero =>
        cases taken
        exact ⟨c :: more, rfl, rfl⟩
      | succ n =>
        simp only [takeOctets?] at taken
        split at taken
        · next within =>
          obtain ⟨front, found, rfl⟩ := Option.map_eq_some_iff.1 taken
          obtain ⟨rest, rfl, count⟩ := ih found
          exact ⟨rest, rfl, by rw [octetCount]; omega⟩
        · cases taken
  · rintro ⟨rest, rfl, rfl⟩
    exact takeOctets?_append front rest

theorem slice?_eq_some_iff {start stop : Nat} {text piece : List Char} :
    slice? start stop text = some piece ↔ ∃ front rear, text = front ++ (piece ++ rear) ∧
      octetCount front = start ∧ start + octetCount piece = stop := by
  constructor
  · intro cut
    unfold slice? at cut
    split at cut
    · obtain ⟨rest, dropped, taken⟩ := Option.bind_eq_some_iff.1 cut
      obtain ⟨front, rfl, before⟩ := dropOctets?_eq_some_iff.1 dropped
      obtain ⟨rear, rfl, within⟩ := takeOctets?_eq_some_iff.1 taken
      exact ⟨front, rear, rfl, before, by omega⟩
    · cases cut
  · rintro ⟨front, rear, rfl, rfl, rfl⟩
    exact slice?_append front piece rear

end RecordStore.Text
