/-! Texts seen through their UTF-8 octets. Offsets count octets; `slice?` cuts a text between two
offsets and fails where an offset lies past the end or inside a character. -/
namespace RecordStore.Text

def octets (text : List Char) : List UInt8 :=
  text.flatMap String.utf8EncodeChar

def octetCount : List Char → Nat
  | [] => 0
  | c :: rest => c.utf8Size + octetCount rest

/-- The text from an octet offset on. -/
def dropOctets? : Nat → List Char → Option (List Char)
  | 0, text => some text
  | _ + 1, [] => none
  | n + 1, c :: rest => if c.utf8Size ≤ n + 1 then dropOctets? (n + 1 - c.utf8Size) rest else none

/-- The text before an octet offset. -/
def takeOctets? : Nat → List Char → Option (List Char)
  | 0, _ => some []
  | _ + 1, [] => none
  | n + 1, c :: rest =>
    if c.utf8Size ≤ n + 1 then (takeOctets? (n + 1 - c.utf8Size) rest).map (c :: ·) else none

/-- The text between two octet offsets; `none` unless both fall between characters. -/
def slice? (start stop : Nat) (text : List Char) : Option (List Char) :=
  if start ≤ stop then (dropOctets? start text).bind (takeOctets? (stop - start)) else none

@[simp] theorem octets_nil : octets [] = [] := rfl

@[simp] theorem octets_cons (c : Char) (text : List Char) :
    octets (c :: text) = String.utf8EncodeChar c ++ octets text := rfl

@[simp] theorem octets_append (a b : List Char) : octets (a ++ b) = octets a ++ octets b := by
  simp [octets]

theorem length_octets (text : List Char) : (octets text).length = octetCount text := by
  induction text with
  | nil => rfl
  | cons c rest ih => simp [octetCount, ih]

theorem dropOctets?_append (a b : List Char) : dropOctets? (octetCount a) (a ++ b) = some b := by
  induction a with
  | nil => cases b <;> rfl
  | cons c rest ih =>
    have hc := Char.utf8Size_pos c
    obtain ⟨n, hn⟩ : ∃ n, octetCount (c :: rest) = n + 1 :=
      ⟨octetCount (c :: rest) - 1, by simp only [octetCount]; omega⟩
    have hle : c.utf8Size ≤ n + 1 := by rw [← hn]; simp only [octetCount]; omega
    have hsub : n + 1 - c.utf8Size = octetCount rest := by
      rw [← hn]; simp only [octetCount]; omega
    simp only [hn, List.cons_append, dropOctets?, hle, if_true, hsub, ih]

theorem takeOctets?_append (a b : List Char) : takeOctets? (octetCount a) (a ++ b) = some a := by
  induction a with
  | nil => cases b <;> rfl
  | cons c rest ih =>
    have hc := Char.utf8Size_pos c
    obtain ⟨n, hn⟩ : ∃ n, octetCount (c :: rest) = n + 1 :=
      ⟨octetCount (c :: rest) - 1, by simp only [octetCount]; omega⟩
    have hle : c.utf8Size ≤ n + 1 := by rw [← hn]; simp only [octetCount]; omega
    have hsub : n + 1 - c.utf8Size = octetCount rest := by
      rw [← hn]; simp only [octetCount]; omega
    simp only [hn, List.cons_append, takeOctets?, hle, if_true, hsub, ih, Option.map_some]

/-- Offsets that count whole characters cut exactly there. -/
theorem slice?_append (a b c : List Char) :
    slice? (octetCount a) (octetCount a + octetCount b) (a ++ (b ++ c)) = some b := by
  simp [slice?, dropOctets?_append, takeOctets?_append]

end RecordStore.Text
