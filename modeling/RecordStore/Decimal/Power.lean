/-! Powers of two and of ten, and how they bound the binary logarithm. -/
namespace RecordStore

def twoTo (k : Nat) : Nat := Nat.pow 2 k

def tenTo (k : Nat) : Nat := Nat.pow 10 k

theorem twoTo_pos (k : Nat) : 0 < twoTo k := Nat.two_pow_pos k

theorem tenTo_pos (k : Nat) : 0 < tenTo k := Nat.pow_pos (by decide)

theorem twoTo_add (a b : Nat) : twoTo (a + b) = twoTo a * twoTo b := Nat.pow_add 2 a b

theorem twoTo_le_twoTo {a b : Nat} (h : a ≤ b) : twoTo a ≤ twoTo b :=
  Nat.pow_le_pow_right (by decide) h

theorem lt_twoTo_log2 (n : Nat) : n < twoTo (Nat.log2 n + 1) := Nat.lt_log2_self

theorem twoTo_log2_le {n : Nat} (h : n ≠ 0) : twoTo (Nat.log2 n) ≤ n := Nat.log2_self_le h

end RecordStore
