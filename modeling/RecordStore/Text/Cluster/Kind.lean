import RecordStore.Text.Cluster.Conjunct
import RecordStore.Text.Cluster.Extend
import RecordStore.Text.Cluster.Pictograph
import RecordStore.Text.Cluster.SpacingMark
import RecordStore.Text.Ranges

/-! The kinds of characters that decide where one user-perceived character ends and the next begins,
by the properties of Unicode 17. -/
namespace RecordStore.Text

inductive ClusterKind where
  | carriageReturn
  | lineFeed
  | control
  | extend
  /-- The zero width joiner. -/
  | joiner
  | spacingMark
  /-- A character that belongs to the one after it. -/
  | prepend
  | regional
  | pictograph
  | consonant
  /-- A leading consonant of a Hangul syllable. -/
  | leading
  | vowel
  /-- A trailing consonant of a Hangul syllable. -/
  | trailing
  /-- A Hangul syllable that ends in its vowel. -/
  | openSyllable
  /-- A Hangul syllable that ends in a consonant. -/
  | closedSyllable
  | other
deriving DecidableEq

/-- Control and format characters, except the two that end lines. -/
def controlRanges : List (Nat × Nat) :=
  [(0x0, 0x9), (0xB, 0xC), (0xE, 0x1F), (0x7F, 0x9F), (0xAD, 0xAD), (0x61C, 0x61C),
    (0x180E, 0x180E), (0x200B, 0x200B), (0x200E, 0x200F), (0x2028, 0x202E), (0x2060, 0x206F),
    (0xFEFF, 0xFEFF), (0xFFF0, 0xFFFB), (0x13430, 0x1343F), (0x1BCA0, 0x1BCA3),
    (0x1D173, 0x1D17A), (0xE0000, 0xE001F), (0xE0080, 0xE00FF), (0xE01F0, 0xE0FFF)]

def prependRanges : List (Nat × Nat) :=
  [(0x600, 0x605), (0x6DD, 0x6DD), (0x70F, 0x70F), (0x890, 0x891), (0x8E2, 0x8E2), (0xD4E, 0xD4E),
    (0x110BD, 0x110BD), (0x110CD, 0x110CD), (0x111C2, 0x111C3), (0x113D1, 0x113D1),
    (0x1193F, 0x1193F), (0x11941, 0x11941), (0x11A84, 0x11A89), (0x11D46, 0x11D46),
    (0x11F02, 0x11F02)]

def regionalRanges : List (Nat × Nat) := [(0x1F1E6, 0x1F1FF)]

def leadingRanges : List (Nat × Nat) := [(0x1100, 0x115F), (0xA960, 0xA97C)]

def vowelRanges : List (Nat × Nat) :=
  [(0x1160, 0x11A7), (0xD7B0, 0xD7C6), (0x16D63, 0x16D63), (0x16D67, 0x16D6A)]

def trailingRanges : List (Nat × Nat) := [(0x11A8, 0x11FF), (0xD7CB, 0xD7FB)]

/-- The precomposed Hangul syllables; every twenty-eighth, from the first on, is an open one. -/
def syllableRanges : List (Nat × Nat) := [(0xAC00, 0xD7A3)]

/-- The kinds that ranges give. No two of the ranges meet, so their order does not matter. -/
def kindRanges : List (ClusterKind × List (Nat × Nat)) :=
  [(.control, controlRanges), (.extend, extendRanges), (.spacingMark, spacingMarkRanges),
    (.prepend, prependRanges), (.regional, regionalRanges), (.pictograph, pictographRanges),
    (.consonant, consonantRanges), (.leading, leadingRanges), (.vowel, vowelRanges),
    (.trailing, trailingRanges)]

/-- The kind of a character; printable ASCII is told first, as most text is no more than that. -/
def clusterKind (c : Char) : ClusterKind :=
  if ' ' ≤ c ∧ c ≤ '~' then .other
  else if c = '\r' then .carriageReturn
  else if c = '\n' then .lineFeed
  else if c = '\u200d' then .joiner
  else if inRanges syllableRanges c then
    if (c.toNat - 0xAC00) % 28 = 0 then .openSyllable else .closedSyllable
  else ((kindRanges.find? fun entry => inRanges entry.2 c).map (·.1)).getD .other

/-- Whether a character may stand between two consonants that are linked; the zero width non-joiner
extends the one before it and still keeps the two apart. -/
def isConjunctMark (c : Char) : Bool :=
  (clusterKind c = .extend || clusterKind c = .joiner) && c != '\u200c'

def isLinker (c : Char) : Bool := inRanges linkerRanges c

end RecordStore.Text
