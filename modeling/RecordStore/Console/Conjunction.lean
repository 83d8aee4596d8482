import RecordStore.Text.Blank
import RecordStore.Text.Utf8

/-! Conditions joined by `AND`. The word separates where it stands by itself, in any ASCII case and
with ASCII blanks or an end of the text on both sides, outside quotes. A quote of either kind opens
anywhere, inside a word too, and only the same quote closes it.

The text is scanned by octets: `spans` gives the octet offsets of the conditions, and `conditions?`
cuts the text there and trims the pieces. -/
namespace RecordStore.Console.Conjunction

def isQuote (octet : UInt8) : Bool := octet == 0x22 || octet == 0x27

def lowerOctet (octet : UInt8) : UInt8 :=
  if 0x41 ≤ octet ∧ octet ≤ 0x5A then octet + 0x20 else octet

/-- Whether the octets start with the word `AND` and a blank or the end after it. -/
def startsWithAnd : List UInt8 → Bool
  | a :: n :: d :: rest =>
    [a, n, d].map lowerOctet == [0x61, 0x6E, 0x64] && (rest.head?.all Text.isAsciiBlank)
  | _ => false

/-- What the scan remembers. -/
structure Scan where
  offset : Nat
  /-- Where the current condition starts. -/
  start : Nat
  before : Option UInt8
  quote : Option UInt8
  /-- How many octets of a separator are still to be passed over. -/
  skip : Nat

namespace Scan

def begin : Scan := ⟨0, 0, none, none, 0⟩

def atSeparator (s : Scan) (octets : List UInt8) : Bool :=
  s.quote.isNone && s.before.all Text.isAsciiBlank && startsWithAnd octets

/-- Passes over one octet, which opens or closes a quote if it is one. -/
def advance (s : Scan) (octet : UInt8) : Scan :=
  { s with
    offset := s.offset + 1
    before := some octet
    quote := match s.quote with
      | some opened => if octet = opened then none else some opened
      | none => if isQuote octet then some octet else none }

/-- Passes over the first octet of a separator; the next condition starts after its third. -/
def separate (s : Scan) (octet : UInt8) : Scan :=
  { s with offset := s.offset + 1, start := s.offset + 3, before := some octet, skip := 2 }

def spans (s : Scan) : List UInt8 → List (Nat × Nat)
  | [] => [(s.start, s.offset)]
  | octet :: rest =>
    if s.skip ≠ 0 then
      spans { s with offset := s.offset + 1, before := some octet, skip := s.skip - 1 } rest
    else if s.atSeparator (octet :: rest) then
      (s.start, s.offset) :: spans (s.separate octet) rest
    else spans (s.advance octet) rest

end Scan

/-- The octet offsets between which the conditions of a text stand. -/
def spans (text : List Char) : List (Nat × Nat) := Scan.begin.spans (Text.octets text)

def pieces (text : List Char) (offsets : List (Nat × Nat)) : List (List Char) :=
  offsets.filterMap fun (start, stop) => Text.slice? start stop text

/-- The conditions of a text, none for a blank one; `none` if one of them is empty. -/
def conditions? (text : String) : Option (List String) :=
  let text := Text.trim text.toList
  if text.isEmpty then some []
  else
    let found := (pieces text (spans text)).map Text.trim
    if found.any (·.isEmpty) then none else some (found.map String.ofList)

end RecordStore.Console.Conjunction
