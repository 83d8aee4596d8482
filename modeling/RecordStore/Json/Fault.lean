import RecordStore.Text.Utf8

/-! Why a text is no JSON, and where. A position counts lines from one and, within its line, the
octets up to and including the one at fault; a fault just after a line feed is in column zero. -/
namespace RecordStore.Json

inductive Problem where
  | endInValue
  | endInList
  | endInObject
  | endInString
  | expectedValue
  | misspelledWord
  | expectedColon
  | expectedListComma
  | expectedObjectComma
  | keyNotString
  | trailingComma
  | trailingCharacters
  | invalidNumber
  | numberOutOfRange
  | controlCharacter
  | invalidEscape
  | loneSurrogate
  | brokenSurrogatePair
  | tooDeep
deriving DecidableEq

def Problem.message : Problem → String
  | endInValue => "EOF while parsing a value"
  | endInList => "EOF while parsing a list"
  | endInObject => "EOF while parsing an object"
  | endInString => "EOF while parsing a string"
  | expectedValue => "expected value"
  | misspelledWord => "expected ident"
  | expectedColon => "expected `:`"
  | expectedListComma => "expected `,` or `]`"
  | expectedObjectComma => "expected `,` or `\x7d`"
  | keyNotString => "key must be a string"
  | trailingComma => "trailing comma"
  | trailingCharacters => "trailing characters"
  | invalidNumber => "invalid number"
  | numberOutOfRange => "number out of range"
  | controlCharacter => "control character (\\u0000-\\u001F) found while parsing a string"
  | invalidEscape => "invalid escape"
  | loneSurrogate => "lone leading surrogate in hex escape"
  | brokenSurrogatePair => "unexpected end of hex escape"
  | tooDeep => "recursion limit exceeded"

structure Position where
  line : Nat
  column : Nat
deriving DecidableEq

namespace Position

def start : Position := ⟨1, 0⟩

def advance (p : Position) (octet : UInt8) : Position :=
  if octet = 0x0A then ⟨p.line + 1, 0⟩ else ⟨p.line, p.column + 1⟩

/-- The position after the first `offset` octets of a text. -/
def ofOffset (text : List Char) (offset : Nat) : Position :=
  ((Text.octets text).take offset).foldl advance start

end Position

structure Fault where
  problem : Problem
  position : Position
deriving DecidableEq

def Fault.message (fault : Fault) : String :=
  fault.problem.message ++ " at line " ++ toString fault.position.line ++
    " column " ++ toString fault.position.column

end RecordStore.Json
