import RecordStore.Json.Fault

/-! Reading the inside of a string, one character at a time, after its opening quote. An escape `\u`
takes the next four octets whatever they are; two of them make one character when the first is a
leading surrogate and the second a trailing one. -/
namespace RecordStore.Json

def hexValue? (c : Char) : Option Nat :=
  if '0' ≤ c ∧ c ≤ '9' then some (c.toNat - '0'.toNat)
  else if 'a' ≤ c ∧ c ≤ 'f' then some (c.toNat - 'a'.toNat + 10)
  else if 'A' ≤ c ∧ c ≤ 'F' then some (c.toNat - 'A'.toNat + 10)
  else none

def hexNumber? (digits : List Char) : Option Nat :=
  digits.foldl (fun value? c => do return (← value?) * 16 + (← hexValue? c)) (some 0)

def shortEscape? (c : Char) : Option Char :=
  if c = '"' then some '"'
  else if c = '\\' then some '\\'
  else if c = '/' then some '/'
  else if c = 'b' then some '\x08'
  else if c = 'f' then some '\x0c'
  else if c = 'n' then some '\n'
  else if c = 'r' then some '\r'
  else if c = 't' then some '\t'
  else none

def isLeading (code : Nat) : Bool := 0xD800 ≤ code && code < 0xDC00

def isTrailing (code : Nat) : Bool := 0xDC00 ≤ code && code < 0xE000

def surrogatePair (leading trailing : Nat) : Char :=
  Char.ofNat (0x10000 + (leading - 0xD800) * 0x400 + (trailing - 0xDC00))

inductive Quoted.Stage where
  | plain
  | escape
  /-- The digits after `\u`, with the leading surrogate before it if there was one. -/
  | code (leading : Option Nat) (digits : List Char)
  /-- A leading surrogate waits for a backslash. -/
  | leading (code : Nat)
  /-- A leading surrogate and a backslash wait for `u`. -/
  | leadingEscape (code : Nat)
deriving DecidableEq

/-- A string that is being read; its characters are kept last first. -/
structure Quoted where
  before : List Char
  stage : Quoted.Stage
deriving DecidableEq

namespace Quoted

inductive Move where
  | more (quoted : Quoted)
  | done (text : String)
  /-- The fault lies `past` octets after the start of the character. -/
  | fault (problem : Problem) (past : Nat)

def start : Quoted := ⟨[], .plain⟩

def push (q : Quoted) (c : Char) : Quoted := ⟨c :: q.before, .plain⟩

def text (q : Quoted) : String := String.ofList q.before.reverse

/-- Takes the code of a complete `\u` escape; `checked` tells whether surrogates have to pair. -/
def takeCode (checked : Bool) (q : Quoted) (leading : Option Nat) (code : Nat) : Move :=
  if !checked then .more (q.push '\ufffd')
  else match leading with
    | none =>
      if isTrailing code then .fault .loneSurrogate 1
      else if isLeading code then .more { q with stage := .leading code }
      else .more (q.push (Char.ofNat code))
    | some first =>
      if isTrailing code then .more (q.push (surrogatePair first code))
      else .fault .loneSurrogate 1

/-- Takes an octet group of a `\u` escape, which is complete at four octets. -/
def takeHex (checked : Bool) (q : Quoted) (leading : Option Nat) (digits : List Char) (c : Char) :
    Move :=
  if Text.octetCount digits + c.utf8Size < 4 then
    .more { q with stage := .code leading (digits ++ [c]) }
  else match hexNumber? (digits ++ [c]) with
    | some code => q.takeCode checked leading code
    | none => .fault .invalidEscape (4 - Text.octetCount digits)

def step (checked : Bool) (q : Quoted) (c : Char) : Move :=
  match q.stage with
  | .plain =>
    if c = '"' then .done q.text
    else if c = '\\' then .more { q with stage := .escape }
    else if c.toNat < 0x20 then .fault .controlCharacter 1
    else .more (q.push c)
  | .escape =>
    if c = 'u' then .more { q with stage := .code none [] }
    else match shortEscape? c with
      | some plain => .more (q.push plain)
      | none => .fault .invalidEscape 1
  | .code leading digits => q.takeHex checked leading digits c
  | .leading code =>
    if c = '\\' then .more { q with stage := .leadingEscape code }
    else .fault .brokenSurrogatePair 1
  | .leadingEscape code =>
    if c = 'u' then .more { q with stage := .code (some code) [] }
    else .fault .brokenSurrogatePair 1

end Quoted
end RecordStore.Json
