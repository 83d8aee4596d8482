import RecordStore.Json.Basic
import RecordStore.Json.Numeral
import RecordStore.Json.Quoted

/-! Reading JSON, one character at a time, with a stack of the containers that are still open.

`State` says what may come next, `step` takes one character, and `run` goes on until a value is
complete, leaving the text after it. A value that shows its own end (a string, a list, an object, a
word) is complete with its last character; a number ends before the first character it cannot take.
Reading therefore never depends on what follows a value, that one character apart. -/
namespace RecordStore.Json

structure Rules where
  /-- The greatest number of open containers, if there is a bound. -/
  depth : Option Nat
  /-- Whether numbers have to be in range and surrogates to pair. -/
  checked : Bool

namespace Rules

/-- A whole document: at most 127 containers deep. -/
def document : Rules := ⟨some 127, true⟩

/-- A value that is not wanted: only its shape is read. -/
def shape : Rules := ⟨none, false⟩

end Rules

inductive Frame where
  /-- A list with the items before, last first. -/
  | list (before : List Json)
  /-- An object with the members before and the key whose value is read. -/
  | object (before : Members) (key : String)

/-- What has been read of a text, and so what may come next. -/
inductive State where
  | beforeValue (stack : List Frame)
  | firstItem (stack : List Frame)
  | nextItem (before : List Json) (stack : List Frame)
  | afterItem (before : List Json) (stack : List Frame)
  | firstKey (stack : List Frame)
  | nextKey (before : Members) (stack : List Frame)
  | inKey (before : Members) (key : Quoted) (stack : List Frame)
  | afterKey (before : Members) (key : String) (stack : List Frame)
  | afterMember (before : Members) (stack : List Frame)
  | inString (quoted : Quoted) (stack : List Frame)
  | inNumber (numeral : Numeral) (stack : List Frame)
  /-- The letters that are left of a word, and the value it stands for. -/
  | inWord (next : Char) (rest : List Char) (value : Json) (stack : List Frame)

inductive Step where
  | more (state : State)
  /-- The value ended with the character. -/
  | done (value : Json)
  /-- The value ended before the character. -/
  | stop (value : Json)
  /-- The fault lies `past` octets after the start of the character. -/
  | fault (problem : Problem) (past : Nat)

def isSpace (c : Char) : Bool := c == ' ' || c == '\t' || c == '\n' || c == '\r'

/-- Hands a complete value to the innermost open container. -/
def deliver (value : Json) : List Frame → Step
  | [] => .done value
  | .list before :: stack => .more (.afterItem (value :: before) stack)
  | .object before key :: stack => .more (.afterMember (before.insert key value) stack)

/-- The state inside a container that opens, if the depth allows one more. -/
def openContainer (rules : Rules) (stack : List Frame) (inside : State) : Step :=
  if rules.depth.any (· ≤ stack.length) then .fault .tooDeep 1 else .more inside

def beginValue (rules : Rules) (stack : List Frame) (c : Char) : Step :=
  if c = '"' then .more (.inString .start stack)
  else if c = '[' then openContainer rules stack (.firstItem stack)
  else if c = '{' then openContainer rules stack (.firstKey stack)
  else if c = 'n' then .more (.inWord 'u' ['l', 'l'] .null stack)
  else if c = 't' then .more (.inWord 'r' ['u', 'e'] (.bool true) stack)
  else if c = 'f' then .more (.inWord 'a' ['l', 's', 'e'] (.bool false) stack)
  else match Numeral.begin? c with
    | some numeral => .more (.inNumber numeral stack)
    | none => .fault .expectedValue 1

def stepAfterItem (before : List Json) (stack : List Frame) (c : Char) : Step :=
  if isSpace c then .more (.afterItem before stack)
  else if c = ',' then .more (.nextItem before stack)
  else if c = ']' then deliver (.array before.reverse) stack
  else .fault .expectedListComma 1

def stepAfterMember (before : Members) (stack : List Frame) (c : Char) : Step :=
  if isSpace c then .more (.afterMember before stack)
  else if c = ',' then .more (.nextKey before stack)
  else if c = '}' then deliver (.object before) stack
  else .fault .expectedObjectComma 1

/-- Hands over a value that ended before a character, and takes the character. -/
def stepAfterValue (value : Json) (stack : List Frame) (c : Char) : Step :=
  match stack with
  | [] => .stop value
  | .list before :: stack => stepAfterItem (value :: before) stack c
  | .object before key :: stack => stepAfterMember (before.insert key value) stack c

/-- The value of a number that ends here; unchecked, a number out of range is no fault. -/
def numberValue (rules : Rules) (numeral : Numeral) : Except Problem Json :=
  match numeral.finish with
  | .ok n => .ok (.number n)
  | .error .numberOutOfRange => if rules.checked then .error .numberOutOfRange else .ok .null
  | .error problem => .error problem

namespace State

def step (rules : Rules) (state : State) (c : Char) : Step :=
  match state with
  | beforeValue stack => if isSpace c then .more state else beginValue rules stack c
  | firstItem stack =>
    if isSpace c then .more state
    else if c = ']' then deliver (.array []) stack
    else beginValue rules (.list [] :: stack) c
  | nextItem before stack =>
    if isSpace c then .more state
    else if c = ']' then .fault .trailingComma 1
    else beginValue rules (.list before :: stack) c
  | afterItem before stack => stepAfterItem before stack c
  | firstKey stack =>
    if isSpace c then .more state
    else if c = '"' then .more (.inKey [] .start stack)
    else if c = '}' then deliver (.object []) stack
    else .fault .keyNotString 1
  | nextKey before stack =>
    if isSpace c then .more state
    else if c = '"' then .more (.inKey before .start stack)
    else if c = '}' then .fault .trailingComma 1
    else .fault .keyNotString 1
  | inKey before key stack =>
    match key.step rules.checked c with
    | .more key => .more (.inKey before key stack)
    | .done text => .more (.afterKey before text stack)
    | .fault problem past => .fault problem past
  | afterKey before key stack =>
    if isSpace c then .more state
    else if c = ':' then .more (.beforeValue (.object before key :: stack))
    else .fault .expectedColon 1
  | afterMember before stack => stepAfterMember before stack c
  | inString quoted stack =>
    match quoted.step rules.checked c with
    | .more quoted => .more (.inString quoted stack)
    | .done text => deliver (.string text) stack
    | .fault problem past => .fault problem past
  | inNumber numeral stack =>
    match numeral.step rules.checked c with
    | .more numeral => .more (.inNumber numeral stack)
    | .fault problem => .fault problem 1
    | .stop =>
      match numberValue rules numeral with
      | .ok value => stepAfterValue value stack c
      | .error problem => .fault problem 0
  | inWord next rest value stack =>
    if c ≠ next then .fault .misspelledWord 1
    else match rest with
      | [] => deliver value stack
      | next :: rest => .more (.inWord next rest value stack)

/-- What is missing at the end of a text, by the innermost open container. -/
def endProblem : List Frame → Problem
  | .list _ :: _ => .endInList
  | .object _ _ :: _ => .endInObject
  | [] => .endInValue

def finish (rules : Rules) : State → Except Problem Json
  | beforeValue _ | nextItem _ _ | nextKey _ _ | inWord _ _ _ _ => .error .endInValue
  | firstItem _ | afterItem _ _ => .error .endInList
  | firstKey _ | afterKey _ _ _ | afterMember _ _ => .error .endInObject
  | inKey _ _ _ | inString _ _ => .error .endInString
  | inNumber numeral stack => do
    let value ← numberValue rules numeral
    if stack.isEmpty then .ok value else .error (endProblem stack)

/-- Reads on from a state until a value is complete, and returns it with the text after it. A fault
comes with its offset, counted from `offset`. -/
def run (rules : Rules) (state : State) (offset : Nat) :
    List Char → Except (Problem × Nat) (Json × List Char)
  | [] =>
    match state.finish rules with
    | .ok value => .ok (value, [])
    | .error problem => .error (problem, offset)
  | c :: rest =>
    match state.step rules c with
    | .more next => next.run rules (offset + c.utf8Size) rest
    | .done value => .ok (value, rest)
    | .stop value => .ok (value, c :: rest)
    | .fault problem past => .error (problem, offset + past)

end State

def readValue (rules : Rules) (text : List Char) : Except (Problem × Nat) (Json × List Char) :=
  (State.beforeValue []).run rules 0 text

def located (text : List Char) : Problem × Nat → Fault
  | (problem, offset) => ⟨problem, .ofOffset text offset⟩

/-- Characters after which a number or a word is known to have ended. -/
def isDelimiter (c : Char) : Bool :=
  isSpace c || ['"', '[', ']', '{', '}', ',', ':'].contains c

/-- Whether a text starts a value that shows its own end. -/
def showsEnd (text : List Char) : Bool :=
  match text.dropWhile isSpace with
  | c :: _ => c == '"' || c == '[' || c == '{'
  | [] => false

/-- Reads the value at the start of a text; a number or word must not run into what follows. -/
def readStart (text : List Char) : Except Fault (Json × List Char) := do
  let (value, rest) ← (readValue .document text).mapError (located text)
  match rest with
  | c :: _ =>
    if showsEnd text || isDelimiter c then return (value, rest)
    else throw (located text
      (.trailingCharacters, Text.octetCount text - Text.octetCount rest + 1))
  | [] => return (value, [])

def read (text : List Char) : Except Fault Json := do
  let (value, rest) ← (readValue .document text).mapError (located text)
  match rest.dropWhile isSpace with
  | [] => return value
  | more => throw (located text
      (.trailingCharacters, Text.octetCount text - Text.octetCount more + 1))

def ofText (text : String) : Except Fault Json := read text.toList

end RecordStore.Json
