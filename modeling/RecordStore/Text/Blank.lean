import RecordStore.Text.Ranges

/-! Blank characters and trimming. `isBlank` is the Unicode `White_Space` property; `isAsciiBlank`
is its part within ASCII, less the line tabulation U+000B, and holds of no character that takes
more than one octet. Trimming removes blanks from the ends of a text and touches nothing inside. -/
namespace RecordStore.Text

/-- The code points with the Unicode `White_Space` property, as closed ranges in rising order. -/
def blankRanges : List (Nat × Nat) :=
  [(0x9, 0xD), (0x20, 0x20), (0x85, 0x85), (0xA0, 0xA0), (0x1680, 0x1680), (0x2000, 0x200A),
    (0x2028, 0x2029), (0x202F, 0x202F), (0x205F, 0x205F), (0x3000, 0x3000)]

def isBlank (c : Char) : Bool := inRanges blankRanges c

/-- Space, tab, line feed, form feed and carriage return, as octets. -/
def isAsciiBlank (octet : UInt8) : Bool :=
  octet == 0x20 || octet == 0x09 || octet == 0x0A || octet == 0x0C || octet == 0x0D

def trimStart (text : List Char) : List Char :=
  text.dropWhile isBlank

def trimEnd (text : List Char) : List Char :=
  (text.reverse.dropWhile isBlank).reverse

def trim (text : List Char) : List Char :=
  trimEnd (trimStart text)

/-- The text up to the first blank, and what follows it from that blank on. -/
def splitWord (text : List Char) : List Char × List Char :=
  (text.takeWhile (!isBlank ·), text.dropWhile (!isBlank ·))

def trimString (text : String) : String :=
  String.ofList (trim text.toList)

theorem splitWord_append (text : List Char) : (splitWord text).1 ++ (splitWord text).2 = text :=
  List.takeWhile_append_dropWhile

end RecordStore.Text
