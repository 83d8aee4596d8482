/-! Upper-case words within ASCII. The full Unicode upper-case image of a character may be several
characters long; only those whose image lies within ASCII matter for words written in ASCII. -/
namespace RecordStore.Text

/-- The characters outside ASCII whose full upper-case image lies within ASCII. -/
def asciiCapitals : List (Char × List Char) :=
  [('\u00df', ['S', 'S']), ('\u0131', ['I']), ('\u017f', ['S']), ('\ufb00', ['F', 'F']),
    ('\ufb01', ['F', 'I']), ('\ufb02', ['F', 'L']), ('\ufb03', ['F', 'F', 'I']),
    ('\ufb04', ['F', 'F', 'L']), ('\ufb05', ['S', 'T']), ('\ufb06', ['S', 'T'])]

/-- The full upper-case image of a character, when it lies within ASCII. -/
def capitals? (c : Char) : Option (List Char) :=
  if c.toNat < 0x80 then some [c.toUpper] else asciiCapitals.lookup c

/-- The full upper-case image of a text, when it lies within ASCII. -/
def uppercase? : List Char → Option (List Char)
  | [] => some []
  | c :: rest => do return (← capitals? c) ++ (← uppercase? rest)

/-- Whether `word` is `capitals` up to the case of the ASCII letters alone. -/
def equalsIgnoringAsciiCase (word capitals : List Char) : Bool :=
  word.map Char.toUpper == capitals

end RecordStore.Text
