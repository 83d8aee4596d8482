import RecordStore.Text.Search

/-! Paths of files, as names between slashes. Repeated slashes, a slash at the end and the name `.`
after the first add nothing to a path. -/
namespace RecordStore.Location

/-- What stands between the slashes of a path. -/
def segments (path : String) : List (List Char) := Text.splitOn '/' path.toList

/-- The names of a path, the empty ones left out. -/
def names (path : String) : List String :=
  ((segments path).filter (!·.isEmpty)).map String.ofList

def isAbsolute (path : String) : Bool := path.toList.head? == some '/'

def endsInSlash (path : String) : Bool := path.toList.getLast? == some '/'

/-- Whether a segment after the first leads nowhere. -/
def isIdle (segment : List Char) : Bool := segment.isEmpty || segment == ['.']

/-- Segments without those at the end that lead nowhere; the first one stays. -/
def trimmed : List (List Char) → List (List Char)
  | [] => []
  | first :: rest => first :: (rest.reverse.dropWhile isIdle).reverse

/-- The path of the directory above as the path itself spells it, if that names one. -/
def parent? (path : String) : Option String :=
  match trimmed (trimmed (segments path)).dropLast with
  | [] => none
  | [[]] => some "/"
  | above => some (String.ofList (List.intercalate ['/'] above))

end RecordStore.Location
