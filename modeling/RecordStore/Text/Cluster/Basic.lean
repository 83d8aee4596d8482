import RecordStore.Text.Cluster.Kind

/-! User-perceived characters: a text is cut into extended grapheme clusters, by the rules of
Unicode Standard Annex 29. Everything that a rule asks of the text before a place lies in the
cluster that is being built there, so one pass from left to right suffices. The clusters join to the
text. -/
namespace RecordStore.Text

/-- Whether a text, last character first, ends in a consonant and the marks that link it to the
next: GB9c. -/
def endsLinked (before : List Char) : Bool :=
  (before.takeWhile isConjunctMark).any isLinker &&
    (before.dropWhile isConjunctMark).head?.any (clusterKind · = .consonant)

/-- Whether a text, last character first, ends in a pictograph and the marks on it: GB11. -/
def endsInPictograph (before : List Char) : Bool :=
  (before.dropWhile (clusterKind · = .extend)).head?.any (clusterKind · = .pictograph)

/-- Whether a text, last character first, ends in an odd number of regional indicators: GB12. -/
def endsInHalfFlag (before : List Char) : Bool :=
  (before.takeWhile (clusterKind · = .regional)).length % 2 = 1

/-- Whether a character goes on the cluster before it, which is given last character first. -/
def joins : List Char → Char → Bool
  | [], _ => false
  | last :: above, next =>
    match clusterKind last, clusterKind next with
    | .carriageReturn, .lineFeed => true
    | .carriageReturn, _ | .lineFeed, _ | .control, _ => false
    | _, .carriageReturn | _, .lineFeed | _, .control => false
    | _, .extend | _, .joiner | _, .spacingMark => true
    | .prepend, _ => true
    | .leading, .leading | .leading, .vowel => true
    | .leading, .openSyllable | .leading, .closedSyllable => true
    | .openSyllable, .vowel | .openSyllable, .trailing => true
    | .vowel, .vowel | .vowel, .trailing => true
    | .closedSyllable, .trailing | .trailing, .trailing => true
    | _, .consonant => endsLinked (last :: above)
    | .joiner, .pictograph => endsInPictograph above
    | .regional, .regional => endsInHalfFlag (last :: above)
    | _, _ => false

/-- The clusters of a text that goes on from a cluster, which is given last character first. -/
def clustersFrom (current : List Char) : List Char → List (List Char)
  | [] => [current.reverse]
  | c :: rest =>
    if joins current c then clustersFrom (c :: current) rest
    else current.reverse :: clustersFrom [c] rest

def clusters : List Char → List (List Char)
  | [] => []
  | c :: rest => clustersFrom [c] rest

theorem flatten_clustersFrom (current text : List Char) :
    (clustersFrom current text).flatten = current.reverse ++ text := by
  induction text generalizing current with
  | nil => simp [clustersFrom]
  | cons c rest ih =>
    by_cases h : joins current c <;> simp [clustersFrom, h, ih]

theorem flatten_clusters (text : List Char) : (clusters text).flatten = text := by
  cases text with
  | nil => rfl
  | cons c rest => simpa [clusters] using flatten_clustersFrom [c] rest

end RecordStore.Text
