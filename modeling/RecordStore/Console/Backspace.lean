import RecordStore.Text.Cluster.Basic
import RecordStore.Text.Utf8

/-! Backspaces in a typed line. Each takes away the user-perceived character before it, and nothing
when there is none. The size of a character is kept in one octet: of one with 256 octets or more too
little is taken away, and no line comes about if that would leave part of a code point. -/
namespace RecordStore.Console

/-- What is left of a line so far. -/
structure Typed where
  /-- The text, last code point first. -/
  text : List Char
  /-- The sizes of the characters as typed, last one first, each in one octet. -/
  sizes : List UInt8

namespace Typed

def empty : Typed := ⟨[], []⟩

/-- Takes away as many octets as were typed last; `none` if they end inside a code point. -/
def rubOut? (typed : Typed) : Option Typed :=
  match typed.sizes with
  | [] => some typed
  | size :: sizes => do return ⟨← Text.dropOctets? size.toNat typed.text, sizes⟩

def type? (typed : Typed) (cluster : List Char) : Option Typed :=
  if cluster = ['\x08'] then typed.rubOut?
  else some ⟨cluster.reverse ++ typed.text, UInt8.ofNat (Text.octetCount cluster) :: typed.sizes⟩

end Typed

/-- The line that is left when its backspaces are carried out, if they can be. -/
def rubbedOut? (line : String) : Option String :=
  ((Text.clusters line.toList).foldlM Typed.type? .empty).map (String.ofList ·.text.reverse)

end RecordStore.Console
