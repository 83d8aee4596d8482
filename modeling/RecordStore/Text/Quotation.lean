import RecordStore.Text.Cluster.Extend
import RecordStore.Text.Printable

/-! A text between quotes, for showing it: quotes, backslashes and what cannot be shown by itself
are escaped, the latter by short escapes or as `\u` with their code between braces. -/
namespace RecordStore.Text

def emojiModifierRanges : List (Nat × Nat) := [(0x1F3FB, 0x1F3FF)]

/-- Whether a character shows only on another one: the Unicode property `Grapheme_Extend`. Emoji
modifiers extend a cluster as well, but can stand alone. -/
def isMark (c : Char) : Bool := inRanges extendRanges c && !inRanges emojiModifierRanges c

def quotationEscape (c : Char) : List Char :=
  if c = '"' then ['\\', '"']
  else if c = '\\' then ['\\', '\\']
  else if c = '\t' then ['\\', 't']
  else if c = '\n' then ['\\', 'n']
  else if c = '\r' then ['\\', 'r']
  else if c = '\x00' then ['\\', '0']
  else if isMark c || !isPrintable c then
    ['\\', 'u', '{'] ++ Nat.toDigits 16 c.toNat ++ ['}']
  else [c]

def quotation (text : String) : String :=
  String.ofList ('"' :: text.toList.flatMap quotationEscape ++ ['"'])

/-- A combining accent and a soft hyphen are escaped, a composed letter and a space are not. -/
example : quotation "é e\u0301\u00ad" = "\"é e\\u\x7b301\x7d\\u\x7bad\x7d\"" := by
  decide +kernel

end RecordStore.Text
