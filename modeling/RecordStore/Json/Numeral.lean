import RecordStore.Json.Fault
import RecordStore.Json.Number

/-! Reading the text of a number, one character at a time.

The digits are gathered into a significand below 2^64. Once it would outgrow that bound, further
integer digits only raise the power of ten and further fraction digits are dropped. An integer that
fits stays an integer, except `-0`; everything else is the significand as a double, scaled by a
power of ten with one rounding for each multiplication or division, which need not be the double
nearest to the text. -/
namespace RecordStore.Json

def digit? (c : Char) : Option Nat :=
  if '0' ≤ c ∧ c ≤ '9' then some (c.toNat - '0'.toNat) else none

inductive Numeral.Stage where
  | minus
  | leadingZero
  | integer
  /-- Integer digits that the significand cannot take. -/
  | longInteger
  | point
  | fraction
  /-- Fraction digits that the significand cannot take. -/
  | longFraction
  | exponentMark
  | exponentSign (negative : Bool)
  | exponent (negative : Bool) (value : Nat)
  /-- Digits of an exponent so large that the value is zero. -/
  | vanished
deriving DecidableEq

/-- A number that is being read: `significand * 10 ^ scale` so far. -/
structure Numeral where
  negative : Bool
  significand : Nat
  scale : Int
  stage : Numeral.Stage
deriving DecidableEq

namespace Numeral

inductive Move where
  | more (numeral : Numeral)
  /-- The number ended before the character. -/
  | stop
  | fault (problem : Problem)

def begin? (c : Char) : Option Numeral :=
  if c = '-' then some ⟨true, 0, 0, .minus⟩
  else (digit? c).map fun d => ⟨false, d, 0, if d = 0 then .leadingZero else .integer⟩

/-- The significand with one more digit, while it stays below 2^64. -/
def takeDigit? (significand digit : Nat) : Option Nat :=
  if significand * 10 + digit < 18446744073709551616 then some (significand * 10 + digit) else none

/-- The greatest exponent that is counted, 2^31 - 1. -/
def maxExponent : Nat := 2147483647

/-- What may follow the digits before an exponent. -/
def afterDigits (n : Numeral) (pointAllowed : Bool) (c : Char) : Move :=
  if c = '.' ∧ pointAllowed then .more { n with stage := .point }
  else if c = 'e' ∨ c = 'E' then .more { n with stage := .exponentMark }
  else .stop

def takeFraction (n : Numeral) (digit : Nat) : Numeral :=
  match takeDigit? n.significand digit with
  | some s => { n with significand := s, scale := n.scale - 1, stage := .fraction }
  | none => { n with stage := .longFraction }

/-- Takes an exponent digit. Beyond `maxExponent` a nonzero number with a positive exponent is out
of range, and any other is zero; `checked` tells whether the range matters. -/
def takeExponent (checked : Bool) (n : Numeral) (negative : Bool) (value digit : Nat) : Move :=
  if value * 10 + digit ≤ maxExponent then
    .more { n with stage := .exponent negative (value * 10 + digit) }
  else if checked ∧ n.significand ≠ 0 ∧ ¬negative then .fault .numberOutOfRange
  else .more { n with stage := .vanished }

def step (checked : Bool) (n : Numeral) (c : Char) : Move :=
  match n.stage, digit? c with
  | .minus, some d =>
    .more { n with significand := d, stage := if d = 0 then .leadingZero else .integer }
  | .minus, none => .fault .invalidNumber
  | .leadingZero, some _ => .fault .invalidNumber
  | .leadingZero, none => n.afterDigits true c
  | .integer, some d =>
    match takeDigit? n.significand d with
    | some s => .more { n with significand := s }
    | none => .more { n with scale := n.scale + 1, stage := .longInteger }
  | .integer, none => n.afterDigits true c
  | .longInteger, some _ => .more { n with scale := n.scale + 1 }
  | .longInteger, none => n.afterDigits true c
  | .point, some d => .more (n.takeFraction d)
  | .point, none => .fault .invalidNumber
  | .fraction, some d => .more (n.takeFraction d)
  | .fraction, none => n.afterDigits false c
  | .longFraction, some _ => .more n
  | .longFraction, none => n.afterDigits false c
  | .exponentMark, some d => n.takeExponent checked false 0 d
  | .exponentMark, none =>
    if c = '+' ∨ c = '-' then .more { n with stage := .exponentSign (c = '-') }
    else .fault .invalidNumber
  | .exponentSign negative, some d => n.takeExponent checked negative 0 d
  | .exponentSign _, none => .fault .invalidNumber
  | .exponent negative value, some d => n.takeExponent checked negative value d
  | .exponent _ _, none => .stop
  | .vanished, some _ => .more n
  | .vanished, none => .stop

/-- Divides by 10^308 up to `rounds` times, as long as the value is not zero. -/
def shrink : Nat → Binary64 → Binary64
  | 0, x => x
  | rounds + 1, x =>
    if x.isZero then x else shrink rounds ((x.div? (.powerOfTen 308)).getD (.zero x.negative))

/-- A double times a power of ten, in factors of at most 10^308; `none` on overflow. -/
def scaled? (x : Binary64) (exponent : Int) : Option Binary64 :=
  if 0 ≤ exponent then
    if exponent ≤ 308 then x.mul? (.powerOfTen exponent.toNat)
    else if x.isZero then some x
    else none
  else
    let rounds := (exponent.natAbs - 1) / 308
    (shrink rounds x).div? (.powerOfTen (exponent.natAbs - 308 * rounds))

/-- The double of the digits read, scaled as the text says. -/
def doubleValue (n : Numeral) (scale : Int) : Except Problem Number :=
  match scaled? (.ofInt n.significand) scale with
  | some x => .ok (.double (if n.negative then x.neg else x))
  | none => .error .numberOutOfRange

/-- An integer that fits; `-0` and integers out of range are doubles. -/
def integerValue (n : Numeral) : Number :=
  let value : Int := if n.negative then -(n.significand : Int) else n.significand
  let double := Binary64.ofInt n.significand
  let fallback := Number.double (if n.negative then double.neg else double)
  if n.negative ∧ n.significand = 0 then fallback else (Number.ofInt? value).getD fallback

/-- The number when its text ends here. -/
def finish (n : Numeral) : Except Problem Number :=
  match n.stage with
  | .minus | .point | .exponentMark | .exponentSign _ => .error .endInValue
  | .leadingZero | .integer => .ok n.integerValue
  | .longInteger | .fraction | .longFraction => n.doubleValue n.scale
  | .exponent negative value =>
    n.doubleValue (if negative then n.scale - value else n.scale + value)
  | .vanished => .ok (.double (.zero n.negative))

end Numeral
end RecordStore.Json
