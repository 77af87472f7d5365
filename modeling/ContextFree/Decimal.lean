/-! Decimal numbers as they are written, the doubles that they are read as, and the shortest decimal that
reads back as a given double. -/
namespace ContextFree.Decimal

structure Scientific where
  digits : Nat
  exponent : Int
deriving DecidableEq, Repr

/-- The numbers `num / den` with `low ≤ num ≤ high`; the ends belong to it iff `closed`. -/
structure Interval where
  low : Nat
  mid : Nat
  high : Nat
  den : Nat
  closed : Bool

def Interval.contains (v : Interval) (d : Nat) (k : Int) : Bool :=
  let x := d * Nat.pow 10 k.toNat * v.den
  let scale := Nat.pow 10 (-k).toNat
  if v.closed then v.low * scale ≤ x && x ≤ v.high * scale
  else v.low * scale < x && x < v.high * scale

/-- The point of the grid `10 ^ k` in the interval that is nearest to its middle, an even one of
two that are equally near. -/
def Interval.onGrid? (v : Interval) (k : Int) : Option Scientific :=
  let num := v.mid * Nat.pow 10 (-k).toNat
  let den := v.den * Nat.pow 10 k.toNat
  let d := num / den
  let twice := 2 * (num % den)
  let up := den < twice || (twice = den && d % 2 = 1)
  match v.contains d k && d ≠ 0, v.contains (d + 1) k with
  | true, true => some ⟨if up then d + 1 else d, k⟩
  | true, false => some ⟨d, k⟩
  | false, true => some ⟨d + 1, k⟩
  | false, false => none

/-- Searches the grids from `10 ^ k` down, at most `n` of them, for the first with a point. -/
def Interval.coarsest (v : Interval) (k : Int) : Nat → Scientific
  | 0 => ⟨0, 0⟩
  | n + 1 => match v.onGrid? k with
    | some x => x
    | none => v.coarsest (k - 1) n

structure Binary64 where
  bits : UInt64
deriving DecidableEq

namespace Binary64

def isNegative (x : Binary64) : Bool :=
  Nat.pow 2 63 ≤ x.bits.toNat

def fraction (x : Binary64) : Nat :=
  x.bits.toNat % Nat.pow 2 52

def biased (x : Binary64) : Nat :=
  x.bits.toNat / Nat.pow 2 52 % Nat.pow 2 11

/-- The significand, with the leading bit of a normal number. -/
def significand (x : Binary64) : Nat :=
  if x.biased = 0 then x.fraction else Nat.pow 2 52 + x.fraction

/-- The numbers that round to the magnitude of `x`, in quarters of its last place: a power of two
has the narrower gap below it. -/
def interval (x : Binary64) : Interval :=
  let below := if x.fraction = 0 && 1 < x.biased then 1 else 2
  let up := max x.biased 1 - 1077
  let down := 1077 - max x.biased 1
  let m := 4 * x.significand
  let scale := Nat.pow 2 up
  ⟨(m - below) * scale, m * scale, (m + 2) * scale, Nat.pow 2 down, x.significand % 2 = 0⟩

def shortest (x : Binary64) : Scientific :=
  x.interval.coarsest 309 634

/-- Positional with a point for magnitudes from `10 ^ -5` to below `10 ^ 16`, else with a decimal
exponent and its sign. -/
def render (x : Binary64) : String :=
  let d := x.shortest
  let digits := Nat.toDigits 10 d.digits
  let point : Int := digits.length + d.exponent
  let zeros (n : Int) : List Char := .replicate n.toNat '0'
  let body :=
    if x.significand = 0 then ['0', '.', '0']
    else if 0 ≤ d.exponent && point ≤ 16 then digits ++ zeros d.exponent ++ ['.', '0']
    else if 0 < point && point ≤ 16 then
      digits.take point.toNat ++ '.' :: digits.drop point.toNat
    else if -5 < point && point ≤ 0 then '0' :: '.' :: (zeros (-point) ++ digits)
    else
      let tail := if digits.length = 1 then [] else '.' :: digits.drop 1
      let sign := if 0 < point then ['+'] else ['-']
      digits.take 1 ++ tail ++ 'e' :: (sign ++ Nat.toDigits 10 (point - 1).natAbs)
  .ofList (if x.isNegative then '-' :: body else body)

end Binary64

structure Literal where
  negative : Bool
  whole : List Nat
  fraction : List Nat
  exponent? : Option Int
deriving DecidableEq

/-- Puts digits behind a number for as long as it fits in 64 bits, and counts those left over. -/
def takeDigits (n : Nat) : List Nat → Nat × Nat
  | [] => (n, 0)
  | d :: ds => if 10 * n + d < Nat.pow 2 64 then takeDigits (10 * n + d) ds else (n, (d :: ds).length)

/-- Multiplies by a power of ten in double precision. The first step for a very small number divides by
the greatest power of ten that there is. -/
def scale (x : Float) (e : Int) : Float :=
  let power (n : Nat) := Float.ofScientific 1 false n
  if e.natAbs ≤ 308 then if 0 ≤ e then x * power e.natAbs else x / power e.natAbs
  else if x == 0 then x
  else if 0 < e then x * power 309
  else scale (x / power 308) (e + 308)
termination_by e.natAbs

namespace Literal

def wholeValue (l : Literal) : Nat :=
  l.whole.foldl (fun n d => 10 * n + d) 0

def isIntegral (l : Literal) : Bool :=
  l.fraction.isEmpty && l.exponent?.isNone

/-- The double that a literal is read as. Digits that do not fit in 64 bits are dropped and the rest is
scaled in double precision, so this may be a neighbour of the nearest double. -/
def toBinary64 (l : Literal) : Binary64 :=
  let (n, dropped) := takeDigits 0 l.whole
  let (n, unread) := takeDigits n l.fraction
  let places := l.fraction.length - unread
  let x := scale n.toUInt64.toFloat (l.exponent?.getD 0 + dropped - places)
  ⟨(if l.negative then -x else x).toBits⟩

end Literal

end ContextFree.Decimal
