/-!
# Exact numbers

Core's `Rat`, which is always in lowest terms with a positive denominator, together with the
operations that can fail and the text form `7/2`.
-/

namespace TwinSyntax.Rational

/-- `numerator / denominator`, unless the denominator is zero. -/
def fraction? (numerator denominator : Int) : Option Rat :=
  if denominator = 0 then none else some (Rat.divInt numerator denominator)

/-- `a / b`, unless `b` is zero. -/
def div? (a b : Rat) : Option Rat :=
  if b = 0 then none else some (a / b)

/-- Whether `r` has no fractional part. -/
def isInteger (r : Rat) : Bool := r.den == 1

/-- Whether `r` lies below zero. -/
def isNegative (r : Rat) : Bool := r.num < 0

/-- Numerator and denominator in lowest terms; a denominator of one is left out. -/
def render (r : Rat) : String :=
  if r.den = 1 then toString r.num else toString r.num ++ "/" ++ toString r.den

end TwinSyntax.Rational
