import SoraParachain.Common.SwapAmount

/-!
# Evenly spaced numbers

The points are computed with rounding fixed-point operations; a result is missing
where the source unwraps an error.
-/

namespace SoraParachain

inductive IntervalEndpoints where
  | none
  | left
  | right
  | both
  deriving DecidableEq

/-- A point between two numbers, `x` steps from the first when there are `width`
steps. -/
def spacedPoint (a b width : FixedWrapper) (x : ℕ) : FixedWrapper :=
  a + (b - a) / (width / FixedWrapper.ofBalance (balance x))

/-- `n` points strictly between two numbers. -/
def linspaceInner (a b : FixedNumber) (n : ℕ) : Option (List FixedNumber) :=
  let width := FixedWrapper.ofBalance (balance n) +
    FixedWrapper.ofBalance (balance 1)
  (List.range n).mapM fun x =>
    (spacedPoint (FixedWrapper.ofFixed a) (FixedWrapper.ofFixed b) width
      (x + 1)).inner.toOption

/-- `n` points between two numbers, which may be among them. -/
def linspace (a b : FixedNumber) (n : ℕ) (endpoints : IntervalEndpoints) :
    Option (List FixedNumber) :=
  if n = 0 then some []
  else if a = b then some (List.replicate n a)
  else
    match endpoints with
    | .none => linspaceInner a b n
    | .left => (linspaceInner a b (n - 1)).map fun points => a :: points
    | .right => (linspaceInner a b (n - 1)).map fun points => points ++ [b]
    | .both =>
        if n = 1 then some [b]
        else (linspaceInner a b (n - 2)).map fun points =>
          a :: points ++ [b]

end SoraParachain
