import SoraParachain.Common.SwapAmount

/-!
# Finding the best distribution of samples

Row `i` of a table of samples says what source `i` yields for `1, 2, …, s` parts
of an amount.  The table of accumulated values is filled row by row: a cell holds
the best value of the sources so far for a number of parts, and how many of these
parts are left to the sources before.  The parts of every source are read off
from the last row to the first.
-/

namespace SoraParachain
namespace LiquidityProxy

/-- The best value of a number of parts, and the parts left to the sources
before. -/
abbrev Cell : Type := FixedNumber × ℕ

def zeroCell : Cell := (⟨0, fits_zero⟩, 0)

def cellAt (row : List Cell) (j : ℕ) : Cell :=
  row.getD j zeroCell

/-- Whether a sum improves on the best one so far. -/
def isBetter (inversed : Bool) (tmp best : FixedNumber) : Bool :=
  if inversed then decide (tmp.bits < best.bits)
  else decide (best.bits < tmp.bits)

/-- Give `k + 1` of `j` parts to the source of a row if this improves the
cell. -/
def betterCell (inversed : Bool) (before : List Cell) (samples : List FixedNumber)
    (j : ℕ) (cell : Cell) (k : ℕ) : Cell :=
  match Fixed.cadd (cellAt before (j - k - 1)).1
      (samples.getD k zeroCell.1) with
  | .error _ => cell
  | .ok tmp => if isBetter inversed tmp cell.1 then (tmp, j - k - 1) else cell

/-- The best way to use the source of a row for `j` parts. -/
def bestCell (inversed : Bool) (before : List Cell) (samples : List FixedNumber)
    (j : ℕ) : Cell :=
  (List.range j).foldl (betterCell inversed before samples j)
    ((cellAt before j).1, j)

def firstRow (samples : List FixedNumber) : List Cell :=
  zeroCell :: samples.map fun sample => (sample, 0)

def nextRow (inversed : Bool) (s : ℕ) (before : List Cell)
    (samples : List FixedNumber) : List Cell :=
  zeroCell :: (List.range s).map fun i => bestCell inversed before samples (i + 1)

/-- The rows of the table, the last one first. -/
def tableRows (inversed : Bool) (s : ℕ) (first : List Cell) :
    List (List FixedNumber) → List (List Cell)
  | [] => [first]
  | samples :: rest =>
      tableRows inversed s (nextRow inversed s first samples) rest ++ [first]

/-- How many parts are left at each source, from the last one to the first, and
how many of them it leaves to the sources before. -/
def backtrack : List (List Cell) → ℕ → List (ℕ × ℕ)
  | [], _ => []
  | row :: rows, partsLeft =>
      let foreign := if partsLeft = 0 then 0 else (cellAt row partsLeft).2
      (partsLeft, foreign) :: backtrack rows foreign

/-- The share of the parts that a source keeps. -/
def distributionPart (totalParts : FixedNumber) (partsLeft foreign : ℕ) :
    FixedWrapper :=
  (FixedWrapper.ofBalance (balance partsLeft) -
    FixedWrapper.ofBalance (balance foreign)) /
      FixedWrapper.ofFixed totalParts

/-- The number of samples as a fixed-point number other than zero. -/
def totalPartsOf (s : ℕ) : Option FixedNumber :=
  (fixedOfBalance (balance s)).filter fun value => decide (value.bits ≠ 0)

/-- The shares that a filled table gives, and the best value in it. -/
def distributionOf (totalParts : FixedNumber) (s : ℕ)
    (rows : List (List Cell)) : List FixedNumber × FixedNumber :=
  match (backtrack rows s).mapM fun left =>
      (distributionPart totalParts left.1 left.2).inner with
  | .error _ => ([], zeroCell.1)
  | .ok distribution =>
      (distribution.reverse, (cellAt (rows.headD []) s).1)

/-- Fill the table and read the shares off.  A row that is shorter than the first
one would be indexed out of bounds. -/
def distributeParts (inversed : Bool) (first : List FixedNumber)
    (rest : List (List FixedNumber)) :
    Option FixedNumber → Option (List FixedNumber × FixedNumber)
  | none => some ([], zeroCell.1)
  | some totalParts =>
      if rest.all fun samples => decide (first.length ≤ samples.length) then
        some (distributionOf totalParts first.length
          (tableRows inversed first.length (firstRow first) rest))
      else none

/-- The shares of the sources and the best value.  The largest sum is looked for,
or the smallest one when `inversed`.  The result is missing where the source
panics. -/
def findDistribution (sampleData : List (List FixedNumber)) (inversed : Bool) :
    Option (List FixedNumber × FixedNumber) :=
  match sampleData with
  | [] => some ([], zeroCell.1)
  | first :: rest =>
      distributeParts inversed first rest (totalPartsOf first.length)

end LiquidityProxy
end SoraParachain
