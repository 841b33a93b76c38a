/-!
# Runs of characters

Character data comes in runs: characters at a fixed distance from one another that share a
property (`CharRun`) or that move by the same amount (`CharShift`). Upper and lower case letters
often alternate, which is why a run has a stride.
-/

namespace SdkLayout.Text

/-- The code points `first`, `first + stride`, … up to `last`. -/
structure CharRun where
  first : Nat
  last : Nat
  stride : Nat

/-- Whether the code point `n` lies in the run. -/
def CharRun.has (r : CharRun) (n : Nat) : Bool :=
  decide (r.first ≤ n) && decide (n ≤ r.last) && (n - r.first) % r.stride == 0

/-- Whether some run of the list holds `c`. -/
def inRuns (runs : List CharRun) (c : Char) : Bool :=
  runs.any (·.has c.toNat)

/-- A run whose code points all move by `delta`. -/
structure CharShift extends CharRun where
  delta : Int

/-- The character that `c` moves to under the first shift that holds it. -/
def shift? (shifts : List CharShift) (c : Char) : Option Char :=
  (shifts.find? (·.toCharRun.has c.toNat)).map fun s =>
    Char.ofNat (Int.toNat (Int.ofNat c.toNat + s.delta))

/-- The characters listed for `c` in a table of longer mappings. -/
def expansion? (table : List (Nat × List Nat)) (c : Char) : Option (List Char) :=
  (table.lookup c.toNat).map (·.map Char.ofNat)

end SdkLayout.Text
