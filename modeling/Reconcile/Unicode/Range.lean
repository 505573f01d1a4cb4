namespace Reconcile.Unicode

-- Closed ranges of code points.
def inRanges (ranges : List (Nat × Nat)) (c : Char) : Bool :=
  ranges.any fun range => range.1 ≤ c.toNat && c.toNat ≤ range.2

-- The last run that begins at a code point or before it, of runs in increasing order.
def runAt? (runs : List (Nat × α)) (n : Nat) : Option (Nat × α) :=
  (runs.takeWhile (·.1 ≤ n)).getLast?

end Reconcile.Unicode
