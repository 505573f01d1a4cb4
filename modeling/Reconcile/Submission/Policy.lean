import Reconcile.Submission.Request
import Reconcile.Word

namespace Reconcile

-- How a rejected version is retried: how many submissions may follow the first, without bound when
-- absent, and the delays between them in milliseconds.
structure Policy where
  maxRetries : Option UInt32
  baseMs : UInt64
  maxMs : UInt64
deriving DecidableEq, Repr

-- Arithmetic that leaves its word. Nothing is carried on after it.
inductive Fault where
  | attempts
  | delay
  | deadline
deriving DecidableEq, Repr

namespace Policy

def standard : Policy := ⟨none, 25, 1000⟩

-- Retries at once and without end.
def immediate : Policy := ⟨none, 0, 0⟩

-- Whether a number of submissions has used up the retries.
def exhausted (p : Policy) (attempts : Nat) : Bool := p.maxRetries.any (·.toNat < attempts)

end Policy

namespace Backoff

-- Arithmetic on words of 64 bits that stays at the largest one.
def saturate (n : Nat) : Nat := if n < Word.count64 then n else Word.count64 - 1

-- Two to the power of the attempts before this one. No power beyond the word is computed.
def factor (attempt : Nat) : Nat := saturate (Nat.pow 2 (min (attempt - 1) 64))

-- The delay without its random part: doubled with every attempt, up to the largest.
def capped (attempt : Nat) (base max : UInt64) : Nat :=
  min (saturate (base.toNat * factor attempt)) max.toNat

-- The random part, less than a tenth of the delay, so that competing writers drift apart.
def jitter (capped : Nat) (draw : UInt64) : Nat :=
  if 0 < capped / 10 then draw.toNat % (capped / 10) else 0

-- The delay in milliseconds after a number of submissions, unless the sum leaves its word.
def delay (attempt : Nat) (base max draw : UInt64) : Except Fault Nat :=
  if attempt = 0 ∨ base = 0 then .ok 0
  else
    let fixed := capped attempt base max
    let total := fixed + jitter fixed draw
    if total < Word.count64 then .ok total else .error .delay

end Backoff

def Policy.delay (p : Policy) (attempt : Nat) (draw : UInt64) : Except Fault Nat :=
  Backoff.delay attempt p.baseMs p.maxMs draw

end Reconcile
