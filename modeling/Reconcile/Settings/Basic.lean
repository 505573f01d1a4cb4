import Reconcile.Batch.Basic
import Reconcile.Text.Ascii

namespace Reconcile

-- Where the API is and who asks. Both times are for one request.
structure Connection where
  baseUrl : String := "http://127.0.0.1:5555/v3"
  username : Option String := some "admin"
  password : Option String := none
  requestTimeoutSecs : UInt64 := 10
  connectTimeoutSecs : UInt64 := 5
deriving DecidableEq, Repr

-- How batches are applied. Without a number of retries, conflicts are retried until the deadline.
structure ApplySettings where
  maxConflictRetries : Option UInt32 := none
  backoffBaseMs : UInt64 := 25
  backoffMaxMs : UInt64 := 1000
  deadlineSecs : Option UInt64 := some 300
  continueOnError : Bool := false
  concurrentTiers : Bool := false
deriving DecidableEq, Repr

namespace ApplySettings

def policy (s : ApplySettings) : Policy := ⟨s.maxConflictRetries, s.backoffBaseMs, s.backoffMaxMs⟩

def options (s : ApplySettings) : BatchOptions := ⟨s.continueOnError, s.concurrentTiers⟩

-- The deadline is that of the whole batch and counts from now.
def context (s : ApplySettings) (now : Nat) : Except Fault Context :=
  Context.within now s.policy s.deadlineSecs

end ApplySettings

structure Observability where
  logLevel : String := "info"
  metricsEnabled : Bool := false
  metricsAddress : String := "127.0.0.1:9091"
deriving DecidableEq, Repr

-- The filter of the log unless the environment has one.
def Observability.directive (level : String) : String :=
  "dataplane_reconciler=" ++ Text.lowerAscii level

structure Settings where
  connection : Connection := {}
  apply : ApplySettings := {}
  observability : Observability := {}
deriving DecidableEq, Repr

end Reconcile
