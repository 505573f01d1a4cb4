import Std.Async.Signal

namespace Reconcile.Console

open Std Async

-- A signal that is waited for.
structure Lookout where
  waiter : Signal.Waiter
  next : IO.Ref (AsyncTask Int)

def Lookout.start (signal : Signal) : IO Lookout := do
  let waiter ← Signal.Waiter.mk signal true
  return ⟨waiter, ← IO.mkRef (← waiter.wait)⟩

-- Whether the signal has come since the last look.
def Lookout.seen (l : Lookout) : IO Bool := do
  if (← (← l.next.get).getState) == .finished then
    l.next.set (← l.waiter.wait)
    return true
  else return false

end Reconcile.Console
