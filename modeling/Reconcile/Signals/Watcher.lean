namespace Reconcile

-- What a running batch is stopped by: a shutdown signal, or a cancellation by anyone else.
inductive Stop where
  | signal
  | cancellation
deriving DecidableEq, Repr

-- Waits for a first signal, which cancels, and then for a second one, which ends the process.
-- A cancellation by anyone else ends the watch as long as there was no signal.
inductive Watch where
  | armed
  | warned
  | over
  | forced
deriving DecidableEq, Repr

structure Watcher where
  cancelled : Bool
  watch : Watch
deriving DecidableEq, Repr

namespace Watcher

-- How the process ends when it is forced to.
def forcedExit : Nat := 130

-- A watcher that has settled after its start.
def start (cancelled : Bool) : Watcher := ⟨cancelled, if cancelled then .over else .armed⟩

def step (w : Watcher) (stop : Stop) : Watcher :=
  match w.watch, stop with
  | .armed, .signal => ⟨true, .warned⟩
  | .armed, .cancellation => ⟨true, .over⟩
  | .warned, .signal => ⟨true, .forced⟩
  | .warned, .cancellation => ⟨true, .warned⟩
  | .over, .signal => w
  | .over, .cancellation => ⟨true, .over⟩
  | .forced, _ => w

def watching (w : Watcher) : Bool := w.watch = .armed || w.watch = .warned

def after (w : Watcher) (stops : List Stop) : Watcher := stops.foldl step w

-- The status that the process ends with at once, if it is forced to.
def exit? (w : Watcher) : Option Nat := if w.watch = .forced then some forcedExit else none

end Watcher
end Reconcile
