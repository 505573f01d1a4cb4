import Reconcile.Batch.Report
import Reconcile.Journal.Event

namespace Reconcile

-- What happens while operations are carried out, in the order in which it happens. Logs and
-- metrics are read off it.
inductive Entry where
  -- The poll of a call, counted from 0, and the answer if it brought one.
  | polled (job : Job) (call : Call) (count : Nat) (reply : Option Reply)
  -- The API rejected a version.
  | conflict (job : Job) (kind : Section)
  | retrying (job : Job) (request : Request) (version attempts : Nat)
  -- A submission got through after conflicts.
  | settled (job : Job) (request : Request) (attempts : Nat)
  | finished (job : Job) (staged : Bool) (result : Except Failure Unit)
  | batchStarted (operations steps : Nat)
  | batchInterrupted (interruption : Interruption)
  | batchEnded (report : Report)
  | noted (event : Event)

structure Stamped where
  moment : Moment
  entry : Entry

-- Newest first.
abbrev Journal := List Stamped

namespace Journal

def record (journal : Journal) (moment : Moment) (entries : List Entry) : Journal :=
  (entries.map (⟨moment, ·⟩)).reverse ++ journal

-- Oldest first.
def entries (journal : Journal) : List Entry := journal.reverse.map (·.entry)

theorem entries_record (journal : Journal) (moment : Moment) (news : List Entry) :
    (journal.record moment news).entries = journal.entries ++ news := by
  simp [record, entries, Function.comp_def]

end Journal
end Reconcile
