import Reconcile.Proofs.Server.Versioned
import Reconcile.Proofs.World.BatchRun
import Reconcile.Proofs.World.GroupRun

namespace Reconcile

-- What an operation has heard of its newest call, and what lies on its desk. It never hears an answer
-- that was not given.
inductive Seen : List Asked → Desk → Prop where
  | silent : Seen [] .empty
  | pending (unanswered : ∀ answer, reply ≠ some (.ok answer)) :
      Seen (⟨call, reply⟩ :: calls) (.pending call)
  | done (same : ∀ heard, reply = some (.ok heard) → heard = answer) :
      Seen (⟨call, reply⟩ :: calls) (.done call answer)

variable {others : Bool} {heard : Nat → List Asked} {s later : Server} {policy : Policy}
  {mutation : Mutation} {calls : List Asked} {call : Call}

namespace Seen

theorem answered {desk : Desk} {answer : Nat}
    (seen : Seen (⟨call, some (.ok answer)⟩ :: calls) desk) : desk = .done call answer := by
  cases seen with
  | pending unanswered => exact absurd rfl (unanswered answer)
  | done same => rw [same answer rfl]

theorem hear {desk : Desk} (seen : Seen (⟨call, none⟩ :: calls) desk)
    (answered : ∀ answer, reply = some (.ok answer) → desk = .done call answer) :
    Seen (⟨call, reply⟩ :: calls) desk := by
  cases seen with
  | pending _ => exact .pending fun answer given => nomatch answered answer given
  | done _ =>
    refine .done fun answer given => ?_
    cases answered answer given
    rfl

end Seen

namespace Server

-- All that a step does to a desk is to answer the call on it.
theorem Step.desk (moves : Step others s later) (position : Nat) :
    later.desk position = s.desk position ∨
      ∃ call answer, s.desk position = .pending call ∧
        later.desk position = .done call answer := by
  have put : ∀ told {place asked}, s.desk place = .pending asked →
      (s.put place (.done asked told)).desk position = s.desk position ∨
        ∃ call answer, s.desk position = .pending call ∧
          (s.put place (.done asked told)).desk position = .done call answer := by
    intro told place asked waits
    by_cases same : position = place
    · subst same
      exact .inr ⟨asked, told, waits, desk_put ..⟩
    · exact .inl (desk_put_other s same _)
  cases moves with
  | tells asked => exact put s.version asked
  | @accepts _ _ _ status asked => exact put status asked
  | refuses asked => exact put conflictStatus asked
  | overwrites => exact .inl rfl

end Server

theorem Seen.reaches {position : Nat} (seen : Seen calls (s.desk position))
    (moves : Server.Reaches others s later) : Seen calls (later.desk position) := by
  induction moves with
  | refl => exact seen
  | tail _ last ih =>
    rcases last.desk position with same | ⟨call, answer, asked, told⟩
    · exact same ▸ ih
    · rw [asked] at ih
      rw [told]
      cases ih with
      | pending unanswered => exact .done fun answer given => absurd given (unanswered answer)

-- The next call of an operation whose submissions have all been refused so far.
theorem Serving.onward {deeds : List Deed} {position : Nat} {desk : Desk}
    (serving : Serving deeds position (submissions calls.tail).length desk)
    (seen : Seen calls desk) (asks : Asks policy mutation none calls call attempts) :
    Serving deeds position (submissions calls).length (.pending call) := by
  cases asks with
  | read earlier =>
    cases earlier with
    | start =>
      cases seen
      cases serving with
      | silent unwritten => exact .reading unwritten (Nat.zero_le _)
    | again earlier left =>
      cases seen.answered
      cases serving with
      | refused unwritten owed => exact .reading unwritten owed
      | accepted success => cases success
  | submit earlier =>
    cases seen.answered
    cases serving with
    | told unwritten reading owed => exact .presenting unwritten rfl reading owed

namespace Server

-- The books of the server and what the operations have heard go together.
structure Agrees (others : Bool) (heard : Nat → List Asked) (s : Server) : Prop where
  stands : s.Stands others fun position => (submissions (heard position).tail).length
  seen : ∀ position, Seen (heard position) (s.desk position)

theorem Fresh.agrees (fresh : s.Fresh) (others : Bool) : s.Agrees others fun _ => [] := by
  refine ⟨fresh.stands others _, fun position => ?_⟩
  rw [fresh.empty position]
  exact .silent

namespace Agrees

theorem reaches (agrees : s.Agrees others heard) (moves : Reaches others s later) :
    later.Agrees others heard :=
  ⟨agrees.stands.reaches moves, fun position => (agrees.seen position).reaches moves⟩

-- A call is polled. With its first poll it comes to the desk.
theorem poll {after : Nat → List Asked} (agrees : s.Agrees others heard)
    (asks : Asks policy mutation none calls call attempts)
    (spoken : heard position = asking call count calls)
    (moves : Reaches others (if count = 0 then s.receive position call else s) later)
    (answered : ∀ answer, reply = some (.ok answer) → later.desk position = .done call answer)
    (told : after position = ⟨call, reply⟩ :: calls)
    (same : ∀ other, other ≠ position → after other = heard other) :
    later.Agrees others after := by
  have seen := agrees.seen position
  have serving := agrees.stands.serving position
  rw [spoken] at seen serving
  have rounds : ∀ other, other ≠ position → (submissions (after other).tail).length =
      (submissions (heard other).tail).length := by
    intro other apart
    rw [same other apart]
  have called : (if count = 0 then s.receive position call else s).Stands others
        (fun other => (submissions (after other).tail).length) ∧
      (∀ other, other ≠ position →
        (if count = 0 then s.receive position call else s).desk other = s.desk other) ∧
      Seen (⟨call, none⟩ :: calls)
        ((if count = 0 then s.receive position call else s).desk position) := by
    cases count with
    | zero =>
      rw [if_pos rfl]
      refine ⟨agrees.stands.receive rounds ?_, fun other apart => desk_put_other s apart _, ?_⟩
      · rw [told]
        exact serving.onward seen asks
      · rw [receive, desk_put]
        refine .pending fun answer given => ?_
        cases given
    | succ count =>
      rw [if_neg (Nat.succ_ne_zero count)]
      refine ⟨?_, fun _ _ => rfl, seen⟩
      have unchanged : (fun other => (submissions (after other).tail).length) =
          fun other => (submissions (heard other).tail).length := by
        funext other
        by_cases own : other = position
        · rw [own, told, spoken]
          rfl
        · exact rounds other own
      rw [unchanged]
      exact agrees.stands
  obtain ⟨stands, elsewhere, here⟩ := called
  refine ⟨stands.reaches moves, fun other => ?_⟩
  by_cases own : other = position
  · rw [own, told]
    exact (here.reaches moves).hear answered
  · rw [same other own]
    have before := agrees.seen other
    rw [← elsewhere other own] at before
    exact before.reaches moves

end Agrees
end Server

variable {σ : Type} {transport : Transport σ} {server : σ → Server} {context : Context}

namespace World

theorem meet_agrees (serves : Serves others transport server) {w : World σ} {demand : Demand}
    (justified : demand.Justified policy none heard) (agrees : (server w.server).Agrees others heard) :
    (server (w.meet transport context demand).2.server).Agrees others
      fun position => hearAll position (heard position) (w.exchange transport context demand) := by
  cases demand with
  | nothing => exact agrees
  | rest wakes => exact agrees.reaches (serves.between _ _)
  | poll job call count =>
    cases stop : context.interruption? w.moment with
    | some interruption =>
      rw [meet_interrupted transport stop, exchange_interrupted transport stop]
      exact agrees
    | none =>
      rcases justified job call count rfl with ⟨due, rfl⟩ | ⟨mutation, calls, attempts, spoken, asks⟩
      · simp only [meet, exchange, Context.guard, stop, hearAll_cons, hearAll_nil, hear_pause]
        exact agrees
      · have other := asks.call_ne_pause
        rw [server_meet stop other, exchange_poll stop other]
        obtain ⟨moves, answers⟩ := serves.poll w.moment job call count w.server other
        refine agrees.poll asks spoken moves (fun answer given => ?_)
          (by rw [spoken]; exact hear_asking job call count _ calls other) ?_
        · exact answers answer (Progress.ready_of_value given)
        · intro place apart
          exact hearAll_other (fun entry mem => List.mem_singleton.mp mem ▸ rfl) (Ne.symm apart) _

end World

namespace GroupRun

theorem step_agrees (serves : Serves others transport server) {r : GroupRun σ}
    (stands : r.group.Stands context.policy none heard)
    (agrees : (server r.world.server).Agrees others heard) :
    (server (r.step transport context none).world.server).Agrees others
      fun position => hearAll position (heard position)
        (r.world.exchange transport context r.group.demand) :=
  World.meet_agrees serves stands.justified agrees

theorem after_agrees (serves : Serves others transport server) {r : GroupRun σ}
    (stands : r.group.Stands context.policy none heard)
    (agrees : (server r.world.server).Agrees others heard) (n : Nat) :
    (server (r.after transport context none n).world.server).Agrees others
      fun position => hearAll position (heard position)
        (r.exchanges transport context none n) := by
  induction n generalizing r heard with
  | zero => exact agrees
  | succ n ih =>
    simp only [after, exchanges, hearAll_append]
    exact ih (step_stands stands) (step_agrees serves stands agrees)

end GroupRun

namespace BatchRun

theorem step_agrees (serves : Serves others transport server) {r : BatchRun σ}
    (stands : r.batch.Stands heard) (immediate : r.batch.transaction = none)
    (agrees : (server r.world.server).Agrees others heard) :
    (server (r.step transport).world.server).Agrees others
      fun position => hearAll position (heard position) (r.exchange transport) := by
  have justified := stands.justified
  rw [immediate] at justified
  exact World.meet_agrees serves justified agrees

theorem after_agrees (serves : Serves others transport server) {r : BatchRun σ}
    (stands : r.batch.Stands heard) (immediate : r.batch.transaction = none)
    (agrees : (server r.world.server).Agrees others heard) (n : Nat) :
    (server (r.after transport n).world.server).Agrees others
      fun position => hearAll position (heard position) (r.exchanges transport n) := by
  induction n generalizing r heard with
  | zero => exact agrees
  | succ n ih =>
    simp only [after, exchanges, hearAll_append]
    exact ih (step_stands transport stands)
      (((settings_after transport r 1).2.1).trans immediate) (step_agrees serves stands immediate agrees)

end BatchRun
end Reconcile
