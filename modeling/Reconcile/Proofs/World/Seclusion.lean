import Reconcile.Proofs.Submission.Determined
import Reconcile.Proofs.World.BatchRun

namespace Reconcile

variable {σ : Type}

namespace Transport

-- The states that the other side comes to from a start while operations ask it, each making a call
-- once the one before has been answered, and what has been heard of it by then at each position.
inductive Served (transport : Transport σ) (start : σ) : (Nat → List Asked) → σ → Prop where
  | start : Served transport start (fun _ => []) start
  | poll (served : Served transport start heard s) (moment : Moment)
      (spoken : heard job.position = asking call count calls)
      (answered : ∀ a ∈ calls, a.reply ≠ none) (other : ∀ due, call ≠ .pause due) :
      Served transport start
        (fun position => (Entry.polled job call count
          (transport.poll moment job call count s).progress.value?).hear position (heard position))
        (transport.poll moment job call count s).server
  | between (served : Served transport start heard s) (moment : Moment) :
      Served transport start heard (transport.between moment s).server

-- All that an answer to an operation depends on is the operation and its own calls before.
def Answers (transport : Transport σ) (start : σ) (answer : Job → List Asked → Call → Reply) :
    Prop :=
  ∀ heard s, transport.Served start heard s → ∀ moment job call count calls reply,
    heard job.position = asking call count calls → (∀ a ∈ calls, a.reply ≠ none) →
      (∀ due, call ≠ .pause due) →
        (transport.poll moment job call count s).progress = .ready reply →
          reply = answer job calls call

-- Neither other operations nor the time have a say in what an operation is answered.
def Secluded (transport : Transport σ) (start : σ) : Prop := ∃ answer, transport.Answers start answer

end Transport

variable {transport : Transport σ} {start : σ} {answer : Job → List Asked → Call → Reply}
  {heard : Nat → List Asked} {policy : Policy} {context : Context}
  {transaction : Option TransactionId}

theorem Conversation.answered_all {mutation : Mutation} {calls : List Asked}
    (conversation : Conversation policy mutation transaction calls) :
    ∀ a ∈ calls, a.reply ≠ none := by
  induction conversation with
  | silent => exact fun _ absent => (List.not_mem_nil absent).elim
  | answered earlier asks ih => exact List.forall_mem_cons.mpr ⟨nofun, ih⟩

theorem Follows.of_asking {answer : List Asked → Call → Reply} {call : Call} {polls : Nat}
    {calls : List Asked} (follows : Follows answer (asking call polls calls)) :
    Follows answer calls := by
  cases polls with
  | zero => exact follows
  | succ polls => exact follows.2

namespace World

-- What is heard of a step comes from a state that the other side can come to.
theorem meet_served {w : World σ} {demand : Demand}
    (justified : demand.Justified policy transaction heard)
    (served : transport.Served start heard w.server) :
    transport.Served start
      (fun position => hearAll position (heard position) (w.exchange transport context demand))
      (w.meet transport context demand).2.server := by
  cases demand with
  | nothing => exact served
  | rest wakes => exact served.between w.moment
  | poll job call count =>
    cases stop : context.interruption? w.moment with
    | some interruption =>
      rw [meet_interrupted transport stop, exchange_interrupted transport stop]
      exact served
    | none =>
      rcases justified job call count rfl with ⟨due, rfl⟩ | ⟨mutation, calls, attempts, spoken, asks⟩
      · simp only [meet, exchange, Context.guard, stop, hearAll_cons, hearAll_nil, hear_pause]
        exact served
      · have other := asks.call_ne_pause
        rw [server_meet stop other, exchange_poll stop other]
        exact served.poll w.moment spoken asks.conversation.answered_all other

-- The operation that is answered is answered as its own calls before have it.
theorem exchange_follows {w : World σ} {demand : Demand} {job : Job}
    (answers : transport.Answers start answer)
    (justified : demand.Justified policy transaction heard)
    (served : transport.Served start heard w.server)
    (known : ∀ other call count, demand = .poll other call count →
      other.position = job.position → other = job)
    (follows : Follows (answer job) (heard job.position)) :
    Follows (answer job)
      (hearAll job.position (heard job.position) (w.exchange transport context demand)) := by
  cases demand with
  | nothing => exact follows
  | rest wakes => exact follows
  | poll asker call count =>
    cases stop : context.interruption? w.moment with
    | some interruption =>
      rw [exchange_interrupted transport stop]
      exact follows
    | none =>
      rcases justified asker call count rfl with
        ⟨due, rfl⟩ | ⟨mutation, calls, attempts, spoken, asks⟩
      · simp only [exchange, stop, hearAll_cons, hearAll_nil, hear_pause]
        exact follows
      · have other := asks.call_ne_pause
        rw [exchange_poll stop other]
        by_cases own : asker.position = job.position
        · cases known asker call count rfl own
          rw [spoken] at follows ⊢
          rw [hearAll_cons, hearAll_nil, hear_asking _ _ _ _ _ other]
          refine ⟨fun reply given => ?_, follows.of_asking⟩
          exact answers heard w.server served w.moment job call count calls reply spoken
            asks.conversation.answered_all other (Progress.ready_of_value given)
        · rw [hearAll_other (fun entry mem => List.mem_singleton.mp mem ▸ rfl) own]
          exact follows

end World

namespace BatchRun

variable {r : BatchRun σ}

theorem step_served (stands : r.batch.Stands heard)
    (served : transport.Served start heard r.world.server) :
    transport.Served start (fun position => hearAll position (heard position) (r.exchange transport))
      (r.step transport).world.server := World.meet_served stands.justified served

theorem step_follows (answers : transport.Answers start answer) (stands : r.batch.Stands heard)
    (served : transport.Served start heard r.world.server) {job : Job}
    (listed : job ∈ Job.number r.batch.operations)
    (follows : Follows (answer job) (heard job.position)) :
    Follows (answer job) (hearAll job.position (heard job.position) (r.exchange transport)) := by
  refine World.exchange_follows answers stands.justified served ?_ follows
  intro other call count asks same
  exact List.inj_on_of_nodup_map (Job.nodup_position_number r.batch.operations)
    (stands.listed_of_demand asks) listed same

-- Throughout a run, whatever an operation is answered follows from what it has said before.
theorem after_follows (answers : transport.Answers start answer) (stands : r.batch.Stands heard)
    (served : transport.Served start heard r.world.server)
    (follows : ∀ job ∈ Job.number r.batch.operations, Follows (answer job) (heard job.position))
    (n : Nat) : ∀ job ∈ Job.number r.batch.operations, Follows (answer job)
      (hearAll job.position (heard job.position) (r.exchanges transport n)) := by
  induction n generalizing r heard with
  | zero => exact follows
  | succ n ih =>
    have listed : (r.step transport).batch.operations = r.batch.operations :=
      (settings_after transport r 1).2.2.2
    have later := ih (step_stands transport stands) (step_served stands served)
    rw [listed] at later
    simp only [exchanges, hearAll_append]
    exact later fun job mem => step_follows answers stands served mem (follows job mem)

end BatchRun
end Reconcile
