import Reconcile.Proofs.Submission.Dialogue
import Reconcile.World.Basic

namespace Reconcile

variable {σ : Type}

def Entry.isPoll : Entry → Bool
  | .polled .. => true
  | _ => false

def Progress.value? : Progress α → Option α
  | .waiting _ => none
  | .ready value => some value

theorem Progress.ready_of_value {progress : Progress α} (brought : progress.value? = some value) :
    progress = .ready value := by
  cases progress with
  | waiting wake => cases brought
  | ready value =>
    cases brought
    rfl

theorem hearAll_append (position : Nat) (calls : List Asked) (earlier later : List Entry) :
    hearAll position calls (earlier ++ later) =
      hearAll position (hearAll position calls earlier) later := List.foldl_append ..

theorem hearAll_polls (position : Nat) (calls : List Asked) (entries : List Entry) :
    hearAll position calls (entries.filter Entry.isPoll) = hearAll position calls entries := by
  induction entries generalizing calls with
  | nil => rfl
  | cons entry rest ih =>
    cases entry with
    | polled job call count reply =>
      rw [List.filter_cons_of_pos rfl, hearAll_cons, hearAll_cons, ih]
    | _ =>
      rw [List.filter_cons_of_neg (by simp [Entry.isPoll]), hearAll_cons, ih]
      rfl

namespace World

-- What a step asks of the other side, and what the answer is. Nothing else passes between the two.
def exchange (transport : Transport σ) (context : Context) (demand : Demand) (w : World σ) :
    List Entry :=
  match demand with
  | .poll job call count =>
    match context.interruption? w.moment with
    | some _ => []
    | none => [.polled job call count (poll transport job call count w).1.value?]
  | _ => []

theorem poll_draw (transport : Transport σ) (job : Job) (call : Call) (count : Nat) (w : World σ) :
    (poll transport job call count { w with drawn := w.drawn + 1 }).1 =
      (poll transport job call count w).1 := by
  cases call <;> rfl

theorem moment_meet (transport : Transport σ) (context : Context) (demand : Demand) (w : World σ) :
    (meet transport context demand w).1.moment = w.moment := by
  cases demand <;> rfl

theorem meet_interrupted (transport : Transport σ) {context : Context} {w : World σ}
    {interruption : Interruption} (stopped : context.interruption? w.moment = some interruption)
    (job : Job) (call : Call) (count : Nat) :
    meet transport context (.poll job call count) w =
      (⟨w.moment, .ready (.error interruption), w.draws w.drawn⟩,
        { w with drawn := w.drawn + 1 }) := by
  simp only [meet, Context.guard, stopped]
  rfl

-- Whatever is demanded, nothing is asked of the other side any more.
theorem exchange_interrupted (transport : Transport σ) {context : Context} {w : World σ}
    (stopped : context.interruption? w.moment = some interruption) (demand : Demand) :
    w.exchange transport context demand = [] := by
  cases demand with
  | poll job call count => simp only [exchange, stopped]
  | _ => rfl

theorem progress_meet (transport : Transport σ) {context : Context} {w : World σ}
    (free : context.interruption? w.moment = none) (job : Job) (call : Call) (count : Nat) :
    (meet transport context (.poll job call count) w).1.progress =
      (poll transport job call count w).1.map .ok := by
  rw [← poll_draw]
  simp only [meet, Context.guard, free]
  rfl

theorem server_meet {transport : Transport σ} {context : Context} {w : World σ}
    (free : context.interruption? w.moment = none) {call : Call}
    (other : ∀ due, call ≠ .pause due) (job : Job) (count : Nat) :
    (w.meet transport context (.poll job call count)).2.server =
      (transport.poll w.moment job call count w.server).server := by
  simp only [meet, Context.guard, free]
  cases call with
  | pause due => exact absurd rfl (other due)
  | _ => rfl

theorem exchange_poll {transport : Transport σ} {context : Context} {w : World σ}
    (free : context.interruption? w.moment = none) {call : Call}
    (other : ∀ due, call ≠ .pause due) (job : Job) (count : Nat) :
    w.exchange transport context (.poll job call count) =
      [.polled job call count (transport.poll w.moment job call count w.server).progress.value?] := by
  simp only [exchange, free]
  cases call with
  | pause due => exact absurd rfl (other due)
  | _ => rfl

-- The other side makes notes in the journal, and nothing else is told before the step is made.
theorem entries_meet (transport : Transport σ) (context : Context) (demand : Demand)
    (w : World σ) : ∃ events : List Event, (meet transport context demand w).2.journal.entries =
      w.journal.entries ++ events.map .noted := by
  have quiet : w.journal.entries = w.journal.entries ++ ([] : List Event).map .noted :=
    (List.append_nil _).symm
  cases demand with
  | nothing => exact ⟨[], quiet⟩
  | rest wakes => exact ⟨[], quiet⟩
  | poll job call count =>
    simp only [meet, Context.guard]
    cases context.interruption? w.moment with
    | some interruption => exact ⟨[], quiet⟩
    | none =>
      cases call with
      | pause due => exact ⟨[], quiet⟩
      | _ => exact ⟨_, Journal.entries_record ..⟩

-- What the other side was asked is told by those who asked.
theorem polls_meet (transport : Transport σ) (context : Context) (demand : Demand) (w : World σ) :
    (meet transport context demand w).2.journal.entries.filter Entry.isPoll =
      w.journal.entries.filter Entry.isPoll := by
  obtain ⟨events, told⟩ := entries_meet transport context demand w
  rw [told, List.filter_append, List.append_right_eq_self, List.filter_eq_nil_iff]
  intro entry mem
  obtain ⟨event, -, rfl⟩ := List.mem_map.mp mem
  exact Bool.false_ne_true

end World

namespace Execution

variable {context : Context} {transaction : Option TransactionId} {sight : Sight} {e : Execution}

theorem polls_finish (job : Job) (staged : Bool) (result : Except Failure Unit)
    (before : List Entry) :
    (finish job staged result before).entries.filter Entry.isPoll =
      before.filter Entry.isPoll := by
  simp [finish, Entry.isPoll]

theorem polls_idle (idle : e.call? = none) :
    (e.turn context transaction sight).entries.filter Entry.isPoll = [] := by
  obtain ⟨job, phase⟩ := e
  cases phase with
  | fresh =>
    unfold turn begin
    dsimp only
    split
    · exact polls_finish ..
    · rfl
    · rfl
  | finished result => rfl
  | broken fault => rfl
  | _ => cases idle

theorem polls_interrupted (stopped : sight.progress = .ready (.error interruption)) :
    (e.turn context transaction sight).entries.filter Entry.isPoll = [] := by
  cases waits : e.call? with
  | none => exact polls_idle waits
  | some waiting =>
    obtain ⟨job, phase⟩ := e
    cases phase with
    | reading mutation attempts polls => simp only [turn, stopped, polls_finish, List.filter_nil]
    | submitting request attempts polls => simp only [turn, stopped, polls_finish, List.filter_nil]
    | pausing mutation attempts due polls =>
      simp only [turn, stopped, polls_finish, List.filter_nil]
    | _ => cases waits

theorem polls_afterRead (job : Job) (mutation : Mutation) (attempts polls : Nat) (reply : Reply) :
    (afterRead job mutation attempts (.polled job .readVersion polls (some reply))
      reply).entries.filter Entry.isPoll = [.polled job .readVersion polls (some reply)] := by
  unfold afterRead
  split
  · exact polls_finish ..
  · split <;> rfl

theorem polls_afterSubmit (job : Job) (policy : Policy) (sight : Sight) (request : Request)
    (attempts polls : Nat) (reply : Reply) :
    (afterSubmit job policy sight request attempts
      (.polled job (.submit request) polls (some reply)) reply).entries.filter Entry.isPoll =
      [.polled job (.submit request) polls (some reply)] := by
  unfold afterSubmit afterConflict
  repeat' split
  all_goals first
    | exact polls_finish ..
    | rfl

-- A call that is not interrupted is told as it was polled, and no other is told.
theorem polls_turn {progress : Progress Reply} (waits : e.call? = some (call, count))
    (seen : sight.progress = progress.map .ok) :
    (e.turn context transaction sight).entries.filter Entry.isPoll =
      [.polled e.job call count progress.value?] := by
  obtain ⟨job, phase⟩ := e
  cases phase with
  | reading mutation attempts polls =>
    cases waits
    cases progress with
    | waiting wake => simp [turn, seen, Progress.map, Progress.value?, Entry.isPoll]
    | ready reply =>
      simp only [turn, seen, Progress.map, Progress.value?]
      exact polls_afterRead ..
  | submitting request attempts polls =>
    cases waits
    cases progress with
    | waiting wake => simp [turn, seen, Progress.map, Progress.value?, Entry.isPoll]
    | ready reply =>
      simp only [turn, seen, Progress.map, Progress.value?]
      exact polls_afterSubmit ..
  | pausing mutation attempts due polls =>
    cases waits
    cases progress <;> simp [turn, seen, Progress.map, Progress.value?, Entry.isPoll]
  | _ => cases waits

end Execution

namespace Group

variable {context : Context} {transaction : Option TransactionId} {sight : Sight} {g : Group}

theorem step_of_nil (none : g.ahead = []) :
    g.step context transaction sight = (if g.ended then g else g.nextRound, []) := by
  rw [step, none]

theorem entries_step (next : g.ahead = e :: rest) :
    (g.step context transaction sight).2 = (e.turn context transaction sight).entries := by
  rw [step, next]
  dsimp only
  split
  · rfl
  · split <;> rfl

-- The journal of a step tells every poll that the other side has seen, with its answer.
theorem polls_step (transport : Transport σ) (context : Context)
    (transaction : Option TransactionId) (g : Group) (w : World σ) :
    (g.step context transaction (w.meet transport context g.demand).1).2.filter Entry.isPoll =
      w.exchange transport context g.demand := by
  cases next : g.ahead with
  | nil =>
    rw [step_of_nil next, demand, next]
    cases g.ended <;> rfl
  | cons e rest =>
    rw [entries_step next, demand, next]
    dsimp only
    cases waits : e.call? with
    | none => exact Execution.polls_idle waits
    | some waiting =>
      obtain ⟨call, count⟩ := waiting
      simp only [World.exchange]
      cases stop : context.interruption? w.moment with
      | some interruption =>
        rw [World.meet_interrupted transport stop]
        exact Execution.polls_interrupted rfl
      | none =>
        exact Execution.polls_turn waits (World.progress_meet transport stop e.job call count)

end Group

namespace GroupRun

-- Everything that passes between the operations and the other side in a number of steps.
def exchanges (transport : Transport σ) (context : Context) (transaction : Option TransactionId)
    (r : GroupRun σ) : Nat → List Entry
  | 0 => []
  | n + 1 =>
    r.world.exchange transport context r.group.demand ++
      exchanges transport context transaction (r.step transport context transaction) n

-- The calls that are made for an operation in a number of steps, oldest first.
def calls (transport : Transport σ) (context : Context) (transaction : Option TransactionId)
    (r : GroupRun σ) (steps position : Nat) : List Asked :=
  (hearAll position [] (r.exchanges transport context transaction steps)).reverse

end GroupRun

namespace BatchRun

def exchange (transport : Transport σ) (r : BatchRun σ) : List Entry :=
  r.world.exchange transport r.batch.context r.batch.demand

def exchanges (transport : Transport σ) (r : BatchRun σ) : Nat → List Entry
  | 0 => []
  | n + 1 => r.exchange transport ++ exchanges transport (r.step transport) n

def calls (transport : Transport σ) (r : BatchRun σ) (steps position : Nat) : List Asked :=
  (hearAll position [] (r.exchanges transport steps)).reverse

end BatchRun
end Reconcile
