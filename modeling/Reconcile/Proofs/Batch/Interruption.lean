import Reconcile.Proofs.Batch.Group

namespace Reconcile

namespace Execution

variable {context : Context} {transaction : Option TransactionId} {sight : Sight} {e : Execution}

theorem turn_interrupted (waits : e.call? = some waiting)
    (stopped : sight.progress = .ready (.error interruption)) :
    e.turn context transaction sight =
      finish e.job transaction.isSome (.error (.context interruption)) [] := by
  obtain ⟨job, phase⟩ := e
  cases phase with
  | reading mutation attempts polls => simp only [turn, stopped]
  | submitting request attempts polls => simp only [turn, stopped]
  | pausing mutation attempts due polls => simp only [turn, stopped]
  | _ => cases waits

theorem afterRead_uninterrupted (job : Job) (mutation : Mutation) (attempts : Nat) (polled : Entry)
    (reply : Reply) (interruption : Interruption) :
    (afterRead job mutation attempts polled reply).phase ≠
      .finished (.error (.context interruption)) := by
  intro complete
  unfold afterRead finish at complete
  split at complete
  · cases complete
  · split at complete <;> cases complete

theorem afterSubmit_uninterrupted (job : Job) (policy : Policy) (sight : Sight) (request : Request)
    (attempts : Nat) (polled : Entry) (reply : Reply) (interruption : Interruption) :
    (afterSubmit job policy sight request attempts polled reply).phase ≠
      .finished (.error (.context interruption)) := by
  intro complete
  unfold afterSubmit afterConflict finish at complete
  repeat' split at complete
  all_goals cases complete

-- Only an interrupted call ends with an interruption.
theorem interrupted_of_turn (prepared : e.job.operation.prepare transaction.isSome = .ok mutation)
    (going : e.phase ≠ .finished (.error (.context interruption)))
    (complete : (e.turn context transaction sight).phase =
      .finished (.error (.context interruption))) :
    (∃ call count, e.call? = some (call, count)) ∧
      sight.progress = .ready (.error interruption) := by
  obtain ⟨job, phase⟩ := e
  cases phase with
  | fresh =>
    unfold turn begin at complete
    dsimp only at complete prepared
    rw [prepared] at complete
    split at complete
    · rename_i unfit
      cases unfit
    · cases complete
    · cases complete
  | finished result => exact absurd complete going
  | broken fault => cases complete
  | reading mutation attempts polls =>
    unfold turn at complete
    dsimp only at complete
    split at complete
    · cases complete
    · cases complete
      exact ⟨⟨_, _, rfl⟩, ‹_›⟩
    · exact absurd complete (afterRead_uninterrupted _ _ _ _ _ _)
  | submitting request attempts polls =>
    unfold turn at complete
    dsimp only at complete
    split at complete
    · cases complete
    · cases complete
      exact ⟨⟨_, _, rfl⟩, ‹_›⟩
    · exact absurd complete (afterSubmit_uninterrupted _ _ _ _ _ _ _ _)
  | pausing mutation attempts due polls =>
    unfold turn at complete
    dsimp only at complete
    split at complete
    · cases complete
    · cases complete
      exact ⟨⟨_, _, rfl⟩, ‹_›⟩
    · cases complete

-- How many turns an interrupted operation takes until it has ended and been passed by.
def toil (e : Execution) : Nat :=
  match e.phase with
  | .fresh => 3
  | .finished _ | .broken _ => 1
  | _ => 2

def toils (members : List Execution) : Nat := members.foldr (fun e rest => e.toil + rest) 0

theorem turn_ended (complete : e.ended = true) :
    e.turn context transaction sight = ⟨e.phase, [], none⟩ := by
  unfold ended at complete
  split at complete
  · simp only [turn, *]
  · simp only [turn, *]
  · cases complete

end Execution

namespace Group

variable {context : Context} {transaction : Option TransactionId} {sight : Sight} {g : Group}

theorem step_interrupted (asks : g.demand = .poll job call count)
    (stopped : sight.progress = .ready (.error interruption)) :
    (job, .error (.context interruption)) ∈ (g.step context transaction sight).1.results := by
  obtain ⟨e, rest, next, rfl, waits⟩ := ahead_of_demand asks
  refine mem_results.mpr ⟨_, (mem_members_step next).mpr (.inl rfl), rfl, ?_⟩
  rw [Execution.turn_interrupted waits stopped]
  rfl

theorem interrupted_of_step {job : Job}
    (prepared : job.operation.prepare transaction.isSome = .ok mutation)
    (complete : (job, .error (.context interruption)) ∈
      (g.step context transaction sight).1.results) :
    (job, .error (.context interruption)) ∈ g.results ∨
      ∃ call count, g.demand = .poll job call count ∧
        sight.progress = .ready (.error interruption) := by
  obtain ⟨after, mem, rfl, ended⟩ := mem_results.mp complete
  cases next : g.ahead with
  | nil =>
    rw [members_step_of_nil next] at mem
    exact .inl (mem_results.mpr ⟨after, mem, rfl, ended⟩)
  | cons e rest =>
    rcases (mem_members_step next).mp mem with rfl | other
    · by_cases going : e.phase = .finished (.error (.context interruption))
      · exact .inl (mem_results.mpr ⟨e, (mem_members_of_ahead next).mpr (.inl rfl), rfl, going⟩)
      · obtain ⟨⟨call, count, waits⟩, seen⟩ :=
          Execution.interrupted_of_turn (e := e) prepared going ended
        refine .inr ⟨call, count, ?_, seen⟩
        rw [demand, next]
        simp only [waits]
    · exact .inl (mem_results.mpr
        ⟨after, (mem_members_of_ahead next).mpr (.inr other), rfl, ended⟩)

-- How many steps an interrupted group takes to its end: the turns of this round and, if somebody
-- has been left waiting, those of the next.
def toil (g : Group) : Nat :=
  Execution.toils g.ahead +
    if g.seen.all (·.ended) then 0 else 1 + Execution.toils g.members

-- Whoever asks for a call hears of the interruption.
def Halted (g : Group) (sight : Sight) (interruption : Interruption) : Prop :=
  ∀ e rest, g.ahead = e :: rest → e.call?.isSome = true →
    sight.progress = .ready (.error interruption)

end Group
end Reconcile
