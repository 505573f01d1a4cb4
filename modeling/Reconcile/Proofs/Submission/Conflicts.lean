import Reconcile.Proofs.Submission.Conversation
import Reconcile.Proofs.Submission.Prepare

namespace Reconcile

-- The section of a submission whose version was rejected. Inside a transaction there is no version.
def Asked.stale? (a : Asked) : Option Section :=
  match a with
  | ⟨.submit request, some (.ok status)⟩ =>
    if request.mode.isStaged = false ∧ status = conflictStatus then some request.kind else none
  | _ => none

-- The conflicts that calls have met with, oldest first. The calls themselves come newest first.
def conflicts (calls : List Asked) : List Section := (calls.filterMap Asked.stale?).reverse

-- A conflict that is noted for a position.
def Entry.conflictAt? (position : Nat) : Entry → Option Section
  | .conflict job kind => if job.position = position then some kind else none
  | _ => none

@[simp] theorem conflicts_cons (a : Asked) (calls : List Asked) :
    conflicts (a :: calls) = conflicts calls ++ a.stale?.toList := by
  rw [conflicts, List.filterMap_cons]
  cases a.stale? with
  | none => exact (List.append_nil _).symm
  | some kind => exact List.reverse_cons

theorem stale_unanswered (call : Call) : (⟨call, none⟩ : Asked).stale? = none := by
  cases call <;> rfl

theorem stale_read (reply : Option Reply) : (⟨.readVersion, reply⟩ : Asked).stale? = none := rfl

theorem stale_failed (call : Call) (error : TransportError) :
    (⟨call, some (.error error)⟩ : Asked).stale? = none := by
  cases call <;> rfl

theorem stale_submit (request : Request) (status : Nat) :
    (⟨.submit request, some (.ok status)⟩ : Asked).stale? =
      if request.mode.isStaged = false ∧ status = conflictStatus then some request.kind
      else none := rfl

theorem conflicts_asking (call : Call) (polls : Nat) (calls : List Asked) :
    conflicts (asking call polls calls) = conflicts calls := by
  cases polls with
  | zero => rfl
  | succ polls => rw [asking, if_neg (Nat.succ_ne_zero _), conflicts_cons, stale_unanswered]; simp

variable {policy : Policy} {mutation : Mutation} {calls : List Asked}

theorem Retried.conflicts (earlier : Retried policy mutation calls rounds) :
    conflicts calls = List.replicate rounds mutation.kind := by
  induction earlier with
  | start => rfl
  | again earlier left ih =>
    rw [conflicts_cons, conflicts_cons, stale_submit, if_pos ⟨rfl, rfl⟩, stale_read, ih,
      List.replicate_succ']
    simp [Mutation.request]

namespace Asks

variable {transaction : Option TransactionId}

theorem conflicts_kind (asks : Asks policy mutation transaction calls call attempts) :
    ∀ kind ∈ conflicts calls, kind = mutation.kind := by
  intro kind mem
  cases asks with
  | stage => cases mem
  | read earlier =>
    rw [earlier.conflicts] at mem
    exact List.eq_of_mem_replicate mem
  | submit earlier =>
    rw [conflicts_cons, stale_read, earlier.conflicts, Option.toList_none, List.append_nil] at mem
    exact List.eq_of_mem_replicate mem

-- All submissions before the one at hand have met with a conflict.
theorem conflicts_length (asks : Asks policy mutation transaction calls (.submit request) attempts) :
    (conflicts calls).length + 1 = attempts ∧ (submissions calls).length + 1 = attempts := by
  cases asks with
  | stage => exact ⟨rfl, rfl⟩
  | submit earlier =>
    rw [conflicts_cons, stale_read, earlier.conflicts, submissions_read,
      earlier.submissions_length]
    simp

theorem stale_kind (asks : Asks policy mutation transaction calls call attempts)
    (reply : Option Reply) : ∀ kind ∈ (⟨call, reply⟩ : Asked).stale?, kind = mutation.kind := by
  intro kind mem
  cases asks with
  | read earlier => cases mem
  | stage | submit =>
    rcases reply with - | (error | status)
    · cases mem
    · cases mem
    · rw [stale_submit] at mem
      split at mem
      · cases mem
        rfl
      · cases mem

end Asks

namespace Standing

variable {transaction : Option TransactionId} {op : Operation} {phase : Phase}

-- All conflicts of an operation are those of its section.
theorem conflicts_kind (standing : Standing policy transaction op calls phase) :
    ∀ kind ∈ conflicts calls, kind = op.kind := by
  have asked {mutation : Mutation} {earlier : List Asked} {call : Call} {attempts : Nat}
      (prepared : op.prepare transaction.isSome = .ok mutation)
      (asks : Asks policy mutation transaction earlier call attempts) (reply : Option Reply) :
      ∀ kind ∈ conflicts (⟨call, reply⟩ :: earlier), kind = op.kind := by
    obtain ⟨-, -, -, -, -, same⟩ := Operation.prepare_ok prepared
    intro kind mem
    rw [conflicts_cons] at mem
    rcases List.mem_append.mp mem with before | last
    · exact (asks.conflicts_kind kind before).trans same
    · exact (asks.stale_kind reply kind (Option.mem_toList.mp last)).trans same
  have pending {mutation : Mutation} {earlier : List Asked} {call : Call} {attempts : Nat}
      (prepared : op.prepare transaction.isSome = .ok mutation)
      (asks : Asks policy mutation transaction earlier call attempts) (polls : Nat) :
      ∀ kind ∈ conflicts (asking call polls earlier), kind = op.kind := by
    obtain ⟨-, -, -, -, -, same⟩ := Operation.prepare_ok prepared
    rw [conflicts_asking]
    exact fun kind mem => (asks.conflicts_kind kind mem).trans same
  have waiting {mutation : Mutation} {earlier : List Asked} {rounds : Nat}
      (prepared : op.prepare transaction.isSome = .ok mutation)
      (retried : Retried policy mutation earlier rounds) :
      ∀ kind ∈ conflicts earlier, kind = op.kind := by
    obtain ⟨-, -, -, -, -, same⟩ := Operation.prepare_ok prepared
    exact fun kind mem => ((Asks.read retried).conflicts_kind kind mem).trans same
  cases standing with
  | fresh => exact fun _ absent => (List.not_mem_nil absent).elim
  | refused => exact fun _ absent => (List.not_mem_nil absent).elim
  | reading prepared asks => exact pending prepared asks _
  | submitting prepared asks => exact pending prepared asks _
  | interrupted prepared asks => exact pending prepared asks _
  | answered prepared asks => exact asked prepared asks _
  | overrun prepared asks => exact asked prepared asks _
  | pausing prepared earlier => exact waiting prepared earlier
  | overlong prepared earlier => exact waiting prepared earlier

theorem conflicts_applied (standing : Standing policy transaction op calls (.finished (.ok ()))) :
    (conflicts calls).length + 1 = (submissions calls).length := by
  cases standing with
  | answered prepared asks ends =>
    cases ends with
    | @applied status request success =>
      obtain ⟨count, same⟩ := asks.conflicts_length
      have fresh : ¬(request.mode.isStaged = false ∧ status = conflictStatus) := by
        rintro ⟨-, rfl⟩
        cases success.symm.trans isSuccess_conflictStatus
      rw [conflicts_cons, stale_submit, if_neg fresh, submissions_submit, List.length_cons, same,
        Option.toList_none, List.append_nil, count]

theorem conflicts_exhausted {rejection : Rejection} {attempts : Nat}
    (standing :
      Standing policy transaction op calls (.finished (.error (.conflict rejection attempts)))) :
    (conflicts calls).length = attempts := by
  cases standing with
  | refused unfit => cases Operation.isLocal_of_prepare unfit
  | answered prepared asks ends =>
    cases ends with
    | exhausted fresh used =>
      obtain ⟨count, -⟩ := asks.conflicts_length
      rw [conflicts_cons, stale_submit, if_pos ⟨fresh, rfl⟩, List.length_append, ← count]
      rfl

end Standing

-- The conflicts that are heard of in some entries are those that are noted in them.
def Notes (position : Nat) (calls : List Asked) (entries : List Entry) : Prop :=
  conflicts (hearAll position calls entries) =
    conflicts calls ++ entries.filterMap (Entry.conflictAt? position)

theorem Notes.append {earlier later : List Entry} (first : Notes position calls earlier)
    (rest : Notes position (hearAll position calls earlier) later) :
    Notes position calls (earlier ++ later) := by
  rw [Notes, hearAll_append, rest, first, List.filterMap_append, List.append_assoc]

theorem Notes.of_quiet {entries : List Entry} (unheard : hearAll position calls entries = calls)
    (unnoted : ∀ entry ∈ entries, entry.conflictAt? position = none) :
    Notes position calls entries := by
  rw [Notes, unheard, List.filterMap_eq_nil_iff.mpr unnoted, List.append_nil]

namespace Execution

variable {context : Context} {transaction : Option TransactionId} {sight : Sight} {e : Execution}

theorem conflicts_finish (position : Nat) (job : Job) (staged : Bool) (result : Except Failure Unit)
    (before : List Entry) :
    (finish job staged result before).entries.filterMap (Entry.conflictAt? position) =
      before.filterMap (Entry.conflictAt? position) := by
  simp [finish, Entry.conflictAt?]

theorem conflicts_idle (position : Nat) (idle : e.call? = none) :
    (e.turn context transaction sight).entries.filterMap (Entry.conflictAt? position) = [] := by
  obtain ⟨job, phase⟩ := e
  cases phase with
  | fresh =>
    unfold turn begin
    dsimp only
    split
    · exact conflicts_finish ..
    · rfl
    · rfl
  | finished result => rfl
  | broken fault => rfl
  | _ => cases idle

theorem conflicts_interrupted (position : Nat)
    (stopped : sight.progress = .ready (.error interruption)) :
    (e.turn context transaction sight).entries.filterMap (Entry.conflictAt? position) = [] := by
  cases waits : e.call? with
  | none => exact conflicts_idle position waits
  | some waiting =>
    obtain ⟨job, phase⟩ := e
    cases phase with
    | reading mutation attempts polls =>
      simp only [turn, stopped, conflicts_finish, List.filterMap_nil]
    | submitting request attempts polls =>
      simp only [turn, stopped, conflicts_finish, List.filterMap_nil]
    | pausing mutation attempts due polls =>
      simp only [turn, stopped, conflicts_finish, List.filterMap_nil]
    | _ => cases waits

theorem conflicts_afterRead (position : Nat) (job : Job) (mutation : Mutation)
    (attempts polls : Nat) (reply : Reply) :
    (afterRead job mutation attempts (.polled job .readVersion polls (some reply))
      reply).entries.filterMap (Entry.conflictAt? position) = [] := by
  unfold afterRead
  split
  · exact conflicts_finish ..
  · split <;> rfl

theorem conflicts_afterConflict (job : Job) (policy : Policy) (sight : Sight) (request : Request)
    (version attempts polls : Nat) (reply : Reply) :
    (afterConflict job policy sight request version attempts
      (.polled job (.submit request) polls (some reply))).entries.filterMap
        (Entry.conflictAt? job.position) = [request.kind] := by
  have noted : Entry.conflictAt? job.position (.conflict job request.kind) = some request.kind :=
    if_pos rfl
  have two : [Entry.polled job (.submit request) polls (some reply),
      .conflict job request.kind].filterMap (Entry.conflictAt? job.position) = [request.kind] := by
    rw [List.filterMap_cons_none rfl, List.filterMap_cons_some noted]
    rfl
  unfold afterConflict
  dsimp only
  split
  · exact (conflicts_finish ..).trans two
  · split <;> exact (List.filterMap_append ..).trans (congrArg (· ++ []) two)

theorem conflicts_afterSubmit (job : Job) (policy : Policy) (sight : Sight) (request : Request)
    (attempts polls : Nat) (reply : Reply) :
    (afterSubmit job policy sight request attempts
      (.polled job (.submit request) polls (some reply)) reply).entries.filterMap
        (Entry.conflictAt? job.position) = (Asked.stale? ⟨.submit request, some reply⟩).toList := by
  unfold afterSubmit
  split
  · rw [stale_failed]
    exact conflicts_finish ..
  · rename_i status
    rw [stale_submit]
    split
    · rename_i staged
      have queued : ¬(request.mode.isStaged = false ∧ status = conflictStatus) := by
        rintro ⟨runtime, -⟩
        rw [staged] at runtime
        cases runtime
      rw [if_neg queued]
      exact conflicts_finish ..
    · rename_i version runtime
      split
      · rename_i success
        have fresh : ¬(request.mode.isStaged = false ∧ status = conflictStatus) := by
          rintro ⟨-, rfl⟩
          cases success.symm.trans isSuccess_conflictStatus
        rw [if_neg fresh, conflicts_finish]
        split <;> rfl
      · split
        · rename_i stale
          rw [if_pos ⟨by rw [runtime]; rfl, stale⟩]
          exact conflicts_afterConflict ..
        · rename_i fresh
          rw [if_neg fun both => fresh both.2]
          exact conflicts_finish ..

-- A conflict is noted for each submission whose version was rejected, and for nothing else.
theorem conflicts_turn {progress : Progress Reply} (waits : e.call? = some (call, count))
    (seen : sight.progress = progress.map .ok) :
    (e.turn context transaction sight).entries.filterMap (Entry.conflictAt? e.job.position) =
      (Asked.stale? ⟨call, progress.value?⟩).toList := by
  obtain ⟨job, phase⟩ := e
  cases phase with
  | reading mutation attempts polls =>
    cases waits
    cases progress with
    | waiting wake => simp only [turn, seen, Progress.map]; rfl
    | ready reply =>
      simp only [turn, seen, Progress.map]
      exact conflicts_afterRead ..
  | submitting request attempts polls =>
    cases waits
    cases progress with
    | waiting wake => simp only [turn, seen, Progress.map]; rfl
    | ready reply =>
      simp only [turn, seen, Progress.map]
      exact conflicts_afterSubmit ..
  | pausing mutation attempts due polls =>
    cases waits
    cases progress <;> simp only [turn, seen, Progress.map] <;> rfl
  | _ => cases waits

theorem turn_notes (standing : Standing context.policy transaction e.job.operation calls e.phase) :
    Notes e.job.position calls (e.turn context transaction sight).entries := by
  have quiet (unpolled : (e.turn context transaction sight).entries.filter Entry.isPoll = [])
      (unnoted : (e.turn context transaction sight).entries.filterMap
        (Entry.conflictAt? e.job.position) = []) :
      Notes e.job.position calls (e.turn context transaction sight).entries := by
    rw [Notes, ← hearAll_polls, unpolled, unnoted, List.append_nil]
    rfl
  cases waits : e.call? with
  | none => exact quiet (polls_idle waits) (conflicts_idle _ waits)
  | some waiting =>
    obtain ⟨call, count⟩ := waiting
    have polled {progress : Progress Reply} (seen : sight.progress = progress.map .ok) :
        Notes e.job.position calls (e.turn context transaction sight).entries := by
      rw [Notes, ← hearAll_polls, polls_turn waits seen, conflicts_turn waits seen]
      rcases standing.asks_of_call waits with ⟨due, rfl⟩ | ⟨mutation, earlier, attempts, -, rfl, asks⟩
      · exact (List.append_nil _).symm
      · rw [hearAll_cons, hearAll_nil, hear_asking _ _ _ _ _ asks.call_ne_pause, conflicts_cons,
          conflicts_asking]
    cases seen : sight.progress with
    | waiting wake => exact @polled (.waiting wake) seen
    | ready outcome =>
      cases outcome with
      | error interruption => exact quiet (polls_interrupted seen) (conflicts_interrupted _ seen)
      | ok reply => exact @polled (.ready reply) seen

end Execution
end Reconcile
