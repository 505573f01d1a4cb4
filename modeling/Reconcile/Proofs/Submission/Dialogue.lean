import Reconcile.Submission.Execution

namespace Reconcile

-- A call of the API and its answer, once there is one.
structure Asked where
  call : Call
  reply : Option Reply

def Asked.isSubmission (a : Asked) : Bool :=
  match a.call with
  | .submit _ => true
  | _ => false

-- What an entry adds to the calls made for a position, newest first. The first poll makes a call,
-- and the later ones are polls of the same call. A pause calls nobody.
def Entry.hear (position : Nat) (calls : List Asked) : Entry → List Asked
  | .polled job call count reply =>
    match call with
    | .pause _ => calls
    | _ =>
      if job.position = position then ⟨call, reply⟩ :: (if count = 0 then calls else calls.tail)
      else calls
  | _ => calls

def Entry.job? : Entry → Option Job
  | .polled job .. | .conflict job .. | .retrying job .. | .settled job .. | .finished job .. =>
    some job
  | _ => none

def hearAll (position : Nat) (calls : List Asked) (entries : List Entry) : List Asked :=
  entries.foldl (Entry.hear position) calls

@[simp] theorem hearAll_nil (position : Nat) (calls : List Asked) :
    hearAll position calls [] = calls := rfl

@[simp] theorem hearAll_cons (position : Nat) (calls : List Asked) (entry : Entry)
    (rest : List Entry) : hearAll position calls (entry :: rest) =
      hearAll position (entry.hear position calls) rest := rfl

-- Whatever is heard has been told.
theorem Entry.mem_hear {entry : Entry} {calls : List Asked} {a : Asked}
    (heard : a ∈ entry.hear position calls) : a ∈ calls ∨
      ∃ job count, job.position = position ∧ entry = .polled job a.call count a.reply := by
  cases entry with
  | polled job call count reply =>
    have before : a ∈ (if count = 0 then calls else calls.tail) → a ∈ calls := by
      split
      · exact id
      · exact List.mem_of_mem_tail
    cases call with
    | pause due => exact .inl heard
    | _ =>
      dsimp only [hear] at heard
      split at heard
      · rcases List.mem_cons.mp heard with rfl | earlier
        · exact .inr ⟨job, count, ‹_›, rfl⟩
        · exact .inl (before earlier)
      · exact .inl heard
  | _ => exact .inl heard

theorem mem_hearAll {entries : List Entry} {calls : List Asked} {a : Asked}
    (heard : a ∈ hearAll position calls entries) : a ∈ calls ∨
      ∃ job count, job.position = position ∧ .polled job a.call count a.reply ∈ entries := by
  induction entries generalizing calls with
  | nil => exact .inl heard
  | cons entry rest ih =>
    rcases ih heard with before | ⟨job, count, same, later⟩
    · rcases Entry.mem_hear before with earlier | ⟨job, count, same, now⟩
      · exact .inl earlier
      · exact .inr ⟨job, count, same, now ▸ List.mem_cons_self⟩
    · exact .inr ⟨job, count, same, List.mem_cons_of_mem _ later⟩

-- Calls before the one at hand, and this one if it has been polled at all.
def asking (call : Call) (polls : Nat) (calls : List Asked) : List Asked :=
  if polls = 0 then calls else ⟨call, none⟩ :: calls

@[simp] theorem asking_zero (call : Call) (calls : List Asked) : asking call 0 calls = calls := rfl

theorem hear_asking (job : Job) (call : Call) (polls : Nat) (reply : Option Reply)
    (calls : List Asked) (other : ∀ due, call ≠ .pause due) :
    (Entry.polled job call polls reply).hear job.position (asking call polls calls) =
      ⟨call, reply⟩ :: calls := by
  cases call with
  | pause due => exact absurd rfl (other due)
  | _ => by_cases first : polls = 0 <;> simp [Entry.hear, asking, first]

-- Rounds of a version that was read and a submission that was rejected because of it, newest first,
-- none of which used up the retries.
inductive Retried (policy : Policy) (mutation : Mutation) : List Asked → Nat → Prop where
  | start : Retried policy mutation [] 0
  | again (earlier : Retried policy mutation calls rounds)
      (left : policy.exhausted (rounds + 1) = false) :
      Retried policy mutation
        (⟨.submit (mutation.request (.runtime version)), some (.ok conflictStatus)⟩ ::
          ⟨.readVersion, some (.ok version)⟩ :: calls) (rounds + 1)

-- Which call comes after which, and how many submissions there are with it.
inductive Asks (policy : Policy) (mutation : Mutation) :
    Option TransactionId → List Asked → Call → Nat → Prop where
  | stage : Asks policy mutation (some opened) [] (.submit (mutation.request (.staged opened))) 1
  | read (earlier : Retried policy mutation calls rounds) :
      Asks policy mutation none calls .readVersion rounds
  | submit (earlier : Retried policy mutation calls rounds) :
      Asks policy mutation none (⟨.readVersion, some (.ok version)⟩ :: calls)
        (.submit (mutation.request (.runtime version))) (rounds + 1)

inductive Ends (policy : Policy) (attempts : Nat) : Call → Reply → Except Failure Unit → Prop where
  | transport : Ends policy attempts call (.error error) (.error (.transport error))
  | applied (success : isSuccess status = true) :
      Ends policy attempts (.submit request) (.ok status) (.ok ())
  | rejected (failure : isSuccess status = false)
      (settled : request.mode.isStaged = true ∨ status ≠ conflictStatus) :
      Ends policy attempts (.submit request) (.ok status) (.error (.api (request.rejection status)))
  | exhausted (fresh : request.mode.isStaged = false) (used : policy.exhausted attempts = true) :
      Ends policy attempts (.submit request) (.ok conflictStatus)
        (.error (.conflict (request.rejection conflictStatus) attempts))

-- The calls made for an operation, newest first, and how far it has come with them.
inductive Standing (policy : Policy) (transaction : Option TransactionId) (op : Operation) :
    List Asked → Phase → Prop where
  | fresh : Standing policy transaction op [] .fresh
  | refused (unfit : op.prepare transaction.isSome = .error reason) :
      Standing policy transaction op [] (.finished (.error reason))
  | reading (prepared : op.prepare transaction.isSome = .ok mutation)
      (asks : Asks policy mutation transaction calls .readVersion attempts) :
      Standing policy transaction op (asking .readVersion polls calls)
        (.reading mutation attempts polls)
  | submitting (prepared : op.prepare transaction.isSome = .ok mutation)
      (asks : Asks policy mutation transaction calls (.submit request) attempts) :
      Standing policy transaction op (asking (.submit request) polls calls)
        (.submitting request attempts polls)
  | pausing (prepared : op.prepare transaction.isSome = .ok mutation)
      (earlier : Retried policy mutation calls attempts) (runtime : transaction = none) :
      Standing policy transaction op calls (.pausing mutation attempts due polls)
  | answered (prepared : op.prepare transaction.isSome = .ok mutation)
      (asks : Asks policy mutation transaction calls call attempts)
      (ends : Ends policy attempts call reply result) :
      Standing policy transaction op (⟨call, some reply⟩ :: calls) (.finished result)
  | interrupted (prepared : op.prepare transaction.isSome = .ok mutation)
      (asks : Asks policy mutation transaction calls call attempts) :
      Standing policy transaction op (asking call polls calls)
        (.finished (.error (.context interruption)))
  | overrun (prepared : op.prepare transaction.isSome = .ok mutation)
      (asks : Asks policy mutation transaction calls .readVersion attempts) :
      Standing policy transaction op (⟨.readVersion, some (.ok version)⟩ :: calls)
        (.broken .attempts)
  | overlong (prepared : op.prepare transaction.isSome = .ok mutation)
      (earlier : Retried policy mutation calls attempts) (runtime : transaction = none) :
      Standing policy transaction op calls (.broken fault)

-- A call that has not been polled yet has not been made.
theorem Standing.toRead {policy : Policy} {transaction : Option TransactionId} {op : Operation}
    {mutation : Mutation}
    (prepared : op.prepare transaction.isSome = .ok mutation)
    (asks : Asks policy mutation transaction calls .readVersion attempts) :
    Standing policy transaction op calls (.reading mutation attempts 0) := by
  rw [← asking_zero .readVersion calls]
  exact .reading prepared asks

theorem Standing.toSubmit {policy : Policy} {transaction : Option TransactionId} {op : Operation}
    {mutation : Mutation}
    (prepared : op.prepare transaction.isSome = .ok mutation)
    (asks : Asks policy mutation transaction calls (.submit request) attempts) :
    Standing policy transaction op calls (.submitting request attempts 0) := by
  rw [← asking_zero (.submit request) calls]
  exact .submitting prepared asks

-- An operation that is unfit to be sent is ended by its first turn.
theorem Standing.unfit {policy : Policy} {transaction : Option TransactionId} {op : Operation}
    (standing : Standing policy transaction op calls phase)
    (unfit : op.prepare transaction.isSome = .error reason) :
    phase = .fresh ∨ phase = .finished (.error reason) := by
  cases standing with
  | fresh => exact .inl rfl
  | refused same =>
    cases unfit.symm.trans same
    exact .inr rfl
  | _ prepared => cases unfit.symm.trans prepared

theorem Asks.call_ne_pause {policy : Policy} {mutation : Mutation}
    {transaction : Option TransactionId}
    (asks : Asks policy mutation transaction calls call attempts) (due : Nat) :
    call ≠ .pause due := by
  cases asks <;> nofun

-- Unless it is a pause, the call that an operation waits for is the next one of its conversation.
theorem Standing.asks_of_call {policy : Policy} {transaction : Option TransactionId}
    {op : Operation} {e : Execution} (standing : Standing policy transaction op calls e.phase)
    (waits : e.call? = some (call, count)) : (∃ due, call = .pause due) ∨
      ∃ mutation earlier attempts, op.prepare transaction.isSome = .ok mutation ∧
        calls = asking call count earlier ∧
        Asks policy mutation transaction earlier call attempts := by
  obtain ⟨job, phase⟩ := e
  cases standing with
  | reading prepared asks =>
    cases waits
    exact .inr ⟨_, _, _, prepared, rfl, asks⟩
  | submitting prepared asks =>
    cases waits
    exact .inr ⟨_, _, _, prepared, rfl, asks⟩
  | pausing =>
    cases waits
    exact .inl ⟨_, rfl⟩
  | _ => cases waits

@[simp] theorem hear_finished (position : Nat) (calls : List Asked) (job : Job) (staged : Bool)
    (result : Except Failure Unit) :
    (Entry.finished job staged result).hear position calls = calls := rfl

@[simp] theorem hear_pause (position : Nat) (calls : List Asked) (job : Job) (due count : Nat)
    (reply : Option Reply) :
    (Entry.polled job (.pause due) count reply).hear position calls = calls := rfl

@[simp] theorem mode_request (mutation : Mutation) (mode : ApplyMode) :
    (mutation.request mode).mode = mode := rfl

namespace Execution

variable {job : Job} {policy : Policy} {mutation : Mutation} {transaction : Option TransactionId}

-- The calls that a turn leaves, and where it leaves the operation with them.
def Turn.Stands (policy : Policy) (transaction : Option TransactionId) (job : Job)
    (calls : List Asked) (turn : Turn) : Prop :=
  Standing policy transaction job.operation (hearAll job.position calls turn.entries) turn.phase

theorem begin_stands (policy : Policy) :
    Turn.Stands policy transaction job [] (begin job transaction) := by
  unfold begin
  split
  · exact .refused ‹_›
  · exact .toSubmit ‹_› .stage
  · exact .toRead ‹_› (.read .start)

theorem afterRead_stands (prepared : job.operation.prepare transaction.isSome = .ok mutation)
    (asks : Asks policy mutation transaction calls .readVersion attempts) (polls : Nat)
    (reply : Reply) :
    Turn.Stands policy transaction job (asking .readVersion polls calls)
      (afterRead job mutation attempts (.polled job .readVersion polls (some reply)) reply) := by
  have heard := hear_asking job .readVersion polls (some reply) calls nofun
  unfold Turn.Stands
  cases reply with
  | error error =>
    simp only [afterRead, finish, List.singleton_append, hearAll_cons, heard]
    exact .answered prepared asks .transport
  | ok version =>
    by_cases room : attempts + 1 < attemptLimit
    · cases asks with
      | read earlier =>
        simp only [afterRead, if_pos room, hearAll_cons, heard]
        exact .toSubmit prepared (.submit earlier)
    · simp only [afterRead, if_neg room, hearAll_cons, heard]
      exact .overrun prepared asks

theorem afterConflict_stands (prepared : job.operation.prepare transaction.isSome = .ok mutation)
    (earlier : Retried policy mutation calls rounds) (runtime : transaction = none) (sight : Sight)
    (version polls : Nat) :
    Turn.Stands policy transaction job
      (asking (.submit (mutation.request (.runtime version))) polls
        (⟨.readVersion, some (.ok version)⟩ :: calls))
      (afterConflict job policy sight (mutation.request (.runtime version)) version (rounds + 1)
        (.polled job (.submit (mutation.request (.runtime version))) polls
          (some (.ok conflictStatus)))) := by
  subst runtime
  have heard := hear_asking job (.submit (mutation.request (.runtime version))) polls
    (some (.ok conflictStatus)) (⟨.readVersion, some (.ok version)⟩ :: calls) nofun
  unfold Turn.Stands afterConflict
  cases used : policy.exhausted (rounds + 1) with
  | true =>
    simp only [if_true, finish, List.cons_append, hearAll_cons, heard]
    exact .answered prepared (.submit earlier) (.exhausted rfl used)
  | false =>
    have again : Retried policy mutation
        (⟨.submit (mutation.request (.runtime version)), some (.ok conflictStatus)⟩ ::
          ⟨.readVersion, some (.ok version)⟩ :: calls) (rounds + 1) := .again earlier used
    simp only [Bool.false_eq_true, if_false]
    split
    · simp only [List.cons_append, hearAll_cons, heard]
      exact .overlong prepared again rfl
    · simp only [List.cons_append, hearAll_cons, heard]
      exact .toRead prepared (.read again)
    · simp only [List.cons_append, hearAll_cons, heard]
      exact .pausing prepared again rfl

theorem afterSubmit_stands (prepared : job.operation.prepare transaction.isSome = .ok mutation)
    (asks : Asks policy mutation transaction calls (.submit request) attempts) (sight : Sight)
    (polls : Nat) (reply : Reply) :
    Turn.Stands policy transaction job (asking (.submit request) polls calls)
      (afterSubmit job policy sight request attempts
        (.polled job (.submit request) polls (some reply)) reply) := by
  have heard := hear_asking job (.submit request) polls (some reply) calls nofun
  unfold Turn.Stands
  cases reply with
  | error error =>
    simp only [afterSubmit, finish, List.singleton_append, hearAll_cons, heard]
    exact .answered prepared asks .transport
  | ok status =>
    cases asks with
    | stage =>
      cases success : isSuccess status with
      | true =>
        simp only [afterSubmit, mode_request, success, finish, List.singleton_append, hearAll_cons,
          heard]
        exact .answered prepared .stage (.applied success)
      | false =>
        simp only [afterSubmit, mode_request, success, finish, List.singleton_append, hearAll_cons,
          heard]
        exact .answered prepared .stage (.rejected success (.inl rfl))
    | @submit _ rounds _ earlier =>
      cases success : isSuccess status with
      | true =>
        simp only [afterSubmit, mode_request, success, if_true]
        by_cases retried : 1 < rounds + 1
        · simp only [if_pos retried, finish, List.cons_append, hearAll_cons, heard]
          exact .answered prepared (.submit earlier) (.applied success)
        · simp only [if_neg retried, finish, List.cons_append, hearAll_cons, heard]
          exact .answered prepared (.submit earlier) (.applied success)
      | false =>
        by_cases stale : status = conflictStatus
        · subst stale
          simp only [afterSubmit, mode_request, success, Bool.false_eq_true, if_false, if_true]
          exact afterConflict_stands prepared earlier rfl sight _ polls
        · simp only [afterSubmit, mode_request, success, Bool.false_eq_true, if_false, if_neg stale,
            finish, List.singleton_append, hearAll_cons, heard]
          exact .answered prepared (.submit earlier) (.rejected success (.inr stale))

-- Whatever an operation gets to see, its calls keep to the protocol.
theorem turn_stands {e : Execution} (context : Context) (sight : Sight)
    (standing : Standing context.policy transaction e.job.operation calls e.phase) :
    Turn.Stands context.policy transaction e.job calls (e.turn context transaction sight) := by
  obtain ⟨job, phase⟩ := e
  cases standing with
  | fresh => exact begin_stands context.policy
  | refused unfit => exact .refused unfit
  | answered prepared asks ends => exact .answered prepared asks ends
  | interrupted prepared asks => exact .interrupted prepared asks
  | overrun prepared asks => exact .overrun prepared asks
  | overlong prepared earlier runtime => exact .overlong prepared earlier runtime
  | @reading _ before _ polls prepared asks =>
    cases seen : sight.progress with
    | waiting wake =>
      simp only [Turn.Stands, turn, seen, hearAll_cons,
        hear_asking job .readVersion polls none before nofun]
      exact @Standing.reading _ _ _ _ _ _ (polls + 1) prepared asks
    | ready outcome =>
      cases outcome with
      | error interruption =>
        simp only [Turn.Stands, turn, seen, finish, List.nil_append, hearAll_cons, hearAll_nil,
          hear_finished]
        exact .interrupted prepared asks
      | ok reply =>
        simp only [turn, seen]
        exact afterRead_stands prepared asks polls reply
  | @submitting _ before request _ polls prepared asks =>
    cases seen : sight.progress with
    | waiting wake =>
      simp only [Turn.Stands, turn, seen, hearAll_cons,
        hear_asking job (.submit request) polls none before nofun]
      exact @Standing.submitting _ _ _ _ _ _ _ (polls + 1) prepared asks
    | ready outcome =>
      cases outcome with
      | error interruption =>
        simp only [Turn.Stands, turn, seen, finish, List.nil_append, hearAll_cons, hearAll_nil,
          hear_finished]
        exact .interrupted prepared asks
      | ok reply =>
        simp only [turn, seen]
        exact afterSubmit_stands prepared asks sight polls reply
  | pausing prepared earlier runtime =>
    subst runtime
    cases seen : sight.progress with
    | waiting wake =>
      simp only [Turn.Stands, turn, seen, hearAll_cons, hear_pause]
      exact .pausing prepared earlier rfl
    | ready outcome =>
      cases outcome with
      | error interruption =>
        simp only [Turn.Stands, turn, seen, finish, List.nil_append, hearAll_cons, hearAll_nil,
          hear_finished]
        rw [← asking_zero .readVersion calls]
        exact .interrupted prepared (.read earlier)
      | ok reply =>
        simp only [Turn.Stands, turn, seen, hearAll_cons, hear_pause]
        exact .toRead prepared (.read earlier)

theorem finish_entries_job {before : List Entry} (own : ∀ entry ∈ before, entry.job? = some job)
    (staged : Bool) (result : Except Failure Unit) :
    ∀ entry ∈ (finish job staged result before).entries, entry.job? = some job := by
  intro entry mem
  rcases List.mem_append.mp mem with earlier | last
  · exact own entry earlier
  · rw [List.mem_singleton.mp last]
    rfl

-- An operation at its turn speaks of itself only.
theorem turn_entries_job (context : Context) (sight : Sight) (e : Execution) :
    ∀ entry ∈ (e.turn context transaction sight).entries, entry.job? = some e.job := by
  unfold turn begin afterRead afterSubmit afterConflict
  repeat' split
  all_goals first
    | exact finish_entries_job (by simp [Entry.job?]) _ _
    | simp [Entry.job?]

end Execution

theorem hear_other {entry : Entry} {job : Job} (own : entry.job? = some job) {position : Nat}
    (other : job.position ≠ position) (calls : List Asked) : entry.hear position calls = calls := by
  cases entry with
  | polled polledJob call count reply =>
    cases own
    cases call <;> simp [Entry.hear, other]
  | _ => rfl

theorem hearAll_other {entries : List Entry} {job : Job}
    (own : ∀ entry ∈ entries, entry.job? = some job) {position : Nat}
    (other : job.position ≠ position) (calls : List Asked) :
    hearAll position calls entries = calls := by
  induction entries generalizing calls with
  | nil => rfl
  | cons entry rest ih =>
    rw [hearAll_cons, hear_other (own entry (List.mem_cons_self ..)) other]
    exact ih (fun entry mem => own entry (List.mem_cons_of_mem _ mem)) calls

end Reconcile
