import Reconcile.Proofs.Batch.Interruption
import Reconcile.Proofs.Submission.Conversation

namespace Reconcile

namespace GroupRun

variable {σ : Type} {transport : Transport σ} {context : Context}
  {transaction : Option TransactionId} {r : GroupRun σ}

theorem group_step : (r.step transport context transaction).group = (r.group.step context
    transaction (r.world.meet transport context r.group.demand).1).1 := rfl

variable (transaction) in
theorem hear_exchange (position : Nat) (calls : List Asked) :
    hearAll position calls (r.world.exchange transport context r.group.demand) =
      hearAll position calls (r.group.step context transaction
        (r.world.meet transport context r.group.demand).1).2 := by
  rw [← Group.polls_step transport context transaction, hearAll_polls]

theorem step_finished {job : Job} {result : Except Failure Unit}
    (distinct : (r.group.members.map (·.job.position)).Nodup)
    (complete : (job, result) ∈ r.group.results) :
    (job, result) ∈ (r.step transport context transaction).group.results ∧ ∀ heard,
      hearAll job.position heard (r.world.exchange transport context r.group.demand) = heard := by
  constructor
  · exact (Group.step_finished distinct complete []).1
  · intro heard
    rw [hear_exchange transaction]
    exact (Group.step_finished distinct complete heard).2

theorem step_stands {calls : Nat → List Asked}
    (stands : r.group.Stands context.policy transaction calls) :
    (r.step transport context transaction).group.Stands context.policy transaction
      (fun position => hearAll position (calls position)
        (r.world.exchange transport context r.group.demand)) := by
  have next := stands.step (r.world.meet transport context r.group.demand).1
  simp only [← hear_exchange transaction] at next
  exact next

theorem after_add (m n : Nat) : r.after transport context transaction (m + n) =
    (r.after transport context transaction m).after transport context transaction n := by
  induction m generalizing r with
  | zero => rw [Nat.zero_add, after]
  | succ m ih => rw [Nat.succ_add, after, after, ih]

theorem exchanges_add (m n : Nat) : r.exchanges transport context transaction (m + n) =
    r.exchanges transport context transaction m ++
      (r.after transport context transaction m).exchanges transport context transaction n := by
  induction m generalizing r with
  | zero => rw [Nat.zero_add, after, exchanges, List.nil_append]
  | succ m ih => rw [Nat.succ_add, exchanges, exchanges, after, ih, List.append_assoc]

theorem after_stands {calls : Nat → List Asked}
    (stands : r.group.Stands context.policy transaction calls) (n : Nat) :
    (r.after transport context transaction n).group.Stands context.policy transaction
      (fun position => hearAll position (calls position)
        (r.exchanges transport context transaction n)) := by
  induction n generalizing r calls with
  | zero => exact stands
  | succ n ih =>
    simp only [after, exchanges, hearAll_append]
    exact ih (step_stands stands)

theorem jobs_after (n : Nat) :
    (r.after transport context transaction n).group.members.map (·.job) =
      r.group.members.map (·.job) := by
  induction n generalizing r with
  | zero => rfl
  | succ n ih => exact ih.trans Group.jobs_step

theorem after_finished {job : Job} {result : Except Failure Unit} {calls : Nat → List Asked}
    (stands : r.group.Stands context.policy transaction calls)
    (complete : (job, result) ∈ r.group.results) (n : Nat) :
    (job, result) ∈ (r.after transport context transaction n).group.results ∧
      ∀ heard,
        hearAll job.position heard (r.exchanges transport context transaction n) = heard := by
  induction n generalizing r calls with
  | zero => exact ⟨complete, fun _ => rfl⟩
  | succ n ih =>
    obtain ⟨still, silent⟩ := step_finished stands.distinct complete
    obtain ⟨kept, later⟩ := ih (step_stands stands) still
    refine ⟨kept, fun heard => ?_⟩
    rw [exchanges, hearAll_append, silent, later]

variable (transport transaction) in
theorem interrupts (asks : r.group.demand = .poll job call count)
    (stopped : context.interruption? r.world.moment = some interruption) :
    (job, .error (.context interruption)) ∈
      (r.step transport context transaction).group.results := by
  rw [group_step, asks, World.meet_interrupted transport stopped]
  exact Group.step_interrupted asks rfl

theorem interrupted_of_step {job : Job}
    (prepared : job.operation.prepare transaction.isSome = .ok mutation)
    (complete : (job, .error (.context interruption)) ∈
      (r.step transport context transaction).group.results) :
    (job, .error (.context interruption)) ∈ r.group.results ∨
      ∃ call count, r.group.demand = .poll job call count ∧
        context.interruption? r.world.moment = some interruption := by
  rw [group_step] at complete
  rcases Group.interrupted_of_step prepared complete with before | ⟨call, count, asks, seen⟩
  · exact .inl before
  · refine .inr ⟨call, count, asks, ?_⟩
    rw [asks] at seen
    cases stop : context.interruption? r.world.moment with
    | none =>
      rw [World.progress_meet transport stop] at seen
      cases progress : (World.poll transport job call count r.world).1 with
      | waiting wake => rw [progress] at seen; cases seen
      | ready reply => rw [progress] at seen; cases seen
    | some other =>
      rw [World.meet_interrupted transport stop] at seen
      cases seen
      rfl

theorem after_succ (n : Nat) : r.after transport context transaction (n + 1) =
    (r.after transport context transaction n).step transport context transaction := after_add n 1

theorem calls_of_silent {n more position : Nat}
    (silent : ∀ heard, hearAll position heard
      ((r.after transport context transaction n).exchanges transport context transaction more) =
        heard) :
    r.calls transport context transaction (n + more) position =
      r.calls transport context transaction n position := by
  rw [calls, exchanges_add, hearAll_append, silent]
  rfl

-- Whoever has ended keeps the result and makes no further call.
theorem ended_for_good {job : Job} {result : Except Failure Unit} {heard : Nat → List Asked}
    (stands : r.group.Stands context.policy transaction heard) {n : Nat}
    (complete : (job, result) ∈ (r.after transport context transaction n).group.results)
    (more : Nat) :
    (job, result) ∈ (r.after transport context transaction (n + more)).group.results ∧
      r.calls transport context transaction (n + more) job.position =
        r.calls transport context transaction n job.position := by
  obtain ⟨kept, silent⟩ := after_finished (after_stands stands n) complete more
  rw [after_add]
  exact ⟨kept, calls_of_silent silent⟩

-- An interruption ends the operation that it meets, and nothing else ends with one.
theorem interrupted_iff {job : Job} {heard : Nat → List Asked}
    (prepared : job.operation.prepare transaction.isSome = .ok mutation)
    (stands : r.group.Stands context.policy transaction heard)
    (going : (job, .error (.context interruption)) ∉ r.group.results) (n : Nat) :
    (job, .error (.context interruption)) ∈
        (r.after transport context transaction n).group.results ↔
      ∃ k < n, (∃ call count,
          (r.after transport context transaction k).group.demand = .poll job call count) ∧
        context.interruption? (r.after transport context transaction k).world.moment =
          some interruption ∧
        r.calls transport context transaction n job.position =
          r.calls transport context transaction k job.position := by
  constructor
  · intro complete
    induction n with
    | zero => exact absurd complete going
    | succ n ih =>
      by_cases before : (job, .error (.context interruption)) ∈
          (r.after transport context transaction n).group.results
      · obtain ⟨k, earlier, asks, stopped, same⟩ := ih before
        obtain ⟨_, kept⟩ := ended_for_good stands before 1
        exact ⟨k, Nat.lt_succ_of_lt earlier, asks, stopped, kept.trans same⟩
      · rw [after_succ] at complete
        rcases interrupted_of_step prepared complete with ended | ⟨call, count, asks, stopped⟩
        · exact absurd ended before
        · refine ⟨n, Nat.lt_succ_self n, ⟨call, count, asks⟩, stopped, ?_⟩
          apply calls_of_silent
          intro heard
          rw [exchanges, World.exchange_interrupted transport stopped]
          rfl
  · rintro ⟨k, before, ⟨call, count, asks⟩, stopped, -⟩
    obtain ⟨more, rfl⟩ := Nat.exists_eq_add_of_lt before
    have complete := interrupts transport transaction asks stopped
    rw [← after_succ] at complete
    have kept := (ended_for_good stands complete more).1
    rwa [Nat.add_right_comm] at kept

-- What the operations of a group say and hear outside a transaction.
theorem conflicts_keep_protocol (transport : Transport σ) (context : Context) (world : World σ)
    (jobs : List Job) (distinct : (jobs.map (·.position)).Nodup) (job : Job) (mem : job ∈ jobs)
    (mutation : Mutation) (prepared : job.operation.prepare false = .ok mutation) (n : Nat) :
    let run : GroupRun σ := ⟨world, .start jobs⟩
    let state (k : Nat) := run.after transport context none k
    let calls (k : Nat) := run.calls transport context none k job.position
    let ends (k : Nat) (result : Except Failure Unit) := (job, result) ∈ (state k).group.results
    Protocol mutation (calls n) ∧
      Concluded context.policy (calls n) (ends n) ∧
      (∀ interruption, ends n (.error (.context interruption)) ↔ ∃ k < n,
        (∃ call count, (state k).group.demand = .poll job call count) ∧
          context.interruption? (state k).world.moment = some interruption ∧
          calls n = calls k) ∧
      (∀ result, ends n result → ∀ later, n ≤ later → calls later = calls n ∧
        ∀ other, ends later other ↔ other = result) ∧
      (∀ retries, context.policy.maxRetries = some retries →
        (submissions (calls n)).length ≤ retries.toNat + 1) := by
  intro run state calls ends
  have started : run.group.Stands context.policy none fun _ => [] :=
    Group.start_stands context.policy none distinct fun _ _ => rfl
  have stands (k : Nat) : (state k).group.Stands context.policy none _ := after_stands started k
  have present : ∃ e ∈ (state n).group.members, e.job = job := by
    apply List.mem_map.mp
    rw [jobs_after, Group.members_start, List.map_map]
    exact List.mem_map.mpr ⟨job, mem, rfl⟩
  obtain ⟨e, member, rfl⟩ := present
  have standing := (stands n).standing e member
  have spoken := standing.spoken prepared
  refine ⟨spoken.protocol, spoken.concluded ?_, ?_, ?_, ?_⟩
  · intro result answered
    exact (Group.result_of_mem (stands n).distinct member).trans
      (standing.finished_iff prepared answered)
  · intro interruption
    apply interrupted_iff prepared started
    intro complete
    obtain ⟨other, mem', -, ended⟩ := Group.mem_results.mp complete
    rw [Group.members_start] at mem'
    obtain ⟨_, _, rfl⟩ := List.mem_map.mp mem'
    cases ended
  · intro result complete later after
    obtain ⟨more, rfl⟩ := Nat.exists_eq_add_of_le after
    obtain ⟨kept, same⟩ := ended_for_good started complete more
    refine ⟨same, fun other => ⟨fun again => ?_, fun same => same ▸ kept⟩⟩
    exact Group.result_unique (stands (n + more)).distinct again kept
  · intro retries bound
    show (submissions (List.reverse _)).length ≤ _
    rw [submissions_reverse, List.length_reverse]
    exact spoken.submissions_length_le bound

-- Another writer comes first once; the version after that is good.
def staleOnce : Transport Nat where
  poll _ _ call _ version :=
    match call with
    | .submit request =>
      if request.mode = .runtime version then ⟨.ready (.ok 200), version + 1, false, []⟩
      else ⟨.ready (.ok conflictStatus), version, false, []⟩
    | _ => ⟨.ready (.ok version), max version 4, false, []⟩
  between _ version := ⟨version, false, none⟩

def weighedServer : Job :=
  ⟨0, ⟨.update, .server, .child ⟨.backend, "api"⟩ "web", some ⟨"web", .ok []⟩⟩⟩

def weighedServerRun : GroupRun Nat := ⟨⟨0, false, 3, fun _ => 0, 0, []⟩, .start [weighedServer]⟩

theorem weighedServer_keeps_protocol :
    let context : Context := ⟨none, ⟨some 1, 0, 0⟩⟩
    let mutation : Mutation :=
      ⟨.update, .server, .child ⟨.backend, "api"⟩ "web", some (.object [])⟩
    let calls := weighedServerRun.calls staleOnce context none 5 0
    ([weighedServer].map (·.position)).Nodup ∧ weighedServer ∈ [weighedServer] ∧
      weighedServer.operation.prepare false = .ok mutation ∧
      calls = [⟨.readVersion, some (.ok 3)⟩,
        ⟨.submit (mutation.request (.runtime 3)), some (.ok 409)⟩, ⟨.readVersion, some (.ok 4)⟩,
        ⟨.submit (mutation.request (.runtime 4)), some (.ok 200)⟩] ∧
      Protocol mutation calls ∧
      (weighedServer, .ok ()) ∈
        (weighedServerRun.after staleOnce context none 5).group.results := by
  intro context mutation calls
  have distinct : ([weighedServer].map (·.position)).Nodup := by decide
  have prepared : weighedServer.operation.prepare false = .ok mutation := rfl
  obtain ⟨keeps, concluded, -⟩ := conflicts_keep_protocol staleOnce context
    ⟨0, false, 3, fun _ => 0, 0, []⟩ [weighedServer] distinct weighedServer
    (List.mem_singleton_self _) mutation prepared 5
  have said : calls = [⟨.readVersion, some (.ok 3)⟩,
      ⟨.submit (mutation.request (.runtime 3)), some (.ok 409)⟩, ⟨.readVersion, some (.ok 4)⟩,
      ⟨.submit (mutation.request (.runtime 4)), some (.ok 200)⟩] := by cbv
  refine ⟨distinct, List.mem_singleton_self _, prepared, said, keeps, concluded.applied.mpr ?_⟩
  exact ⟨mutation.request (.runtime 4), 200, congrArg List.getLast? said, rfl⟩

end GroupRun
end Reconcile
