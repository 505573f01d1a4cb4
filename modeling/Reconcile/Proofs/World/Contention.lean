import Reconcile.Proofs.Batch.Accounting
import Reconcile.Proofs.Server.Acceptance
import Reconcile.Proofs.World.LostUpdates

namespace Reconcile

variable {σ : Type}

-- Every answer arrives, and nobody cancels.
structure Reliable (transport : Transport σ) : Prop where
  answers : ∀ now job call count s error,
    (transport.poll now job call count s).progress ≠ .ready (.error error)
  steady : ∀ now job call count s, (transport.poll now job call count s).cancels = false
  still : ∀ now s, (transport.between now s).cancels = false

theorem Server.unhurried_reliable (others : Bool) : Reliable (Server.unhurried others) := by
  have served : ∀ now job call count s,
      (∀ error, ((Server.unhurried others).poll now job call count s).progress ≠
        .ready (.error error)) ∧
      ((Server.unhurried others).poll now job call count s).cancels = false := by
    intro now job call count s
    unfold Server.unhurried
    dsimp only
    split
    · exact ⟨nofun, rfl⟩
    · split
      · split
        · exact ⟨nofun, rfl⟩
        · exact ⟨nofun, rfl⟩
      · exact ⟨nofun, rfl⟩
  refine ⟨fun now job call count s => (served now job call count s).1,
    fun now job call count s => (served now job call count s).2, fun now s => ?_⟩
  unfold Server.unhurried
  dsimp only
  split <;> rfl

def Asked.Arrives (a : Asked) : Prop := ∀ error, a.reply ≠ some (.error error)

def Entry.Arrives (entry : Entry) : Prop :=
  ∀ job call count error, entry ≠ .polled job call count (some (.error error))

theorem hearAll_arrives {position : Nat} {calls : List Asked} {entries : List Entry}
    (earlier : ∀ a ∈ calls, a.Arrives) (later : ∀ entry ∈ entries, entry.Arrives) :
    ∀ a ∈ hearAll position calls entries, a.Arrives := by
  rintro a heard error answered
  rcases mem_hearAll heard with before | ⟨job, count, -, told⟩
  · exact earlier a before error answered
  · exact later _ told job a.call count error (by rw [answered])

namespace World

variable {transport : Transport σ} {w : World σ}

theorem exchange_arrives (reliable : Reliable transport) (context : Context) (demand : Demand) :
    ∀ entry ∈ w.exchange transport context demand, entry.Arrives := by
  cases demand with
  | poll job call count =>
    intro entry mem place asked polls error same
    unfold exchange at mem
    dsimp only at mem
    split at mem
    · cases mem
    · rw [List.mem_singleton.mp mem] at same
      injection same with _ _ _ brought
      have arrived := Progress.ready_of_value brought
      cases call with
      | pause due =>
        unfold poll Moment.pause at arrived
        dsimp only at arrived
        split at arrived <;> cases arrived
      | _ => exact reliable.answers _ _ _ _ _ _ arrived
  | _ => exact fun _ absent => (List.not_mem_nil absent).elim

-- Nobody stops what nobody cancels.
theorem calm_meet (reliable : Reliable transport) (context : Context) (demand : Demand)
    (calm : w.cancelled = false) : (w.meet transport context demand).2.cancelled = false := by
  cases demand with
  | nothing => exact calm
  | rest wakes =>
    have still := reliable.still w.moment w.server
    simp only [meet, rest]
    exact Bool.or_eq_false_iff.mpr ⟨calm, still⟩
  | poll job call count =>
    cases stop : context.interruption? w.moment with
    | some interruption =>
      rw [meet_interrupted transport stop]
      exact calm
    | none =>
      have steady := reliable.steady w.moment job call count w.server
      simp only [meet, Context.guard, stop]
      cases call with
      | pause due => exact calm
      | _ => exact Bool.or_eq_false_iff.mpr ⟨calm, steady⟩

end World

theorem verdict_cases {policy : Policy} {calls : List Asked} {result : Except Failure Unit}
    (said : verdict policy calls = some result) :
    result = .ok () ∨ (∃ rejection, result = .error (.api rejection)) ∨
      (∃ rejection attempts, result = .error (.conflict rejection attempts)) ∨
        ∃ error, result = .error (.transport error) := by
  unfold verdict at said
  split at said
  · exact .inr (.inr (.inr ⟨_, (Option.some.inj said).symm⟩))
  · split at said
    · exact .inl (Option.some.inj said).symm
    · split at said
      · split at said
        · exact .inr (.inr (.inl ⟨_, _, (Option.some.inj said).symm⟩))
        · cases said
      · exact .inr (.inl ⟨_, (Option.some.inj said).symm⟩)
  · cases said

-- Who gives up because of conflicts has met more of them than there are retries.
theorem Spoken.retries_lt_conflicts {policy : Policy} {mutation : Mutation} {calls : List Asked}
    {rejection : Rejection} {attempts : Nat} (spoken : Spoken policy mutation calls)
    (said : verdict policy calls = some (.error (.conflict rejection attempts))) :
    ∃ retries, policy.maxRetries = some retries ∧
      retries.toNat < calls.countP Asked.isConflict := by
  obtain ⟨request, last, used, rfl, -⟩ := verdict_exhausted.mp said
  obtain ⟨retries, bound, fewer⟩ := Option.any_eq_true _ _ |>.mp used
  refine ⟨retries, bound, Nat.lt_of_lt_of_le (of_decide_eq_true fewer) ?_⟩
  rw [submissions, ← List.countP_eq_length_filter]
  refine List.countP_mono_left fun a mem submitted => ?_
  obtain ⟨call, reply⟩ := a
  have stale : reply = some (.ok conflictStatus) :=
    spoken.submissions_stale last ⟨call, reply⟩ (List.mem_filter.mpr ⟨mem, submitted⟩)
  cases call with
  | submit request => exact stale ▸ beq_self_eq_true conflictStatus
  | _ => cases submitted

-- Where every answer arrives and there is no end to the retries, an answer that ends an operation tells
-- it of success.
theorem Server.Agrees.applied {others : Bool} {heard : Nat → List Asked} {s : Server}
    {policy : Policy} {result : Except Failure Unit} (agrees : s.Agrees others heard)
    (arrives : ∀ a ∈ heard position, a.Arrives)
    (said : verdict policy (heard position) = some result)
    (patient : ∀ rejection attempts, result ≠ .error (.conflict rejection attempts)) :
    result = .ok () := by
  rcases verdict_cases said with success | ⟨rejection, rfl⟩ | ⟨rejection, attempts, rfl⟩ | ⟨error, rfl⟩
  · exact success
  · obtain ⟨request, status, last, failure, other, -⟩ := verdict_rejected.mp said
    obtain ⟨earlier, spoken⟩ := List.head?_eq_some_iff.mp last
    rcases agrees.settled spoken with success | stale
    · cases failure.symm.trans success
    · exact absurd stale other
  · exact absurd rfl (patient rejection attempts)
  · obtain ⟨call, last⟩ := verdict_unanswered.mp said
    exact absurd rfl (arrives _ (List.mem_of_head? last) error)

namespace Group.Stands

variable {g : Group} {policy : Policy} {heard : Nat → List Asked}

-- As long as there are as many retries as conflicts, nobody gives up because of them.
theorem unexhausted (stands : g.Stands policy none heard)
    (ready : ∀ e ∈ g.members, ∃ mutation, e.job.operation.prepare false = .ok mutation)
    (patient : ∀ e ∈ g.members, ∀ retries, policy.maxRetries = some retries →
      (heard e.job.position).countP Asked.isConflict ≤ retries.toNat)
    (job : Job) (rejection : Rejection) (attempts : Nat) :
    (job, .error (.conflict rejection attempts)) ∉ g.results := by
  intro gaveUp
  obtain ⟨e, mem, rfl, last⟩ := mem_results.mp gaveUp
  obtain ⟨mutation, prepared⟩ := ready e mem
  have standing := stands.standing e mem
  have answered : ∀ i, (.error (.conflict rejection attempts) : Except Failure Unit) ≠
      .error (.context i) := nofun
  have said := (standing.finished_iff prepared answered).mp last
  obtain ⟨retries, bound, more⟩ := (standing.spoken prepared).retries_lt_conflicts said
  exact Nat.not_lt_of_le (patient e mem retries bound) more

theorem applied {s : Server} (stands : g.Stands policy none heard) (agrees : s.Agrees others heard)
    (complete : g.ended = true) (sound : g.fault? = none)
    (resolute : ∀ job rejection attempts, (job, .error (.conflict rejection attempts)) ∉ g.results)
    (said : ∀ e ∈ g.members, ∀ result, e.phase = .finished result →
      verdict policy (heard e.job.position) = some result)
    (arrives : ∀ position, ∀ a ∈ heard position, a.Arrives) :
    ∀ e ∈ g.members, e.phase = .finished (.ok ()) := by
  intro e mem
  obtain ⟨result, last⟩ := finished_of_mem complete sound mem
  have success : result = .ok () := by
    apply agrees.applied (arrives e.job.position) (said e mem result last)
    rintro rejection attempts rfl
    exact resolute e.job rejection attempts ((result_of_mem stands.distinct mem).mpr last)
  exact success ▸ last

end Group.Stands

namespace GroupRun

variable {transport : Transport σ} {context : Context} {transaction : Option TransactionId}
  {r : GroupRun σ}

theorem exchanges_arrive (reliable : Reliable transport) (n : Nat) :
    ∀ entry ∈ r.exchanges transport context transaction n, entry.Arrives := by
  induction n generalizing r with
  | zero => exact fun _ absent => (List.not_mem_nil absent).elim
  | succ n ih =>
    intro entry mem
    rcases List.mem_append.mp mem with now | later
    · exact World.exchange_arrives reliable context r.group.demand entry now
    · exact ih entry later

theorem calm_after (reliable : Reliable transport) (calm : r.world.cancelled = false) (n : Nat) :
    (r.after transport context transaction n).world.cancelled = false := by
  induction n generalizing r with
  | zero => exact calm
  | succ n ih => exact ih (World.calm_meet reliable context r.group.demand calm)

-- Nobody hears of a position that no operation has.
theorem silent_of_absent {position : Nat} (absent : position ∉ r.group.members.map (·.job.position))
    (n : Nat) (heard : List Asked) :
    hearAll position heard (r.exchanges transport context transaction n) = heard := by
  induction n generalizing r heard with
  | zero => rfl
  | succ n ih =>
    have later : position ∉
        (r.step transport context transaction).group.members.map (·.job.position) := by
      rw [group_step, Group.positions_step]
      exact absent
    rw [exchanges, hearAll_append, ih later, hear_exchange transaction,
      Group.hear_step_of_absent absent]

theorem submissions_calls (n position : Nat) :
    (submissions (r.calls transport context transaction n position)).length =
      (submissions (hearAll position [] (r.exchanges transport context transaction n))).length := by
  rw [calls, submissions_reverse, List.length_reverse]

theorem conflicts_calls (n position : Nat) :
    (r.calls transport context transaction n position).countP Asked.isConflict =
      (hearAll position [] (r.exchanges transport context transaction n)).countP
        Asked.isConflict := by
  rw [calls, List.countP_reverse]

-- Without a cancellation and a deadline, an operation that ends is ended by an answer.
theorem verdict_of_finished {heard : Nat → List Asked} (reliable : Reliable transport)
    (stands : r.group.Stands context.policy none heard) (calm : r.world.cancelled = false)
    (timeless : context.deadline = none) (unfinished : r.group.results = []) {n : Nat}
    (mem : e ∈ (r.after transport context none n).group.members)
    (prepared : e.job.operation.prepare false = .ok mutation) (last : e.phase = .finished result) :
    verdict context.policy
      (hearAll e.job.position (heard e.job.position) (r.exchanges transport context none n)) =
        some result := by
  have after : (r.after transport context none n).group.Stands context.policy none _ :=
    after_stands stands n
  rcases (after.standing e mem).verdict prepared with ⟨ended, complete, said⟩ | ⟨-, interrupted⟩
  · cases last.symm.trans complete
    exact said
  · obtain ⟨i, rfl⟩ := interrupted result last
    have complete := (Group.result_of_mem after.distinct mem).mpr last
    have going : (e.job, .error (.context i)) ∉ r.group.results := by
      rw [unfinished]
      exact List.not_mem_nil
    obtain ⟨k, -, -, stopped, -⟩ := (interrupted_iff prepared stands going n).mp complete
    have calm : (r.after transport context none k).world.cancelled = false :=
      calm_after reliable calm k
    unfold Context.interruption? World.moment at stopped
    rw [calm, timeless] at stopped
    cases stopped

-- Nobody is accepted that is not among the operations.
theorem accepted_subset {server : σ → Server} (serves : Serves false transport server)
    {world : World σ} (fresh : (server world.server).Fresh) {jobs : List Job}
    (distinct : (jobs.map (·.position)).Nodup) (n : Nat) :
    (server ((⟨world, .start jobs⟩ : GroupRun σ).after transport context none n).world.server).accepted
      ⊆ jobs.map (·.position) := by
  intro position mem
  have started : (Group.start jobs).Stands context.policy none fun _ => [] :=
    Group.start_stands context.policy none distinct fun _ _ => rfl
  have agrees : (server ((⟨world, .start jobs⟩ : GroupRun σ).after transport context none
      n).world.server).Agrees false _ := after_agrees serves started (fresh.agrees false) n
  by_contra absent
  refine agrees.unwritten_of_silent (silent_of_absent ?_ n []) (agrees.mem_accepted.mp mem)
  rwa [Group.members_start, List.map_map]

-- What becomes of operations that only compete with each other, as far as the number of conflicts and
-- of submissions goes.
theorem contention_bounded {server : σ → Server} (serves : Serves false transport server)
    (world : World σ) (fresh : (server world.server).Fresh) (context : Context) (jobs : List Job)
    (distinct : (jobs.map (·.position)).Nodup)
    (prepared : ∀ job ∈ jobs, ∃ mutation, job.operation.prepare false = .ok mutation) (n : Nat) :
    let start : GroupRun σ := ⟨world, .start jobs⟩
    let final := start.after transport context none n
    let calls (position : Nat) := start.calls transport context none n position
    let accepted := (server final.world.server).accepted
    accepted.Nodup ∧ accepted ⊆ jobs.map (·.position) ∧
      (∀ earlier position later, accepted = earlier ++ position :: later →
        (submissions (calls position)).length ≤ earlier.length + 1) ∧
      (∀ job ∈ jobs, (calls job.position).countP Asked.isConflict ≤ jobs.length - 1) ∧
      ((∀ retries, context.policy.maxRetries = some retries → jobs.length - 1 ≤ retries.toNat) →
        (∀ job rejection attempts,
          (job, .error (.conflict rejection attempts)) ∉ final.group.results) ∧
        (Reliable transport → world.cancelled = false → context.deadline = none →
          final.group.ended = true → final.group.fault? = none →
            (∀ job ∈ jobs, (job, .ok ()) ∈ final.group.results) ∧
            accepted.Perm (jobs.map (·.position)) ∧
            (jobs.map fun job => (submissions (calls job.position)).length).sum ≤
              jobs.length * (jobs.length + 1) / 2)) := by
  intro start final calls accepted
  have started : start.group.Stands context.policy none fun _ => [] :=
    Group.start_stands context.policy none distinct fun _ _ => rfl
  have stands : final.group.Stands context.policy none _ := after_stands started n
  have agrees : (server final.world.server).Agrees false _ :=
    after_agrees serves started (fresh.agrees false) n
  have members : final.group.members.map (·.job) = jobs :=
    (jobs_after n).trans (Group.jobs_start jobs)
  have listed : ∀ e ∈ final.group.members, e.job ∈ jobs :=
    fun e mem => members ▸ List.mem_map_of_mem mem
  have ready : ∀ e ∈ final.group.members, ∃ mutation,
      e.job.operation.prepare false = .ok mutation := fun e mem => prepared e.job (listed e mem)
  have known : accepted ⊆ jobs.map (·.position) := accepted_subset serves fresh distinct n
  have count : ∀ position, (submissions (calls position)).length =
      (submissions (hearAll position [] (start.exchanges transport context none n))).length :=
    submissions_calls n
  have fewer : ∀ job ∈ jobs,
      (hearAll job.position [] (start.exchanges transport context none n)).countP
        Asked.isConflict < jobs.length := by
    intro job mem
    have bound := agrees.conflicts_lt known (List.mem_map_of_mem mem)
    rwa [List.length_map] at bound
  refine ⟨agrees.nodup_accepted, known, ?_, fun job mem => ?_, fun patient => ?_⟩
  · intro earlier position later split
    rw [count]
    exact agrees.submissions_le_of_accepted split
  · have bound := fewer job mem
    rw [← conflicts_calls] at bound
    exact Nat.le_sub_one_of_lt bound
  · have resolute : ∀ job rejection attempts,
        (job, .error (.conflict rejection attempts)) ∉ final.group.results := by
      apply stands.unexhausted ready
      intro e mem retries bound
      have enough := patient retries bound
      have bound := fewer e.job (listed e mem)
      omega
    refine ⟨resolute, fun reliable calm timeless complete sound => ?_⟩
    have applied : ∀ e ∈ final.group.members, e.phase = .finished (.ok ()) := by
      apply stands.applied agrees complete sound resolute
      · intro e mem result last
        obtain ⟨mutation, prepared⟩ := ready e mem
        exact verdict_of_finished reliable started calm timeless (Group.results_start jobs) mem
          prepared last
      · intro position
        exact hearAll_arrives (fun _ absent => (List.not_mem_nil absent).elim)
          (exchanges_arrive reliable n)
    have results : ∀ job ∈ jobs, (job, .ok ()) ∈ final.group.results := by
      intro job mem
      obtain ⟨e, member, rfl⟩ := List.mem_map.mp (members ▸ mem)
      exact Group.mem_results.mpr ⟨e, member, rfl, applied e member⟩
    have everyone : accepted.Perm (jobs.map (·.position)) := by
      rw [List.perm_ext_iff_of_nodup agrees.nodup_accepted distinct]
      refine fun position => ⟨fun mem => known mem, fun mem => ?_⟩
      obtain ⟨job, own, rfl⟩ := List.mem_map.mp mem
      obtain ⟨e, member, rfl⟩ := List.mem_map.mp (members ▸ own)
      have acknowledged := (stands.standing e member).acknowledged (applied e member)
      exact agrees.mem_accepted.mpr (agrees.written acknowledged)
    have total := agrees.submissions_sum_le everyone
    rw [List.map_map, List.length_map] at total
    refine ⟨results, everyone, ?_⟩
    simp only [count]
    exact total

def weighedRival : Job :=
  ⟨1, ⟨.update, .server, .child ⟨.backend, "api"⟩ "db", some ⟨"db", .ok []⟩⟩⟩

def rivals : List Job := [weighedServer, weighedRival]

def rivalRun : GroupRun Server :=
  ⟨⟨0, false, ⟨3, fun _ => .empty, []⟩, fun _ => 0, 0, []⟩, .start rivals⟩

-- Two submissions with the same version: one of them is refused, and one retry is enough.
theorem rivals_both_applied :
    (rivalRun.after (Server.unhurried false) ⟨none, ⟨some 1, 0, 0⟩⟩ none 20).group.ended = true ∧
      (rivalRun.after (Server.unhurried false) ⟨none, ⟨some 1, 0, 0⟩⟩ none 20).group.fault? = none ∧
      (rivalRun.calls (Server.unhurried false) ⟨none, ⟨some 1, 0, 0⟩⟩ none 20 1).countP
        Asked.isConflict = 1 ∧
      (∀ job ∈ rivals, (job, .ok ()) ∈
        (rivalRun.after (Server.unhurried false) ⟨none, ⟨some 1, 0, 0⟩⟩ none 20).group.results) ∧
      (rivals.map fun job => (submissions (rivalRun.calls (Server.unhurried false)
        ⟨none, ⟨some 1, 0, 0⟩⟩ none 20 job.position)).length).sum ≤ 3 := by
  have complete :
      (rivalRun.after (Server.unhurried false) ⟨none, ⟨some 1, 0, 0⟩⟩ none 20).group.ended = true := by
    cbv
  have sound :
      (rivalRun.after (Server.unhurried false) ⟨none, ⟨some 1, 0, 0⟩⟩ none 20).group.fault? =
        none := by
    cbv
  refine ⟨complete, sound, by cbv, ?_⟩
  unfold rivalRun at complete sound ⊢
  have prepared : ∀ job ∈ rivals, ∃ mutation, job.operation.prepare false = .ok mutation :=
    List.forall_mem_cons.mpr ⟨⟨_, rfl⟩, List.forall_mem_singleton.mpr ⟨_, rfl⟩⟩
  have patient : ∀ retries : UInt32, some 1 = some retries → rivals.length - 1 ≤ retries.toNat := by
    rintro retries ⟨⟩
    decide
  obtain ⟨-, -, -, -, bounded⟩ := contention_bounded (Server.unhurried_serves false)
    ⟨0, false, ⟨3, fun _ => .empty, []⟩, fun _ => 0, 0, []⟩ ⟨fun _ => rfl, rfl⟩
    ⟨none, ⟨some 1, 0, 0⟩⟩ rivals (by decide) prepared 20
  obtain ⟨-, finished⟩ := bounded patient
  obtain ⟨applied, -, total⟩ :=
    finished (Server.unhurried_reliable false) rfl rfl complete sound
  exact ⟨applied, total⟩

end GroupRun
end Reconcile
