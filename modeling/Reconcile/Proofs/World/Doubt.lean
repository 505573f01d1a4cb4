import Reconcile.Proofs.Submission.Conversation
import Reconcile.Proofs.World.Testimony

namespace Reconcile

-- The answer says that nothing was changed.
def Asked.Refused (a : Asked) : Prop :=
  ∃ status, a.reply = some (.ok status) ∧ isSuccess status = false

-- Nobody knows what became of a call: it is the last one of an operation that was interrupted before
-- an answer came, or that the transport brought an error instead of an answer.
def InDoubt (calls : List Asked) (failure : Failure) (a : Asked) : Prop :=
  calls.getLast? = some a ∧
    ((a.reply = none ∧ ∃ interruption, failure = .context interruption) ∨
      ∃ error, a.reply = some (.error error) ∧ failure = .transport error)

variable {policy : Policy} {mutation : Mutation} {op : Operation} {calls : List Asked}

theorem Retried.refused (earlier : Retried policy mutation calls rounds) :
    ∀ a ∈ submissions calls, a.Refused := by
  intro a mem
  obtain ⟨version, rfl⟩ := earlier.submissions_stale a mem
  exact ⟨conflictStatus, rfl, isSuccess_conflictStatus⟩

theorem Asks.refused (asks : Asks policy mutation none calls call attempts) :
    ∀ a ∈ submissions calls, a.Refused := by
  cases asks with
  | read earlier => exact earlier.refused
  | submit earlier => exact earlier.refused

theorem mem_submissions_cons {a : Asked} (mem : a ∈ submissions (⟨call, reply⟩ :: calls)) :
    a = ⟨call, reply⟩ ∨ a ∈ submissions calls := by
  obtain ⟨mem, submits⟩ := List.mem_filter.mp mem
  rcases List.mem_cons.mp mem with same | older
  · exact .inl same
  · exact .inr (List.mem_filter.mpr ⟨older, submits⟩)

-- Every submission of an operation that failed outside a transaction was refused or is in doubt.
theorem Standing.refused_or_in_doubt {failure : Failure} {a : Asked}
    (standing : Standing policy none op calls (.finished (.error failure)))
    (mem : a ∈ submissions calls) : a.Refused ∨ InDoubt calls.reverse failure a := by
  cases standing with
  | refused => exact (List.not_mem_nil mem).elim
  | @answered _ _ _ _ reply _ prepared asks ends =>
    rcases mem_submissions_cons mem with rfl | older
    · cases ends with
      | transport =>
        exact .inr ⟨by rw [List.getLast?_reverse, List.head?_cons], .inr ⟨_, rfl, rfl⟩⟩
      | rejected refused => exact .inl ⟨_, rfl, refused⟩
      | exhausted => exact .inl ⟨_, rfl, isSuccess_conflictStatus⟩
    · exact .inl (asks.refused a older)
  | @interrupted _ _ _ _ polls _ prepared asks =>
    cases polls with
    | zero => exact .inl (asks.refused a mem)
    | succ polls =>
      rcases mem_submissions_cons mem with rfl | older
      · refine .inr ⟨?_, .inl ⟨rfl, _, rfl⟩⟩
        rw [List.getLast?_reverse]
        rfl
      · exact .inl (asks.refused a older)

namespace BatchRun

variable {σ : Type}

-- What may have reached the live configuration in a batch that is reported neither as a success nor
-- as partly applied.
theorem unapplied_submissions_in_doubt (transport : Transport σ) (world : World σ)
    (context : Context) (options : BatchOptions) (schedule : Schedule) (n : Nat) :
    let start : BatchRun σ := ⟨world, .start context none options schedule⟩
    let batch := (start.after transport n).batch
    let report := batch.report
    let calls (job : Job) := start.calls transport n job.position
    batch.stage = .finished → report.isSuccess = false → report.partiallyApplied = false →
      report.applied = [] ∧
      ∀ job ∈ Job.number schedule.ordered, ∀ a ∈ submissions (calls job),
        a.Refused ∨ ∃ failure, ⟨job, failure⟩ ∈ report.failed ∧ InDoubt (calls job) failure a := by
  intro start batch report calls complete unsuccessful unpartial
  have started : start.batch.Stands fun _ => [] :=
    Batch.start_stands context none options schedule
  obtain ⟨tells, whole⟩ := (after_stands transport started n).of_finished complete
  rw [(settings_after transport start n).2.2.2] at whole
  obtain ⟨told, -, vouched, reported⟩ :=
    started_vouched transport world context none options schedule n
  have unapplied : report.applied = [] := by
    have unstaged : report.staged = false := (reported complete).1
    simpa [Report.partiallyApplied, unstaged, unsuccessful] using unpartial
  refine ⟨unapplied, fun job mem a asked => ?_⟩
  have heard : a ∈ submissions (hearAll job.position [] (start.exchanges transport n)) := by
    have reversed : submissions (calls job) = _ := submissions_reverse _
    rwa [reversed, List.mem_reverse] at asked
  rcases Report.mem_jobs.mp (whole.symm.subset mem) with applied | failed | skipped
  · exact (List.not_mem_nil (unapplied ▸ applied)).elim
  · obtain ⟨⟨_, failure⟩, entered, rfl⟩ := List.mem_map.mp failed
    obtain ⟨phase, standing, ends⟩ := vouched _ mem
    have ended := (ends _).mpr ((((reported complete).2 _).2 failure).mp entered)
    rw [ended] at standing
    exact (standing.refused_or_in_doubt heard).imp_right fun doubt => ⟨failure, entered, doubt⟩
  · rw [tells.skipped job skipped] at heard
    exact (List.not_mem_nil heard).elim

-- The caller cancels while the first submission is on its way.
def cancelsSubmissions : Transport Unit where
  poll _ _ call _ _ :=
    match call with
    | .submit _ => ⟨.waiting .soon, (), true, []⟩
    | _ => ⟨.ready (.ok 7), (), false, []⟩
  between _ _ := ⟨(), false, none⟩

def abandoned : BatchRun Unit :=
  ⟨⟨0, false, (), fun _ => 0, 0, []⟩, .start {} none {} (weighServers ["a", "b"])⟩

theorem abandoned_in_doubt :
    (abandoned.after cancelsSubmissions 8).batch.stage = .finished ∧
      (abandoned.after cancelsSubmissions 8).batch.report.isSuccess = false ∧
      (abandoned.after cancelsSubmissions 8).batch.report.partiallyApplied = false ∧
      ∀ job ∈ Job.number (weighServers ["a", "b"]).ordered,
        ∀ a ∈ submissions (abandoned.calls cancelsSubmissions 8 job.position),
          a.Refused ∨ ∃ failure,
            ⟨job, failure⟩ ∈ (abandoned.after cancelsSubmissions 8).batch.report.failed ∧
              InDoubt (abandoned.calls cancelsSubmissions 8 job.position) failure a := by
  have complete : (abandoned.after cancelsSubmissions 8).batch.stage = .finished := by cbv
  have unsuccessful : (abandoned.after cancelsSubmissions 8).batch.report.isSuccess = false := by
    cbv
  have unpartial : (abandoned.after cancelsSubmissions 8).batch.report.partiallyApplied = false := by
    cbv
  refine ⟨complete, unsuccessful, unpartial, ?_⟩
  unfold abandoned at complete unsuccessful unpartial ⊢
  exact (unapplied_submissions_in_doubt cancelsSubmissions ⟨0, false, (), fun _ => 0, 0, []⟩ {} {}
    (weighServers ["a", "b"]) 8 complete unsuccessful unpartial).2

-- Nothing is reported of a change that may have been made.
theorem abandoned_not_refused :
    (abandoned.after cancelsSubmissions 8).batch.stage = .finished ∧
      (abandoned.after cancelsSubmissions 8).batch.report.isSuccess = false ∧
      (abandoned.after cancelsSubmissions 8).batch.report.partiallyApplied = false ∧
      ¬∀ job ∈ Job.number (weighServers ["a", "b"]).ordered,
        ∀ a ∈ submissions (abandoned.calls cancelsSubmissions 8 job.position), a.Refused := by
  refine ⟨by cbv, by cbv, by cbv, fun every => ?_⟩
  have listed : 0 ∈ (Job.number (weighServers ["a", "b"]).ordered).map (·.position) := by
    have positions : (Job.number (weighServers ["a", "b"]).ordered).map (·.position) = [0, 1] := by
      cbv
    rw [positions]
    exact List.mem_cons_self ..
  obtain ⟨job, mem, first⟩ := List.mem_map.mp listed
  have asked : ∃ request, submissions (abandoned.calls cancelsSubmissions 8 0) =
      [⟨.submit request, none⟩] := ⟨_, by cbv⟩
  obtain ⟨request, asked⟩ := asked
  obtain ⟨status, answered, -⟩ :=
    every job mem ⟨.submit request, none⟩ (by rw [first, asked]; exact List.mem_singleton_self _)
  cases answered

end BatchRun
end Reconcile
