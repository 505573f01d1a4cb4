import Reconcile.Http.Client
import Reconcile.Proofs.Endpoint.Decoding
import Reconcile.Proofs.World.Testimony

namespace Reconcile

variable {σ : Type}

-- A request for what has passed the local checks has a URL at every endpoint, in every mode.
theorem Endpoint.requestUrl_of_prepared (e : Endpoint) {op : Operation} {staged : Bool}
    {mutation : Mutation} (prepared : op.prepare staged = .ok mutation) (mode : ApplyMode) :
    ∃ url, e.requestUrl (mutation.request mode) = .ok url := by
  obtain ⟨-, -, landing, -, -, kind⟩ := Operation.prepare_ok prepared
  rw [← kind] at landing
  obtain ⟨first, more, pairs⟩ := Request.pairs_ok (r := mutation.request mode) landing
  rw [Endpoint.requestUrl, pairs]
  exact ⟨_, rfl⟩

namespace Http

variable {network : Network σ} {e : Endpoint}

theorem result_accessible (x : Exchange) (url : Url) (detail : String) :
    x.result url ≠ .error (.invalidEndpoint detail) := by
  cases x <;> nofun

theorem versionOf_accessible (status : Nat) (body : String) (detail : String) :
    versionOf status body ≠ .error (.invalidEndpoint detail) := by
  unfold versionOf
  split
  · split
    · split <;> nofun
    · nofun
  · nofun

theorem readVersion_accessible (now : Moment) (job : Job) (count : Nat) (server : σ)
    (detail : String) : (readVersion network e now job count server).progress ≠
      .ready (.error (.invalidEndpoint detail)) := by
  unfold readVersion
  dsimp only
  cases (exchange network now job (versionMessage e) count server).progress with
  | waiting wake => nofun
  | ready x =>
    intro same
    injection same with failed
    dsimp only at failed
    split at failed
    · rename_i refused
      cases failed
      exact result_accessible x _ detail refused
    · exact versionOf_accessible _ _ detail failed

theorem submit_accessible {r : Request} {url : Url} (asked : e.requestUrl r = .ok url)
    (now : Moment) (job : Job) (count : Nat) (server : σ) (detail : String) :
    (submit network e now job r count server).progress ≠
      .ready (.error (.invalidEndpoint detail)) := by
  unfold submit
  rw [asked]
  dsimp only
  split
  · nofun
  · split
    · rename_i x _ _ _ refused
      intro same
      cases same
      exact result_accessible x url detail refused
    · nofun

end Http

-- Who ends because no answer came has been told so by the last call.
theorem Standing.unanswered {policy : Policy} {transaction : Option TransactionId}
    {op : Operation} {calls : List Asked} {error : TransportError}
    (standing : Standing policy transaction op calls (.finished (.error (.transport error)))) :
    ∃ call, ⟨call, some (.error error)⟩ ∈ calls := by
  cases standing with
  | refused unfit => cases Operation.isLocal_of_prepare unfit
  | answered prepared asks ends =>
    cases ends
    exact ⟨_, List.mem_cons_self⟩

theorem Entry.eq_of_verdict {entry : Entry} {job : Job} {result : Except Failure Unit}
    (told : entry.verdict? = some (job, result)) : ∃ staged, entry = .finished job staged result := by
  cases entry with
  | finished other staged last =>
    cases told
    exact ⟨staged, rfl⟩
  | _ => cases told

theorem Asks.mode_of_submit {policy : Policy} {mutation : Mutation}
    {transaction : Option TransactionId}
    (asks : Asks policy mutation transaction calls (.submit request) attempts) :
    ∃ mode, request = mutation.request mode := by
  cases asks <;> exact ⟨_, rfl⟩

namespace Batch

variable {b : Batch} {heard : Nat → List Asked}

-- What is submitted is what the local checks have made of an operation.
theorem Stands.request_of_demand (stands : b.Stands heard)
    (asks : b.demand = .poll job (.submit request) count) :
    ∃ mutation mode, job.operation.prepare b.transaction.isSome = .ok mutation ∧
      request = mutation.request mode := by
  obtain ⟨group, left, stage, asks⟩ := running_of_demand asks
  obtain ⟨e, rest, next, rfl, waits⟩ := Group.ahead_of_demand asks
  have mem := (Group.mem_members_of_ahead next).mpr (.inl rfl)
  have standing := (stands.of_running stage).2.1.standing e mem
  rcases standing.asks_of_call waits with ⟨due, pause⟩ | ⟨mutation, _, _, prepared, -, asked⟩
  · cases pause
  · obtain ⟨mode, same⟩ := asked.mode_of_submit
    exact ⟨mutation, mode, prepared, same⟩

end Batch

namespace BatchRun

variable {network : Http.Network σ} {e : Endpoint} {r : BatchRun σ} {heard : Nat → List Asked}

theorem exchange_accessible (network : Http.Network σ) (e : Endpoint)
    (stands : r.batch.Stands heard) (job : Job) (call : Call) (count : Nat) (detail : String) :
    .polled job call count (some (.error (.invalidEndpoint detail))) ∉
      r.exchange (Http.transport network e) := by
  intro mem
  unfold exchange World.exchange at mem
  split at mem
  · rename_i asker asked polls asks
    split at mem
    · cases mem
    · injection List.mem_singleton.mp mem with _ _ _ brought
      have arrived := Progress.ready_of_value brought.symm
      cases asked with
      | readVersion => exact Http.readVersion_accessible _ _ _ _ detail arrived
      | submit request =>
        obtain ⟨mutation, mode, prepared, rfl⟩ := stands.request_of_demand asks
        obtain ⟨url, asked⟩ := e.requestUrl_of_prepared prepared mode
        exact Http.submit_accessible asked _ _ _ _ detail arrived
      | pause due =>
        unfold World.poll Moment.pause at arrived
        dsimp only at arrived
        split at arrived <;> cases arrived
  · cases mem

theorem exchanges_accessible (network : Http.Network σ) (e : Endpoint)
    (stands : r.batch.Stands heard) (n : Nat) (job : Job) (call : Call) (count : Nat)
    (detail : String) :
    .polled job call count (some (.error (.invalidEndpoint detail))) ∉
      r.exchanges (Http.transport network e) n := by
  induction n generalizing r heard with
  | zero => exact List.not_mem_nil
  | succ n ih =>
    intro mem
    rcases List.mem_append.mp mem with now | later
    · exact exchange_accessible network e stands job call count detail now
    · exact ih (step_stands _ stands) later

end BatchRun

-- Settings that are accepted give an endpoint, it has a URL for whatever passes the local checks,
-- and no batch that is carried out at it ever meets a complaint about the endpoint.
theorem Endpoint.accepted_usable (settings : Settings) (accepted : settings.errors = []) :
    ∃ e, ofConnection settings.connection = .ok e ∧
      (∀ (op : Operation) staged mutation, op.prepare staged = .ok mutation →
        ∀ mode, ∃ url, e.requestUrl (mutation.request mode) = .ok url) ∧
      ∀ {σ : Type} (network : Http.Network σ) (world : World σ) (context : Context)
        (transaction : Option TransactionId) (options : BatchOptions) (schedule : Schedule)
        (n : Nat),
        let start : BatchRun σ := ⟨world, .start context transaction options schedule⟩
        let final := start.after (Http.transport network e) n
        ∃ told, final.world.journal.entries = world.journal.entries ++ told ∧ ∀ detail,
          (∀ job call count,
            .polled job call count (some (.error (.invalidEndpoint detail))) ∉ told) ∧
          (∀ job, (job, .error (.transport (.invalidEndpoint detail))) ∉ verdicts told) ∧
          (final.batch.stage = .finished → ∀ f ∈ final.batch.report.failed,
            f.failure ≠ .transport (.invalidEndpoint detail)) := by
  obtain ⟨e, made, -⟩ := of_accepted accepted
  refine ⟨e, made, fun op staged mutation prepared mode => e.requestUrl_of_prepared prepared mode, ?_⟩
  intro σ network world context transaction options schedule n start final
  have stands : start.batch.Stands fun _ => [] :=
    Batch.start_stands context transaction options schedule
  have accessible := BatchRun.exchanges_accessible network e stands n
  obtain ⟨told, entries, standing, finished⟩ := BatchRun.started_vouched
    (Http.transport network e) world context transaction options schedule n
  obtain ⟨told', entries', listed⟩ := BatchRun.after_listed (Http.transport network e) stands n
  cases List.append_cancel_left (entries.symm.trans entries')
  have polls := BatchRun.polls_told (Http.transport network e) start entries'
  have untold : ∀ detail job,
      (job, .error (.transport (.invalidEndpoint detail))) ∉ verdicts told := by
    intro detail job mem
    obtain ⟨entry, inside, verdict⟩ := List.mem_filterMap.mp mem
    obtain ⟨staged, rfl⟩ := Entry.eq_of_verdict verdict
    obtain ⟨phase, standing, tells⟩ := standing job (listed _ inside job rfl)
    obtain rfl := (tells _).mpr mem
    obtain ⟨call, heard⟩ := standing.unanswered
    rcases mem_hearAll heard with absent | ⟨asker, count, -, polled⟩
    · cases absent
    · exact accessible asker call count detail polled
  refine ⟨told, entries, fun detail => ⟨fun job call count mem => ?_, untold detail, ?_⟩⟩
  · have polled := polls ▸ List.mem_filter.mpr ⟨mem, rfl⟩
    exact accessible job call count detail polled
  · rintro complete f mem why
    refine untold detail f.job (((finished complete).2 f.job).2 _ |>.mp ?_)
    rw [← why]
    exact mem

-- A network that reaches nobody.
def unreached : Http.Network Unit where
  poll _ _ _ _ _ := ⟨.ready .notConnected, (), false⟩
  between _ _ := ⟨(), false, none⟩

def removalRun : BatchRun Unit :=
  ⟨⟨0, false, (), fun _ => 0, 0, []⟩,
    .start {} none {} (Schedule.ofList [Endpoint.removal "web"])⟩

-- What fails there fails for want of an answer.
theorem Endpoint.usual_usable :
    Settings.errors {} = [] ∧ ofConnection {} = .ok usual ∧
      (∃ url, usual.requestUrl ((removed "web").request (.runtime 7)) = .ok url) ∧
      let final := removalRun.after (Http.transport unreached usual) 7
      final.batch.report.failed.map (fun f => f.failure.category) = [.transport] ∧
        ∃ told, final.world.journal.entries = [] ++ told ∧ ∀ detail job,
          (job, .error (.transport (.invalidEndpoint detail))) ∉ verdicts told := by
  obtain ⟨e, made, urls, runs⟩ := accepted_usable {} usual_accepted
  cases usual_made.symm.trans made
  obtain ⟨told, entries, quiet⟩ := runs unreached ⟨0, false, (), fun _ => 0, 0, []⟩ {} none {}
    (Schedule.ofList [removal "web"]) 7
  exact ⟨usual_accepted, usual_made, urls (removal "web") false (removed "web") rfl (.runtime 7),
    by decide +kernel, told, entries, fun detail => (quiet detail).2.1⟩

end Reconcile
