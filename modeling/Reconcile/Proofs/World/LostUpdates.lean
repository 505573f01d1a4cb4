import Reconcile.Proofs.Server.Agreement
import Reconcile.Proofs.World.Acknowledgement

namespace Reconcile

-- What optimistic concurrency is for. No operation has written over a write that came after the version
-- it had been told, and none has written twice.
structure Server.LosesNothing (s : Server) : Prop where
  faithful : Faithful s.deeds
  once : ∀ position, (writers s.deeds).count (some position) ≤ 1

namespace Server.Agrees

variable {others : Bool} {heard : Nat → List Asked} {s : Server}

theorem losesNothing (agrees : s.Agrees others heard) : s.LosesNothing :=
  ⟨agrees.stands.faithful, fun position => (agrees.stands.serving position).count_le_one⟩

-- Who hears of success has written.
theorem written (agrees : s.Agrees others heard) (acknowledged : Acknowledged (heard position)) :
    some position ∈ writers s.deeds := by
  obtain ⟨request, status, earlier, spoken, success, -⟩ := acknowledged
  have seen := agrees.seen position
  have serving := agrees.stands.serving position
  rw [spoken] at seen
  rw [seen.answered] at serving
  cases serving with
  | refused => cases success
  | accepted success once owed =>
    exact List.count_pos_iff.mp (Nat.lt_of_lt_of_eq Nat.zero_lt_one once.symm)

end Server.Agrees

namespace BatchRun

variable {σ : Type}

-- However reads, submissions and the writes of others come after one another, an update is never lost,
-- neither in operations that are carried out at the same time nor in a batch.
theorem no_update_lost {transport : Transport σ} {server : σ → Server} (others : Bool)
    (serves : Serves others transport server) (world : World σ) (fresh : (server world.server).Fresh)
    (context : Context) (n : Nat) :
    (∀ jobs : List Job, (jobs.map (·.position)).Nodup →
      let final := (⟨world, .start jobs⟩ : GroupRun σ).after transport context none n
      let s := server final.world.server
      s.LosesNothing ∧
        ∀ job, (job, .ok ()) ∈ final.group.results → some job.position ∈ writers s.deeds) ∧
    (∀ (options : BatchOptions) (schedule : Schedule),
      let final := (⟨world, .start context none options schedule⟩ : BatchRun σ).after transport n
      let s := server final.world.server
      s.LosesNothing ∧
        (final.batch.stage = .finished →
          ∀ job ∈ final.batch.report.applied, some job.position ∈ writers s.deeds)) := by
  constructor
  · intro jobs distinct final s
    have started : (Group.start jobs).Stands context.policy none fun _ => [] :=
      Group.start_stands context.policy none distinct fun _ _ => rfl
    have stands : final.group.Stands context.policy none _ := GroupRun.after_stands started n
    have agrees : s.Agrees others _ :=
      GroupRun.after_agrees serves started (fresh.agrees others) n
    refine ⟨agrees.losesNothing, fun job applied => ?_⟩
    obtain ⟨e, mem, rfl, last⟩ := Group.mem_results.mp applied
    exact agrees.written ((stands.standing e mem).acknowledged last)
  · intro options schedule final s
    have started : (Batch.start context none options schedule).Stands fun _ => [] :=
      Batch.start_stands context none options schedule
    have stands : final.batch.Stands _ := after_stands transport started n
    have agrees : s.Agrees others _ := after_agrees serves started rfl (fresh.agrees others) n
    refine ⟨agrees.losesNothing, fun complete job applied => ?_⟩
    exact agrees.written ((stands.of_finished complete).1.applied job applied)

def freshServer : Server := ⟨3, fun _ => .empty, []⟩

def weighedTwice : BatchRun Server :=
  ⟨⟨0, false, freshServer, fun _ => 0, 0, []⟩,
    .start ⟨none, .immediate⟩ none {} (weighServers ["a", "b"])⟩

-- Somebody else writes before the first submission, which is made again with the version after that.
theorem weighedTwice_loses_nothing :
    (weighedTwice.after (Server.unhurried true) 26).batch.stage = .finished ∧
      (weighedTwice.after (Server.unhurried true) 26).world.server.deeds =
        [.wrote (some 1), .told 1 5, .wrote (some 0), .told 0 4, .wrote none, .told 0 3] ∧
      (weighedTwice.after (Server.unhurried true) 26).world.server.LosesNothing := by
  have complete : (weighedTwice.after (Server.unhurried true) 26).batch.stage = .finished := by cbv
  refine ⟨complete, by cbv, ?_⟩
  unfold weighedTwice at complete ⊢
  have fresh : freshServer.Fresh := ⟨fun _ => rfl, rfl⟩
  obtain ⟨-, batches⟩ := no_update_lost true (Server.unhurried_serves true)
    ⟨0, false, freshServer, fun _ => 0, 0, []⟩ fresh ⟨none, .immediate⟩ 26
  exact (batches {} (weighServers ["a", "b"])).1

end BatchRun
end Reconcile
