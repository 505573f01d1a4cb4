import Reconcile.Proofs.Program.Outcome
import Reconcile.Proofs.World.Submitters

namespace Reconcile

namespace Mission

variable {σ : Type} {mission : Mission} {world : World σ} {batch : Batch} {ops : List Operation}

theorem begun_attested (transport : Transport σ) (planned : mission.schedule = .ofList ops)
    (made : mission.batch world.clock = .ok batch) (n : Nat) :
    let final := (mission.begun world batch).after transport n
    let jobs := Job.number (Schedule.ofList ops).ordered
    ∃ told, final.world.journal.entries = world.journal.entries ++ told ∧
      Steps.Attested mission.settings.apply.options.concurrentTiers mission.transaction.isSome jobs
        (final.batch.stage = .finished ∧ final.batch.report.failed = [] ∧
          final.batch.report.skipped = []) told := by
  obtain ⟨context, -, rfl⟩ := batch_ok made
  rw [planned]
  intro final jobs
  obtain ⟨told, entries, attested⟩ := BatchRun.applied_in_order transport
    (world.record world.moment [.noted (Http.opened mission.endpoint)]) context
    mission.transaction mission.settings.apply.options (.ofList ops) n
  refine ⟨.noted (Http.opened mission.endpoint) :: told, ?_, attested.noted _⟩
  refine entries.trans ?_
  rw [World.record, Journal.entries_record, List.append_assoc]
  rfl

end Mission

namespace Program

open Arguments (Line)

variable {σ : Type} {disk : String → Except String String} {password : Option String} {line : Line}
  {settings : Settings} {ops : List Operation}

theorem Usable.with_dryRun (usable : Usable disk password line settings ops) (dryRun : Bool) :
    Usable disk password { line with dryRun } settings ops :=
  ⟨usable.named, usable.configured, usable.planned⟩

-- A preview shows all operations of a plan in their order. A program that applies them all submits
-- each of them, in that order unless tiers are carried out concurrently. If they are, it does so step
-- by step, and only those come before others that stand ahead of them which leave everybody else of
-- their run alone.
theorem preview_shows_order (network : Http.Network σ) (listen : Net.Socket → Option String)
    (disk : String → Except String String) (password : Option String) (line : Line)
    (words previewWords : List String) (spells : ({ line with dryRun := false } : Line).Spells words)
    (spells' : ({ line with dryRun := true } : Line).Spells previewWords) (settings : Settings)
    (ops : List Operation) (usable : Usable disk password line settings ops) (world : World σ) :
    let ends (words : List String) (steps : Nat) :=
      run network listen steps (filesOf disk) password words world
    let jobs := Job.number (Schedule.ofList ops).ordered
    (∀ steps, ends previewWords steps = some (⟨0, jobs.map Ending.previewLine, none⟩, world)) ∧
      ∀ steps ending after, ends words steps = some (ending, after) →
        ∃ told, after.journal.entries = world.journal.entries ++ told ∧
          Steps.Attested settings.apply.options.concurrentTiers line.arguments.transaction.isSome
            jobs (ending.status = 0) told := by
  intro ends jobs
  constructor
  · intro steps
    obtain ⟨mission, -, prepared⟩ := prepare_usable (usable.with_dryRun true)
    exact run_of_prepare_error spells' usable.named prepared steps
  · intro steps ending after ended
    obtain ⟨mission, wanted, prepared⟩ := prepare_usable (usable.with_dryRun false)
    have carried := (run_of_prepare_ok network listen world spells usable.named prepared
      steps).symm.trans ended
    split at carried
    · cases carried
      exact ⟨[], (List.append_nil _).symm, .nil (Nat.succ_ne_zero _)⟩
    · cases made : mission.batch world.clock with
      | error fault =>
        rw [Mission.outcome?, made] at carried
        cases carried
        exact ⟨[], (List.append_nil _).symm, .nil (Nat.succ_ne_zero _)⟩
      | ok batch =>
        obtain ⟨text, -, accepted⟩ := usable.configured
        have roomy := Settings.roomy_of_parse accepted
        have named : mission.transaction = line.arguments.transaction := wanted.named
        rw [← wanted.configured] at roomy ⊢
        rw [← named]
        obtain ⟨n, -, rfl, concludes⟩ := (Mission.outcome_runs network roomy wanted.planned
          made).concludes steps ending after carried
        obtain ⟨told, entries, attested⟩ := Mission.begun_attested
          (Http.transport network mission.endpoint) wanted.planned made n
        refine ⟨told, entries, attested.imp fun success => ?_⟩
        cases concludes with
        | reported stage every applied acknowledged unapplied told =>
          have nothing : ¬(_ ∨ _) := fun some =>
            Nat.zero_ne_one (success.symm.trans (unapplied.mpr some))
          rw [not_or, not_not, not_not] at nothing
          exact ⟨stage, nothing⟩
        | overrun stage status => cases success.symm.trans status

-- Three deletes of one tier, of which two refer to each other.
def tidyingDeletes : List Operation :=
  [⟨.delete, .user, .contained "staff" "ann", none⟩,
    ⟨.delete, .group, .contained "staff" "ops", none⟩,
    ⟨.delete, .nameserver, .contained "dns" "ns", none⟩]

def tidyingSettings : Settings := { apply := { concurrentTiers := true } }

def tidyingDisk : String → Except String String
  | "plan.json" => .ok
    ("[\x7b\"op\":\"delete\",\"section\":\"user\",\"container\":\"staff\",\"name\":\"ann\"\x7d," ++
      "\x7b\"op\":\"delete\",\"section\":\"group\",\"container\":\"staff\",\"name\":\"ops\"\x7d," ++
      "\x7b\"op\":\"delete\",\"section\":\"nameserver\",\"container\":\"dns\",\"name\":\"ns\"\x7d]")
  | "reconciler.toml" => .ok "[apply]\nconcurrent_tiers = true"
  | _ => .error "No such file or directory (os error 2)"

def tidyingWords : List String := ["--transaction-id=tx", "-p", "plan.json"]

def acceptsAll : Http.Network Unit where
  poll _ _ _ _ _ := ⟨.ready (.answered 202 ""), (), false⟩
  between _ _ := ⟨(), false, none⟩

def tidying (words : List String) : Option (Ending × World Unit) :=
  run acceptsAll (fun _ => none) 20 (filesOf tidyingDisk) none words removalWorld

theorem tidying_usable : Usable tidyingDisk none removalLine tidyingSettings tidyingDeletes :=
  ⟨rfl, ⟨_, rfl, by decide +kernel⟩, ⟨_, rfl, by cbv⟩⟩

theorem tidying_spelled : removalLine.Spells tidyingWords :=
  ⟨removalLine.flags.reverse, List.reverse_perm _, by decide⟩

theorem tidying_previewed : ({ removalLine with dryRun := true } : Line).Spells
    ("--dry-run" :: tidyingWords) :=
  ⟨({ removalLine with dryRun := true } : Line).flags.reverse, List.reverse_perm _, by decide⟩

theorem tidying_ordered : (Schedule.ofList tidyingDeletes).ordered = tidyingDeletes := by cbv

-- The run right before its first step, the deletes in the order in which they are listed.
def tidyingStart : BatchRun Unit :=
  ⟨removalWorld.record removalWorld.moment [.noted (Http.opened Endpoint.usual)],
    ⟨⟨some 300000, tidyingSettings.apply.policy⟩, TransactionId.ofText? "tx",
      tidyingSettings.apply.options, tidyingDeletes, .empty true, .fresh⟩⟩

theorem tidying_begun : tidying tidyingWords =
    (tidyingStart.outcome? (Http.transport acceptsAll Endpoint.usual) 20).map
      fun run => (Mission.ending run.batch, run.world) := by
  obtain ⟨⟨settings, endpoint, schedule, transaction⟩, ⟨rfl, rfl, rfl, aimed⟩, prepared⟩ :=
    prepare_usable tidying_usable
  obtain rfl : endpoint = Endpoint.usual := Except.ok.inj (aimed.symm.trans Endpoint.usual_made)
  refine (run_of_prepare_ok acceptsAll (fun _ => none) removalWorld tidying_spelled rfl prepared
    20).trans ?_
  have made : Mission.batch ⟨tidyingSettings, Endpoint.usual, .ofList tidyingDeletes,
      removalLine.arguments.transaction⟩ removalWorld.clock = .ok tidyingStart.batch :=
    congrArg (fun jobs => Except.ok (Batch.mk _ _ _ jobs _ _)) tidying_ordered
  show Mission.outcome? _ _ _ _ = _
  rw [Mission.outcome?, made]
  rfl

theorem tidying_submits : (tidying tidyingWords).map (fun ended =>
      (ended.1, (submitters ended.2.journal.entries).map Ending.previewLine)) =
    some (⟨0, ["3 applied, 0 failed, 0 skipped"], none⟩,
      ["  3  [25]  delete nameserver 'ns' in resolvers 'dns'",
        "  1  [25]  delete user 'ann' in userlist 'staff'",
        "  2  [25]  delete group 'ops' in userlist 'staff'"]) := by
  rw [tidying_begun]
  decide +kernel

theorem tidying_arranged :
    Usable tidyingDisk none removalLine tidyingSettings tidyingDeletes ∧
      ∃ ending after told, tidying tidyingWords = some (ending, after) ∧ ending.status = 0 ∧
        after.journal.entries = [] ++ told ∧
        Steps.Arranges true true (Job.number (Schedule.ofList tidyingDeletes).ordered)
          (submitters told) := by
  obtain ⟨⟨ending, after⟩, ended, submits⟩ := Option.map_eq_some_iff.mp tidying_submits
  have status : ending.status = 0 := congrArg (·.1.status) submits
  obtain ⟨-, real⟩ := preview_shows_order acceptsAll (fun _ => none) tidyingDisk none removalLine
    tidyingWords ("--dry-run" :: tidyingWords) tidying_spelled tidying_previewed tidyingSettings
    tidyingDeletes tidying_usable removalWorld
  obtain ⟨told, entries, attested⟩ := real 20 ending after ended
  exact ⟨tidying_usable, ending, after, told, ended, status, entries,
    attested.arranged (attested.whole status)⟩

-- The third delete leaves the others alone, so it is submitted first where tiers are carried out
-- concurrently.
theorem tidying_overtakes :
    let shown := ["  1  [25]  delete user 'ann' in userlist 'staff'",
      "  2  [25]  delete group 'ops' in userlist 'staff'",
      "  3  [25]  delete nameserver 'ns' in resolvers 'dns'"]
    Usable tidyingDisk none removalLine tidyingSettings tidyingDeletes ∧
      tidying ("--dry-run" :: tidyingWords) = some (⟨0, shown, none⟩, removalWorld) ∧
      ∃ after,
        tidying tidyingWords = some (⟨0, ["3 applied, 0 failed, 0 skipped"], none⟩, after) ∧
        (submitters after.journal.entries).map Ending.previewLine ≠ shown := by
  intro shown
  refine ⟨tidying_usable, ?_, ?_⟩
  · obtain ⟨mission, -, prepared⟩ := prepare_usable (tidying_usable.with_dryRun true)
    have lines : (Job.number tidyingDeletes).map Ending.previewLine = shown := by decide +kernel
    refine (run_of_prepare_error tidying_previewed rfl prepared 20).trans ?_
    rw [Ending.ofPreview, tidying_ordered, lines]
  · obtain ⟨⟨ending, after⟩, ended, submits⟩ := Option.map_eq_some_iff.mp tidying_submits
    obtain ⟨rfl, lines⟩ := Prod.mk.inj submits
    refine ⟨after, ended, ?_⟩
    rw [lines]
    decide

end Program
end Reconcile
