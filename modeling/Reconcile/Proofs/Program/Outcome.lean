import Reconcile.Program.Basic
import Reconcile.Proofs.Endpoint.Decoding
import Reconcile.Proofs.Plan.Entry
import Reconcile.Proofs.Program.Arguments
import Reconcile.Proofs.Settings.Horizon
import Reconcile.Proofs.World.Outcome
import Reconcile.Proofs.World.Overflow

namespace Reconcile

open Json (Written)

namespace Settings

variable {text : String} {password : Option String} {settings : Settings}

theorem parse_iff : parse text password = .ok settings ↔ ∃ written, ofToml? text = some written ∧
    (written.withPassword password).errors = [] ∧ settings = written.withPassword password := by
  unfold parse validate
  cases ofToml? text with
  | none => simp
  | some written =>
    simp only [List.isEmpty_iff, Option.some.injEq, exists_eq_left']
    split
    · simp only [Except.ok.injEq, ‹_ = []›, true_and]
      exact eq_comm
    · simp only [reduceCtorEq, ‹¬_›, false_and]

theorem accepted_of_parse (accepted : parse text password = .ok settings) :
    settings.errors = [] := by
  obtain ⟨written, -, sound, rfl⟩ := parse_iff.mp accepted
  exact sound

-- No document asks for delays that have no room.
theorem roomy_of_parse (accepted : parse text password = .ok settings) :
    settings.apply.policy.Roomy := by
  obtain ⟨written, read, same⟩ := ofToml?_of_parse accepted
  have small := ofToml?_small read
  rw [← same] at small
  refine .inr ?_
  show settings.apply.backoffMaxMs.toNat + settings.apply.backoffMaxMs.toNat / 10 ≤ _
  unfold Word.half64 at small
  unfold Word.count64
  omega

end Settings

namespace Program

open Arguments (Line)

variable {disk : String → Except String String} {password : Option String} {line : Line}
  {settings : Settings} {ops : List Operation}

-- The files that a command line names, as a disk has them.
def filesOf (disk : String → Except String String) (arguments : Arguments) : Files :=
  ⟨disk arguments.config, disk arguments.plan⟩

-- What a program does not start with: an empty path or a blank transaction, settings that cannot be
-- read or are not valid, a plan that is no list, or one with an entry that does not decode or lacks
-- a field.
inductive Refused (disk : String → Except String String) (password : Option String)
    (line : Line) : Prop where
  | words (refused : line.refused = true)
  | settings (unusable : ∀ text written, disk line.configPath = .ok text →
      Settings.ofToml? text = some written → (written.withPassword password).errors ≠ [])
  | plan (unlisted : ∀ text items, disk line.plan.value = .ok text →
      Written.ofText? text ≠ some (.array items))
  | entry (read : disk line.plan.value = .ok text)
      (listed : Written.ofText? text = some (.array items)) (mem : item ∈ items)
      (spoiled : Plan.Spoiled item)

structure Usable (disk : String → Except String String) (password : Option String) (line : Line)
    (settings : Settings) (ops : List Operation) : Prop where
  named : line.refused = false
  configured : ∃ text, disk line.configPath = .ok text ∧
    Settings.parse text password = .ok settings
  planned : ∃ text, disk line.plan.value = .ok text ∧ Plan.parse text = .ok ops

theorem settings_iff {files : Files} : Program.settings files password = .ok settings ↔
    ∃ text, files.config = .ok text ∧ Settings.parse text password = .ok settings := by
  unfold Program.settings
  cases files.config with
  | error reason => simp
  | ok text =>
    simp only [Except.ok.injEq, exists_eq_left']
    cases Settings.parse text password <;> simp [Except.mapError]

theorem schedule_iff {files : Files} {schedule : Schedule} :
    Program.schedule files = .ok schedule ↔ ∃ text ops, files.plan = .ok text ∧
      Plan.parse text = .ok ops ∧ schedule = .ofList ops := by
  unfold Program.schedule
  cases files.plan with
  | error reason => simp
  | ok text =>
    simp only [Except.ok.injEq, exists_and_left, exists_eq_left']
    cases Plan.parse text <;> simp [eq_comm]

-- What a mission is that settings and a plan ask for.
structure Wanted (line : Line) (settings : Settings) (ops : List Operation) (mission : Mission) :
    Prop where
  configured : mission.settings = settings
  planned : mission.schedule = .ofList ops
  named : mission.transaction = line.arguments.transaction
  aimed : Endpoint.ofConnection settings.connection = .ok mission.endpoint

theorem prepare_usable (usable : Usable disk password line settings ops) :
    ∃ mission, Wanted line settings ops mission ∧
      prepare line.arguments (filesOf disk line.arguments) password =
        if line.dryRun then .error (.ofPreview (.ofList ops)) else .ok mission := by
  obtain ⟨-, configured, ⟨plan, found, parsed⟩⟩ := usable
  have accepted : settings.errors = [] := by
    obtain ⟨text, -, accepted⟩ := configured
    exact Settings.accepted_of_parse accepted
  obtain ⟨endpoint, made, -⟩ := Endpoint.of_accepted accepted
  refine ⟨⟨settings, endpoint, .ofList ops, line.arguments.transaction⟩, ⟨rfl, rfl, rfl, made⟩, ?_⟩
  have read : Program.settings (filesOf disk line.arguments) password = .ok settings :=
    settings_iff.mpr configured
  have listed : Program.schedule (filesOf disk line.arguments) = .ok (.ofList ops) :=
    schedule_iff.mpr ⟨plan, ops, found, parsed, rfl⟩
  rw [prepare, read, listed]
  dsimp only
  rw [made]
  rfl

end Program

namespace Mission

variable {σ : Type} {mission : Mission} {world : World σ} {batch : Batch} {ops : List Operation}

-- A mission right before the first step of its batch.
def begun (mission : Mission) (world : World σ) (batch : Batch) : BatchRun σ :=
  ⟨world.record world.moment [.noted (Http.opened mission.endpoint)], batch⟩

-- How a program ends with its batch: it tells what became of every operation, or no word counts the
-- submissions of one of them.
inductive Concludes (ops : List Operation) (calls : Nat → List Asked) (batch : Batch)
    (ending : Ending) : Prop where
  | reported (stage : batch.stage = .finished)
      (every : (batch.report.jobs.map (·.operation)).Perm ops)
      (applied : ending.status = 0 ↔ (batch.report.applied.map (·.operation)).Perm ops)
      (acknowledged : ending.status = 0 ↔
        ∀ job ∈ batch.report.jobs, ∃ a ∈ calls job.position, a.acknowledged = true)
      (unapplied : ending.status = 1 ↔ batch.report.failed ≠ [] ∨ batch.report.skipped ≠ [])
      (told : ending.output = batch.report.failed.map Ending.failedLine ++
        batch.report.skipped.map Ending.skippedLine ++ [batch.report.text])
  | overrun (stage : batch.stage = .broken .attempts) (status : ending.status = 101)
      (many : ∃ job ∈ Job.number (Schedule.ofList ops).ordered,
        Word.count32 ≤ (submissions (calls job.position)).length + 1)

theorem status_ofReport (report : Report) :
    ((Ending.ofReport report).status = 0 ↔ report.isSuccess = true) ∧
      ((Ending.ofReport report).status = 1 ↔ report.failed ≠ [] ∨ report.skipped ≠ []) := by
  have failure : report.isSuccess = false ↔ report.failed ≠ [] ∨ report.skipped ≠ [] := by
    simp [Report.isSuccess, ← not_and_or]
  rw [← failure, Ending.ofReport]
  cases report.isSuccess <;> simp

theorem batch_ok {now : Nat} (made : mission.batch now = .ok batch) :
    ∃ context, context.policy = mission.settings.apply.policy ∧ batch =
      .start context mission.transaction mission.settings.apply.options mission.schedule := by
  unfold Mission.batch at made
  split at made
  · cases made
  · rename_i context within
    rw [ApplySettings.context_eq] at within
    split at within
    · cases within
      cases made
      exact ⟨_, rfl, rfl⟩
    · cases within

theorem concludes_finished (transport : Transport σ) (world : World σ) (context : Context)
    (transaction : Option TransactionId) (options : BatchOptions) (ops : List Operation) (n : Nat) :
    let start : BatchRun σ := ⟨world, .start context transaction options (.ofList ops)⟩
    let batch := (start.after transport n).batch
    batch.stage = .finished →
      Concludes ops (start.calls transport n) batch (.ofReport batch.report) := by
  intro start batch stage
  have stands : start.batch.Stands fun _ => [] :=
    Batch.start_stands context transaction options (.ofList ops)
  obtain ⟨tells, whole⟩ := (BatchRun.after_stands transport stands n).of_finished stage
  obtain ⟨-, -, -, operations⟩ := BatchRun.settings_after transport start n
  obtain ⟨success, failure⟩ := status_ofReport batch.report
  have every : (batch.report.jobs.map (·.operation)).Perm ops := by
    have numbered := whole.map (·.operation)
    rw [Job.map_operation_number, operations] at numbered
    exact numbered.trans (Schedule.ordered_perm ops)
  refine .reported stage every (success.trans (Report.isSuccess_iff_perm every)) ?_ failure rfl
  rw [success, Report.isSuccess_iff_acknowledged tells]
  simp only [BatchRun.calls, List.mem_reverse]
  exact Iff.rfl

theorem concludes_broken (transport : Transport σ) (world : World σ) {context : Context}
    (roomy : context.policy.Roomy) (transaction : Option TransactionId) (options : BatchOptions)
    (ops : List Operation) (n : Nat) :
    let start : BatchRun σ := ⟨world, .start context transaction options (.ofList ops)⟩
    let batch := (start.after transport n).batch
    batch.stage = .broken fault →
      Concludes ops (start.calls transport n) batch (.failed (.fault fault)) := by
  intro start batch stage
  obtain ⟨job, mem, overflow⟩ :=
    BatchRun.started_overflows transport world context transaction options (.ofList ops) n stage
  cases overflow with
  | attempts left many => exact .overrun stage rfl ⟨job, mem, many⟩
  | delay left beyond =>
    obtain ⟨delay, within⟩ := roomy.delay _ _
    cases beyond.symm.trans within

-- When a batch has ended, the program ends with it, and says so.
theorem concludes (transport : Transport σ) (roomy : mission.settings.apply.policy.Roomy)
    (planned : mission.schedule = .ofList ops) (made : mission.batch world.clock = .ok batch)
    (n : Nat) (ended : ((mission.begun world batch).after transport n).batch.ended = true) :
    Concludes ops ((mission.begun world batch).calls transport n)
      ((mission.begun world batch).after transport n).batch
      (ending ((mission.begun world batch).after transport n).batch) := by
  obtain ⟨context, policy, rfl⟩ := batch_ok made
  rw [← policy] at roomy
  rw [planned] at ended ⊢
  cases stage : ((mission.begun world (.start context mission.transaction
    mission.settings.apply.options (.ofList ops))).after transport n).batch.stage with
  | finished =>
    rw [ending, stage]
    exact concludes_finished transport _ context _ _ ops n stage
  | broken fault =>
    rw [ending, stage]
    exact concludes_broken transport _ roomy _ _ ops n stage
  | _ => simp [Batch.ended, stage] at ended

-- A program that carries out a batch comes to an end with it, and with no other.
structure Runs (transport : Transport σ) (start : BatchRun σ) (ops : List Operation)
    (ends : Nat → Option (Ending × World σ)) : Prop where
  ended_iff : ∀ steps, (∃ outcome, ends steps = some outcome) ↔
    ∃ n ≤ steps, (start.after transport n).batch.ended = true
  concludes : ∀ steps ending after, ends steps = some (ending, after) → ∃ n ≤ steps,
    after = (start.after transport n).world ∧
      Concludes ops (start.calls transport n) (start.after transport n).batch ending

theorem outcome_runs (network : Http.Network σ)
    (roomy : mission.settings.apply.policy.Roomy) (planned : mission.schedule = .ofList ops)
    (made : mission.batch world.clock = .ok batch) :
    Runs (Http.transport network mission.endpoint) (mission.begun world batch) ops
      fun steps => mission.outcome? network steps world := by
  have same (steps : Nat) : mission.outcome? network steps world =
      ((mission.begun world batch).outcome? (Http.transport network mission.endpoint) steps).map
        fun run => (ending run.batch, run.world) := by
    rw [outcome?, made]
    rfl
  constructor
  · intro steps
    rw [same]
    constructor
    · rintro ⟨outcome, ends⟩
      obtain ⟨final, ends, -⟩ := Option.map_eq_some_iff.mp ends
      obtain ⟨n, within, rfl, ended⟩ := BatchRun.after_of_outcome? ends
      exact ⟨n, within, ended⟩
    · rintro ⟨n, within, ended⟩
      obtain ⟨final, ends⟩ := BatchRun.outcome?_of_after within ended
      exact ⟨_, congrArg (Option.map _) ends⟩
  · intro steps ending after ends
    rw [same] at ends
    obtain ⟨final, ends, told⟩ := Option.map_eq_some_iff.mp ends
    obtain ⟨n, within, rfl, ended⟩ := BatchRun.after_of_outcome? ends
    cases told
    exact ⟨n, within, rfl, Mission.concludes _ roomy planned made n ended⟩

end Mission

namespace Program

open Arguments (Line)

variable {σ : Type} {network : Http.Network σ} {listen : Net.Socket → Option String}
  {disk : String → Except String String} {password : Option String} {line : Line}
  {words : List String} {world : World σ} {ending : Ending}

theorem run_of_prepare_error (spells : line.Spells words) (named : line.refused = false)
    (stopped : prepare line.arguments (filesOf disk line.arguments) password = .error ending)
    (steps : Nat) :
    run network listen steps (filesOf disk) password words world = some (ending, world) := by
  rw [run, Line.ofWords_of_spells spells, named]
  simp only [Bool.false_eq_true, if_false, stopped]

theorem run_of_prepare_ok (network : Http.Network σ) (listen : Net.Socket → Option String)
    (world : World σ) {mission : Mission} (spells : line.Spells words)
    (named : line.refused = false)
    (ready : prepare line.arguments (filesOf disk line.arguments) password = .ok mission)
    (steps : Nat) :
    run network listen steps (filesOf disk) password words world =
      match mission.metrics?.bind listen with
      | some reason => some (.failed (.metrics reason), world)
      | none => mission.outcome? network steps world := by
  rw [run, Line.ofWords_of_spells spells, named]
  cases complains : mission.metrics?.bind listen <;>
    simp only [Bool.false_eq_true, if_false, ready, complains]

-- A delete in a transaction, the settings all as by default.
def removalDisk : String → Except String String
  | "plan.json" => .ok "[\x7b\"op\": \"delete\", \"section\": \"backend\", \"name\": \"app\"\x7d]"
  | "reconciler.toml" => .ok ""
  | _ => .error "No such file or directory (os error 2)"

def removalLine : Line where
  config := none
  plan := ⟨.short, "plan.json", by unfold Arguments.Spelling.Takes; decide⟩
  transaction := some ⟨.longJoined, "tx", trivial⟩
  dryRun := false

def refusesAll : Http.Network Unit where
  poll _ _ _ _ _ := ⟨.ready (.answered 404 ""), (), false⟩
  between _ _ := ⟨(), false, none⟩

def removalWorld : World Unit := ⟨0, false, (), fun _ => 0, 0, []⟩

def removal (steps : Nat) : Option (Ending × World Unit) :=
  run refusesAll (fun _ => none) steps (filesOf removalDisk) none
    ["--transaction-id=tx", "-p", "plan.json"] removalWorld

end Program
end Reconcile
