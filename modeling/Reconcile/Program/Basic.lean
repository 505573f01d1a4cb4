import Reconcile.Http.Client
import Reconcile.Plan.Basic
import Reconcile.Program.Arguments
import Reconcile.Settings.Validation

namespace Reconcile

-- Why a program ends before its batch does.
inductive Complaint where
  | usage
  -- The words of the system about a file.
  | unreadable (reason : String)
  | config (error : ConfigError)
  | plan (error : PlanError)
  -- The words of the system about the address of the metrics.
  | metrics (reason : String)
  | endpoint (error : TransportError)
  | fault (fault : Fault)

namespace Complaint

def message : Complaint → String
  | .usage => Arguments.usageLine
  | .unreadable reason => "IO error: " ++ reason
  | .config error => error.message
  | .plan error => error.message
  | .metrics reason => reason
  | .endpoint error => error.message
  | .fault _ => "arithmetic overflow"

-- A fault is not told by the program itself, so it has a status of its own.
def status : Complaint → Nat
  | .fault _ => 101
  | _ => 2

end Complaint

-- How a program ends: its status, the lines of its output, and its complaint.
structure Ending where
  status : Nat
  output : List String
  complaint : Option String
deriving DecidableEq, Repr

namespace Ending

def failed (complaint : Complaint) : Ending :=
  ⟨complaint.status, [], some ("error: " ++ complaint.message)⟩

def ofUsage : Usage → Ending
  | .help => ⟨0, Arguments.helpLines, none⟩
  | .wrong => failed .usage

-- A number that takes three places at least.
def placed (position : Nat) : String :=
  let digits := toString position
  String.ofList (List.replicate (3 - digits.length) ' ') ++ digits

def previewLine (job : Job) : String :=
  s!"{placed (job.position + 1)}  [{job.operation.tier.rank}]  {job.operation.describe}"

-- The operations in their order, each with its tier.
def ofPreview (schedule : Schedule) : Ending :=
  ⟨0, (Job.number schedule.ordered).map previewLine, none⟩

def failedLine (f : FailedJob) : String := s!"failed   [{f.failure.category.text}] {f.message}"

def skippedLine (job : Job) : String := "skipped  " ++ job.operation.describe

-- What failed, what was skipped, and the report in one line.
def ofReport (report : Report) : Ending :=
  ⟨if report.isSuccess then 0 else 1,
    report.failed.map failedLine ++ report.skipped.map skippedLine ++ [report.text], none⟩

end Ending

-- The files that a command line names: their texts, or the words of the system about them.
structure Files where
  config : Except String String
  plan : Except String String

-- A batch that is to be carried out.
structure Mission where
  settings : Settings
  endpoint : Endpoint
  schedule : Schedule
  transaction : Option TransactionId

namespace Program

def settings (files : Files) (password : Option String) : Except Complaint Settings :=
  match files.config with
  | .error reason => .error (.unreadable reason)
  | .ok text => (Settings.parse text password).mapError .config

def schedule (files : Files) : Except Complaint Schedule :=
  match files.plan with
  | .error reason => .error (.unreadable reason)
  | .ok text =>
    match Plan.parse text with
    | .error error => .error (.plan error)
    | .ok ops => .ok (.ofList ops)

-- Everything before the batch: how the program ends already, or what is to be carried out.
def prepare (arguments : Arguments) (files : Files) (password : Option String) :
    Except Ending Mission :=
  match settings files password with
  | .error complaint => .error (.failed complaint)
  | .ok settings =>
    match schedule files with
    | .error complaint => .error (.failed complaint)
    | .ok schedule =>
      if arguments.dryRun then .error (.ofPreview schedule)
      else
        match Endpoint.ofConnection settings.connection with
        | .error error => .error (.failed (.endpoint error))
        | .ok endpoint => .ok ⟨settings, endpoint, schedule, arguments.transaction⟩

end Program

namespace Mission

-- Where the metrics are offered, if the settings want it.
def metrics? (mission : Mission) : Option Net.Socket :=
  let o := mission.settings.observability
  if o.metricsEnabled then Net.Socket.parse? o.metricsAddress else none

-- The batch, its deadline counted from now.
def batch (mission : Mission) (now : Nat) : Except Fault Batch :=
  match mission.settings.apply.context now with
  | .error fault => .error fault
  | .ok context =>
    .ok (.start context mission.transaction mission.settings.apply.options mission.schedule)

-- How the program ends when its batch has ended.
def ending (batch : Batch) : Ending :=
  match batch.stage with
  | .broken fault => .failed (.fault fault)
  | _ => .ofReport batch.report

-- Carries a mission out in a world, within a number of steps.
def outcome? {σ : Type} (network : Http.Network σ) (steps : Nat) (mission : Mission)
    (world : World σ) : Option (Ending × World σ) :=
  match mission.batch world.clock with
  | .error fault => some (.failed (.fault fault), world)
  | .ok batch =>
    let world := world.record world.moment [.noted (Http.opened mission.endpoint)]
    (BatchRun.outcome? (Http.transport network mission.endpoint) steps ⟨world, batch⟩).map
      fun run => (ending run.batch, run.world)

end Mission

namespace Program

-- The whole program, within a number of steps. `listen` is the system's complaint about an address
-- to listen on, if it has one.
def run {σ : Type} (network : Http.Network σ) (listen : Net.Socket → Option String) (steps : Nat)
    (files : Arguments → Files) (password : Option String) (words : List String)
    (world : World σ) : Option (Ending × World σ) :=
  match Arguments.ofWords words with
  | .error usage => some (.ofUsage usage, world)
  | .ok arguments =>
    match prepare arguments (files arguments) password with
    | .error ending => some (ending, world)
    | .ok mission =>
      match mission.metrics?.bind listen with
      | some reason => some (.failed (.metrics reason), world)
      | none => mission.outcome? network steps world

end Program
end Reconcile
