import Reconcile.Submission.Request
import Reconcile.Text.Split

namespace Reconcile

-- What the command line asks for. The first two are paths of files.
structure Arguments where
  config : String
  plan : String
  transaction : Option TransactionId
  dryRun : Bool
deriving DecidableEq

-- Why a command line asks for nothing: it wants the help, or it is wrong.
inductive Usage where
  | help
  | wrong
deriving DecidableEq, Repr

namespace Arguments

-- The options that take a value.
inductive Key where
  | config | plan | transaction
deriving DecidableEq, Repr

def Key.ofLong? (name : List Char) : Option Key :=
  if name = "config".toList then some .config
  else if name = "plan".toList then some .plan
  else if name = "transaction-id".toList then some .transaction
  else none

def Key.ofShort? : Char → Option Key
  | 'c' => some .config
  | 'p' => some .plan
  | 't' => some .transaction
  | _ => none

inductive Word where
  | help
  | dryRun
  -- An option, and its value if that stands in the same word.
  | option (key : Key) (value : Option String)
  -- No options follow.
  | last
  | other
deriving DecidableEq, Repr

-- A word after two hyphens. A value stands after the first equals sign.
def Word.ofLong (body : List Char) : Word :=
  match Text.cut (· = '=') body with
  | (name, none) =>
    if name = "help".toList then .help
    else if name = "dry-run".toList then .dryRun
    else match Key.ofLong? name with
      | some key => .option key none
      | none => .other
  | (name, some value) =>
    match Key.ofLong? name with
    | some key => .option key (some (String.ofList value))
    | none => .other

-- A word after one hyphen. A value follows its letter, after an equals sign or at once.
def Word.ofShort (letter : Char) (rest : List Char) : Word :=
  if letter = 'h' then .help
  else match Key.ofShort? letter, rest with
    | none, _ => .other
    | some key, [] => .option key none
    | some key, '=' :: value => .option key (some (String.ofList value))
    | some key, value => .option key (some (String.ofList value))

def Word.ofText (text : String) : Word :=
  match text.toList with
  | ['-', '-'] => .last
  | '-' :: '-' :: body => .ofLong body
  | '-' :: letter :: rest => .ofShort letter rest
  | _ => .other

-- Whether a word can be the value of the option before it.
def isValue (text : String) : Bool :=
  match text.toList with
  | '-' :: _ :: _ => false
  | _ => true

-- What has been read so far.
structure Given where
  config : Option String := none
  plan : Option String := none
  transaction : Option TransactionId := none
  dryRun : Bool := false

-- Every option is given once at most. No path is empty.
def Given.put (given : Given) (key : Key) (value : String) : Option Given :=
  match key with
  | .config =>
    if given.config.isSome || value.isEmpty then none else some { given with config := some value }
  | .plan =>
    if given.plan.isSome || value.isEmpty then none else some { given with plan := some value }
  | .transaction =>
    match given.transaction, TransactionId.ofText? value with
    | none, some id => some { given with transaction := some id }
    | _, _ => none

-- Reads word after word. The first one that asks for the help or is wrong decides.
def Given.read (given : Given) : List String → Except Usage Given
  | [] => .ok given
  | word :: rest =>
    match Word.ofText word with
    | .help => .error .help
    | .dryRun => if given.dryRun then .error .wrong else read { given with dryRun := true } rest
    | .option key (some value) =>
      match given.put key value with
      | some next => read next rest
      | none => .error .wrong
    | .option key none =>
      match rest with
      | value :: more =>
        match isValue value, given.put key value with
        | true, some next => read next more
        | _, _ => .error .wrong
      | [] => .error .wrong
    | .last => if rest.isEmpty then .ok given else .error .wrong
    | .other => .error .wrong

-- A plan has to be named; the settings have a place of their own.
def ofWords (words : List String) : Except Usage Arguments :=
  match ({} : Given).read words with
  | .error usage => .error usage
  | .ok given =>
    match given.plan with
    | none => .error .wrong
    | some plan =>
      .ok ⟨given.config.getD "reconciler.toml", plan, given.transaction, given.dryRun⟩

def usageLine : String := "Usage: dataplane-reconciler [OPTIONS] --plan <PLAN>"

def helpLines : List String :=
  ["Apply ordered configuration changes through the Data Plane API",
    "",
    usageLine,
    "",
    "Options:",
    "  -c, --config <CONFIG>",
    "          Reconciler configuration (TOML) [default: reconciler.toml]",
    "  -p, --plan <PLAN>",
    "          Plan of changes (JSON array)",
    "  -t, --transaction-id <TRANSACTION_ID>",
    "          Stage changes in this transaction instead of applying them at runtime",
    "      --dry-run",
    "          Print the execution order without contacting the API",
    "  -h, --help",
    "          Print help"]

end Arguments
end Reconcile
