import Reconcile.Settings.Basic
import Reconcile.Toml.Reader
import Reconcile.Word

namespace Reconcile.Settings

open Toml (Node)

-- A field of a group of settings: where it stands when the group is written as a list, and its
-- name when it is written as a table.
def field (position : Nat) (name : String) (group : Node) : Option Node :=
  match group with
  | .table _ fields => Toml.Fields.get? fields name
  | .list items => items[position]?
  | .tables newestFirst => newestFirst.reverse[position]?
  | _ => none

-- What a group of settings can be written as. A date has none of the fields.
def isGroup : Node → Bool
  | .table _ _ | .list _ | .tables _ | .date => true
  | _ => false

-- The value of a field, or the one it has when it is not written.
def read (group : Node) (position : Nat) (name : String) (unwritten : α) (decode : Node → Option α) :
    Option α :=
  match field position name group with
  | none => some unwritten
  | some node => decode node

def text? : Node → Option String
  | .text value => some value
  | _ => none

def truth? : Node → Option Bool
  | .truth value => some value
  | _ => none

def word64? : Node → Option UInt64
  | .integer n => if 0 ≤ n ∧ n < Word.count64 then some (UInt64.ofNat n.toNat) else none
  | _ => none

def word32? : Node → Option UInt32
  | .integer n => if 0 ≤ n ∧ n < Word.count32 then some (UInt32.ofNat n.toNat) else none
  | _ => none

-- A value that may be missing is there once it is written.
def present (decode : Node → Option α) (node : Node) : Option (Option α) := (decode node).map some

def connectionOf? (group : Node) : Option Connection :=
  if !isGroup group then none
  else do
    let d : Connection := {}
    let baseUrl ← read group 0 "base_url" d.baseUrl text?
    let username ← read group 1 "username" d.username (present text?)
    let password ← read group 2 "password" d.password (present text?)
    let requestTimeoutSecs ← read group 3 "request_timeout_secs" d.requestTimeoutSecs word64?
    let connectTimeoutSecs ← read group 4 "connect_timeout_secs" d.connectTimeoutSecs word64?
    return { baseUrl, username, password, requestTimeoutSecs, connectTimeoutSecs }

def applyOf? (group : Node) : Option ApplySettings :=
  if !isGroup group then none
  else do
    let d : ApplySettings := {}
    let maxConflictRetries ←
      read group 0 "max_conflict_retries" d.maxConflictRetries (present word32?)
    let backoffBaseMs ← read group 1 "conflict_backoff_base_ms" d.backoffBaseMs word64?
    let backoffMaxMs ← read group 2 "conflict_backoff_max_ms" d.backoffMaxMs word64?
    let deadlineSecs ← read group 3 "deadline_secs" d.deadlineSecs (present word64?)
    let continueOnError ← read group 4 "continue_on_error" d.continueOnError truth?
    let concurrentTiers ← read group 5 "concurrent_tiers" d.concurrentTiers truth?
    return { maxConflictRetries, backoffBaseMs, backoffMaxMs, deadlineSecs, continueOnError,
             concurrentTiers }

def observabilityOf? (group : Node) : Option Observability :=
  if !isGroup group then none
  else do
    let d : Observability := {}
    let logLevel ← read group 0 "log_level" d.logLevel text?
    let metricsEnabled ← read group 1 "metrics_enabled" d.metricsEnabled truth?
    let metricsAddress ← read group 2 "metrics_address" d.metricsAddress text?
    return { logLevel, metricsEnabled, metricsAddress }

-- The settings that a document holds. What it does not name is as it is by default, and what it
-- names beyond is passed over.
def ofDocument? (document : Node) : Option Settings := do
  let d : Settings := {}
  let connection ← read document 0 "dataplane" d.connection connectionOf?
  let apply ← read document 1 "apply" d.apply applyOf?
  let observability ← read document 2 "observability" d.observability observabilityOf?
  return { connection, apply, observability }

def ofToml? (text : String) : Option Settings := (Toml.parse? text).bind ofDocument?

end Reconcile.Settings
