import Mathlib.Data.List.Perm.Basic
import Reconcile.Program.Arguments
import Reconcile.Proofs.Url.Reading

namespace Reconcile.Arguments

-- How an option is written with its value.
inductive Spelling where
  | long
  | longJoined
  | short
  | shortJoined
  | shortEqual

-- A value in a word of its own must not look like an option, and one right behind its letter is
-- read from there on.
def Spelling.Takes (spelling : Spelling) (value : String) : Prop :=
  match spelling with
  | .long | .short => isValue value = true
  | .shortJoined => ∃ c rest, value.toList = c :: rest ∧ c ≠ '='
  | .longJoined | .shortEqual => True

structure Spelled where
  spelling : Spelling
  value : String
  takes : spelling.Takes value

inductive Flag where
  | dryRun
  | option (key : Key) (spelled : Spelled)

def Key.long : Key → String
  | .config => "config"
  | .plan => "plan"
  | .transaction => "transaction-id"

def Key.letter : Key → Char
  | .config => 'c'
  | .plan => 'p'
  | .transaction => 't'

def Flag.words : Flag → List String
  | .dryRun => ["--dry-run"]
  | .option key ⟨.long, value, _⟩ => ["--" ++ key.long, value]
  | .option key ⟨.longJoined, value, _⟩ => ["--" ++ key.long ++ "=" ++ value]
  | .option key ⟨.short, value, _⟩ => ["-" ++ key.letter.toString, value]
  | .option key ⟨.shortJoined, value, _⟩ => ["-" ++ key.letter.toString ++ value]
  | .option key ⟨.shortEqual, value, _⟩ => ["-" ++ key.letter.toString ++ "=" ++ value]

-- What a flag speaks of.
def Flag.key? : Flag → Option Key
  | .dryRun => none
  | .option key _ => some key

namespace Word

theorem ofText_long (key : Key) : ofText ("--" ++ key.long) = .option key none := by
  cases key <;> decide

theorem ofText_longJoined (key : Key) (value : String) :
    ofText ("--" ++ key.long ++ "=" ++ value) = .option key (some value) := by
  have plain : ∀ d ∈ key.long.toList, decide (d = '=') = false := by
    cases key <;> simp [Key.long]
  have body : ("--" ++ key.long ++ "=" ++ value).toList =
      '-' :: '-' :: (key.long.toList ++ '=' :: value.toList) := by simp
  have read : ofLong (key.long.toList ++ '=' :: value.toList) = .option key (some value) := by
    have named : Key.ofLong? key.long.toList = some key := by cases key <;> decide
    rw [ofLong, Text.cut_marked (decide_eq_true rfl) plain]
    simp only [named, String.ofList_toList]
  rw [ofText, body]
  cases key <;> exact read

theorem ofText_short (key : Key) : ofText ("-" ++ key.letter.toString) = .option key none := by
  cases key <;> decide

theorem ofText_shortEqual (key : Key) (value : String) :
    ofText ("-" ++ key.letter.toString ++ "=" ++ value) = .option key (some value) := by
  have body : ("-" ++ key.letter.toString ++ "=" ++ value).toList =
      '-' :: key.letter :: '=' :: value.toList := by simp
  rw [ofText, body]
  cases key <;> simp [ofShort, Key.letter, Key.ofShort?]

theorem ofText_shortJoined (key : Key) {value : String}
    (takes : Spelling.Takes .shortJoined value) :
    ofText ("-" ++ key.letter.toString ++ value) = .option key (some value) := by
  obtain ⟨c, rest, chars, unequal⟩ := takes
  have body : ("-" ++ key.letter.toString ++ value).toList =
      '-' :: key.letter :: c :: rest := by simp [chars]
  have whole : String.ofList (c :: rest) = value := by rw [← chars, String.ofList_toList]
  rw [ofText, body]
  cases key <;> simp [ofShort, Key.letter, Key.ofShort?, unequal, whole]

end Word

namespace Given

variable {given : Given} {first second : Flag}

-- What a flag adds to what has been given, unless it has been given before or has no use for its
-- value.
def take (given : Given) : Flag → Option Given
  | .dryRun => if given.dryRun then none else some { given with dryRun := true }
  | .option key spelled => given.put key spelled.value

-- What is read after a flag that is worth something.
def readOn (rest : List String) : Option Given → Except Usage Given
  | some next => next.read rest
  | none => .error .wrong

theorem read_joined {word : String} (same : Word.ofText word = .option key (some value))
    (rest : List String) : given.read (word :: rest) = readOn rest (given.put key value) := by
  rw [read, same]
  rfl

theorem read_apart {word : String} (same : Word.ofText word = .option key none)
    (takes : isValue value = true) (rest : List String) :
    given.read (word :: value :: rest) = readOn rest (given.put key value) := by
  rw [read, same]
  dsimp only
  rw [takes]
  cases given.put key value <;> rfl

theorem read_flag (flag : Flag) (rest : List String) :
    given.read (flag.words ++ rest) = readOn rest (given.take flag) := by
  cases flag with
  | dryRun =>
    have word : Word.ofText "--dry-run" = .dryRun := by decide
    rw [Flag.words, List.singleton_append, read, word, take]
    dsimp only
    split <;> rfl
  | option key spelled =>
    obtain ⟨spelling, value, takes⟩ := spelled
    cases spelling with
    | long => exact read_apart (Word.ofText_long key) takes rest
    | longJoined => exact read_joined (Word.ofText_longJoined key value) rest
    | short => exact read_apart (Word.ofText_short key) takes rest
    | shortJoined => exact read_joined (Word.ofText_shortJoined key takes) rest
    | shortEqual => exact read_joined (Word.ofText_shortEqual key value) rest

-- Whether nothing has been given yet for a flag, and its value is of use.
def admits (given : Given) : Flag → Bool
  | .dryRun => !given.dryRun
  | .option .config spelled => given.config.isNone && !spelled.value.isEmpty
  | .option .plan spelled => given.plan.isNone && !spelled.value.isEmpty
  | .option .transaction spelled => given.transaction.isNone && !Text.isBlank spelled.value

def add (given : Given) : Flag → Given
  | .dryRun => { given with dryRun := true }
  | .option .config spelled => { given with config := some spelled.value }
  | .option .plan spelled => { given with plan := some spelled.value }
  | .option .transaction spelled =>
    { given with transaction := TransactionId.ofText? spelled.value }

theorem take_eq (flag : Flag) :
    given.take flag = if given.admits flag then some (given.add flag) else none := by
  obtain ⟨config, plan, transaction, dryRun⟩ := given
  cases flag with
  | dryRun => cases dryRun <;> rfl
  | option key spelled =>
    cases key with
    | config =>
      cases config <;> cases empty : spelled.value.isEmpty <;> simp [take, put, admits, add, empty]
    | plan =>
      cases plan <;> cases empty : spelled.value.isEmpty <;> simp [take, put, admits, add, empty]
    | transaction =>
      cases transaction <;> cases blank : Text.isBlank spelled.value <;>
        simp [take, put, admits, add, TransactionId.ofText?, blank]

theorem admits_add_of_ne (given : Given) (apart : first.key? ≠ second.key?) :
    (given.add first).admits second = given.admits second := by
  obtain _ | ⟨(_ | _ | _), _⟩ := first <;> obtain _ | ⟨(_ | _ | _), _⟩ := second <;> first
    | rfl
    | exact absurd rfl apart

theorem add_comm (apart : first.key? ≠ second.key?) :
    (given.add first).add second = (given.add second).add first := by
  obtain _ | ⟨(_ | _ | _), _⟩ := first <;> obtain _ | ⟨(_ | _ | _), _⟩ := second <;> first
    | rfl
    | exact absurd rfl apart

theorem not_admits_add (given : Given) (same : first.key? = second.key?)
    (admitted : given.admits first = true) : (given.add first).admits second = false := by
  cases first with
  | dryRun =>
    cases second with
    | dryRun => rfl
    | option => cases same
  | option key spelled =>
    cases second with
    | dryRun => cases same
    | option =>
      cases same
      cases key with
      | config | plan => rfl
      | transaction =>
        obtain ⟨-, written⟩ := Bool.and_eq_true_iff.mp admitted
        simp only [Bool.not_eq_true'] at written
        simp [add, admits, TransactionId.ofText?, written]

-- Two flags can change places: each speaks of something else, or the later one is refused.
theorem take_comm (first second : Flag) :
    (given.take first).bind (·.take second) = (given.take second).bind (·.take first) := by
  simp only [take_eq]
  by_cases same : first.key? = second.key?
  · have one := given.not_admits_add same
    have two := given.not_admits_add same.symm
    cases admitted : given.admits first <;> cases admitted' : given.admits second <;> simp_all
  · have one := given.admits_add_of_ne same
    have two := given.admits_add_of_ne (Ne.symm same)
    cases admitted : given.admits first <;> cases admitted' : given.admits second <;>
      simp [one, two, admitted, admitted', add_comm same]

def takeAll (given : Option Given) (flags : List Flag) : Option Given :=
  flags.foldl (fun given flag => given.bind (·.take flag)) given

theorem takeAll_nil (given : Option Given) : takeAll given [] = given := rfl

theorem takeAll_none (flags : List Flag) : takeAll none flags = none := by
  induction flags with
  | nil => rfl
  | cons flag rest ih => exact ih

theorem takeAll_cons (flag : Flag) (rest : List Flag) : takeAll (some given) (flag :: rest) =
    if given.admits flag then takeAll (some (given.add flag)) rest else none := by
  rw [takeAll, List.foldl_cons, Option.bind_some, take_eq, ← takeAll]
  split
  · rfl
  · exact takeAll_none rest

theorem takeAll_perm (given : Option Given) {flags other : List Flag} (same : flags.Perm other) :
    takeAll given flags = takeAll given other := by
  refine same.foldl_eq' (fun first _ second _ given => ?_) given
  cases given with
  | none => rfl
  | some given => exact take_comm first second

theorem read_flags (flags : List Flag) :
    given.read (flags.flatMap Flag.words) = readOn [] (takeAll (some given) flags) := by
  induction flags generalizing given with
  | nil => rfl
  | cons flag rest ih =>
    rw [List.flatMap_cons, read_flag, takeAll, List.foldl_cons, Option.bind_some, ← takeAll]
    cases given.take flag with
    | none => rw [takeAll_none]; rfl
    | some next => exact ih

end Given

-- What a command line says that names a plan, each thing once at most.
structure Line where
  config : Option Spelled
  plan : Spelled
  transaction : Option Spelled
  dryRun : Bool

namespace Line

def flags (line : Line) : List Flag :=
  .option .plan line.plan :: (line.config.toList.map (.option .config) ++
    line.transaction.toList.map (.option .transaction) ++ if line.dryRun then [.dryRun] else [])

-- The flags may stand in any order.
def Spells (line : Line) (words : List String) : Prop :=
  ∃ order : List Flag, order.Perm line.flags ∧ words = order.flatMap Flag.words

def configPath (line : Line) : String := (line.config.map (·.value)).getD "reconciler.toml"

-- A path that is given is empty, or a transaction that is given has a blank id.
def refused (line : Line) : Bool :=
  line.plan.value.isEmpty || line.config.any (·.value.isEmpty) ||
    line.transaction.any (Text.isBlank ·.value)

def arguments (line : Line) : Arguments :=
  ⟨line.configPath, line.plan.value, line.transaction.bind (TransactionId.ofText? ·.value),
    line.dryRun⟩

variable {line : Line}

theorem takeAll_flags : Given.takeAll (some {}) line.flags =
    if line.refused then none
    else some ⟨line.config.map (·.value), some line.plan.value,
      line.transaction.bind (TransactionId.ofText? ·.value), line.dryRun⟩ := by
  obtain ⟨config, plan, transaction, dryRun⟩ := line
  cases config <;> cases transaction <;> cases dryRun <;>
    grind [flags, refused, Given.takeAll_cons, Given.takeAll_nil, Given.admits, Given.add]

-- What is read of a command line does not depend on how it is spelled.
theorem ofWords_of_spells (spells : line.Spells words) :
    ofWords words = if line.refused then .error .wrong else .ok line.arguments := by
  obtain ⟨order, same, rfl⟩ := spells
  rw [ofWords, Given.read_flags, Given.takeAll_perm _ same, takeAll_flags]
  cases line.refused <;> rfl

end Line
end Reconcile.Arguments
