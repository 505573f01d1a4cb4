import Mathlib.Logic.Relation
import Reconcile.Proofs.Submission.Conversation
import Reconcile.World.Basic

namespace Reconcile

-- What a server has done that a writer can come to grief over: it has told its version to the operation
-- at a position, or it has accepted a write, of such an operation or of somebody else.
inductive Deed where
  | told (position version : Nat)
  | wrote (writer : Option Nat)
deriving DecidableEq

-- What has come from the operation at a position: its newest call, and the answer once there is one.
inductive Desk where
  | empty
  | pending (call : Call)
  | done (call : Call) (answer : Nat)
deriving DecidableEq

-- A server whose configuration has a version. Its deeds stand newest first.
structure Server where
  version : Nat
  desk : Nat → Desk
  deeds : List Deed

namespace Server

def put (s : Server) (position : Nat) (desk : Desk) : Server :=
  { s with desk := fun other => if other = position then desk else s.desk other }

def receive (s : Server) (position : Nat) (call : Call) : Server := s.put position (.pending call)

def tell (s : Server) (position : Nat) : Server :=
  { s.put position (.done .readVersion s.version) with
    deeds := .told position s.version :: s.deeds }

def accept (s : Server) (position : Nat) (request : Request) (status next : Nat) : Server :=
  { s.put position (.done (.submit request) status) with
    version := next
    deeds := .wrote (some position) :: s.deeds }

def refuse (s : Server) (position : Nat) (request : Request) : Server :=
  s.put position (.done (.submit request) conflictStatus)

-- Whoever else there is writes to the configuration, too.
def overwrite (s : Server) (next : Nat) : Server :=
  { s with version := next, deeds := .wrote none :: s.deeds }

-- Every write moves the version on, and the write of an operation is accepted if and only if it was
-- submitted with the version that the configuration has. Calls are met in any order, at any time, and
-- also after the operation has stopped waiting for the answer.
inductive Step (others : Bool) (s : Server) : Server → Prop where
  | tells (asked : s.desk position = .pending .readVersion) : Step others s (s.tell position)
  | accepts (asked : s.desk position = .pending (.submit request))
      (current : request.mode = .runtime s.version) (newer : s.version < next)
      (success : isSuccess status = true) :
      Step others s (s.accept position request status next)
  | refuses (asked : s.desk position = .pending (.submit request))
      (presents : request.mode = .runtime presented) (stale : presented ≠ s.version) :
      Step others s (s.refuse position request)
  | overwrites (allowed : others = true) (newer : s.version < next) :
      Step others s (s.overwrite next)

def Reaches (others : Bool) : Server → Server → Prop := Relation.ReflTransGen (Step others)

-- Nobody has called yet.
structure Fresh (s : Server) : Prop where
  empty : ∀ position, s.desk position = .empty
  idle : s.deeds = []

end Server

-- Behind a transport there is such a server. A call gets there with its first poll, and an answer comes
-- from there. Answers may come late or be lost, and calls may end in errors of the transport.
structure Serves {σ : Type} (others : Bool) (transport : Transport σ) (server : σ → Server) : Prop where
  poll : ∀ now job call count s, (∀ due, call ≠ .pause due) →
    (Server.Reaches others
        (if count = 0 then (server s).receive job.position call else server s)
        (server (transport.poll now job call count s).server)) ∧
      ∀ answer, (transport.poll now job call count s).progress = .ready (.ok answer) →
        (server (transport.poll now job call count s).server).desk job.position =
          .done call answer
  between : ∀ now s, Server.Reaches others (server s) (server (transport.between now s).server)

-- The writes that were accepted, newest first.
def writers (deeds : List Deed) : List (Option Nat) :=
  deeds.filterMap fun
    | .wrote writer => some writer
    | .told .. => none

-- Nothing was written since the operation at a position was told the version for the last time.
def Undisturbed (position : Nat) (deeds : List Deed) : Prop :=
  ∃ between version earlier, deeds = between ++ .told position version :: earlier ∧
    ∀ deed ∈ between, ∃ other told, deed = .told other told ∧ other ≠ position

-- No write of an operation goes over one that it has not seen.
def Faithful (deeds : List Deed) : Prop :=
  ∀ newer position older, deeds = newer ++ .wrote (some position) :: older →
    Undisturbed position older

-- The version that the operation at a position was told last, and how many writes there were since.
def reading? (position : Nat) : List Deed → Option (Nat × Nat)
  | [] => none
  | .told other version :: older =>
    if other = position then some (version, 0) else reading? position older
  | .wrote _ :: older =>
    (reading? position older).map fun reading => (reading.1, reading.2 + 1)

theorem writers_wrote (writer : Option Nat) (deeds : List Deed) :
    writers (.wrote writer :: deeds) = writer :: writers deeds := rfl

theorem reading_told (position version : Nat) (deeds : List Deed) :
    reading? position (.told position version :: deeds) = some (version, 0) := if_pos rfl

theorem reading_told_other {position other : Nat} (apart : other ≠ position) (version : Nat)
    (deeds : List Deed) : reading? position (.told other version :: deeds) =
      reading? position deeds := if_neg apart

theorem reading_wrote {position version count : Nat} {deeds : List Deed}
    (reading : reading? position deeds = some (version, count)) (writer : Option Nat) :
    reading? position (.wrote writer :: deeds) = some (version, count + 1) := by
  rw [reading?, reading]
  rfl

theorem reading_of_wrote {position version count : Nat} {writer : Option Nat} {deeds : List Deed}
    (reading : reading? position (.wrote writer :: deeds) = some (version, count)) :
    ∃ before, reading? position deeds = some (version, before) ∧ count = before + 1 := by
  obtain ⟨⟨told, before⟩, earlier, same⟩ := Option.map_eq_some_iff.mp reading
  cases same
  exact ⟨before, earlier, rfl⟩

theorem undisturbed_of_reading {position version : Nat} {deeds : List Deed}
    (reading : reading? position deeds = some (version, 0)) : Undisturbed position deeds := by
  induction deeds with
  | nil => cases reading
  | cons deed older ih =>
    cases deed with
    | wrote writer =>
      obtain ⟨before, -, positive⟩ := reading_of_wrote reading
      cases positive
    | told other told =>
      by_cases same : other = position
      · subst same
        exact ⟨[], told, older, rfl, fun _ absent => (List.not_mem_nil absent).elim⟩
      · rw [reading_told_other same] at reading
        obtain ⟨between, version, earlier, rfl, quiet⟩ := ih reading
        refine ⟨.told other told :: between, version, earlier, rfl, fun deed mem => ?_⟩
        rcases List.mem_cons.mp mem with rfl | later
        · exact ⟨other, told, rfl, same⟩
        · exact quiet deed later

theorem Faithful.cons {deed : Deed} {deeds : List Deed} (faithful : Faithful deeds)
    (head : ∀ position, deed = .wrote (some position) → Undisturbed position deeds) :
    Faithful (deed :: deeds) := by
  intro newer position older split
  cases newer with
  | nil =>
    obtain ⟨rfl, rfl⟩ := List.cons.inj split
    exact head position rfl
  | cons last newer =>
    obtain ⟨rfl, rest⟩ := List.cons.inj split
    exact faithful newer position older rest

-- A version that was told is the current one as long as nothing is written.
def Dated (version : Nat) (deeds : List Deed) : Prop :=
  ∀ position told count, reading? position deeds = some (told, count) →
    told ≤ version ∧ (told = version ↔ count = 0)

namespace Dated

variable {version : Nat} {deeds : List Deed}

theorem tell (dated : Dated version deeds) (position : Nat) :
    Dated version (.told position version :: deeds) := by
  intro other told count reading
  by_cases same : position = other
  · subst same
    rw [reading_told] at reading
    cases reading
    exact ⟨Nat.le_refl _, iff_of_true rfl rfl⟩
  · rw [reading_told_other same] at reading
    exact dated other told count reading

theorem write (dated : Dated version deeds) (newer : version < later) (writer : Option Nat) :
    Dated later (.wrote writer :: deeds) := by
  intro position told count reading
  obtain ⟨before, earlier, rfl⟩ := reading_of_wrote reading
  have known := (dated position told before earlier).1
  exact ⟨by omega, by omega⟩

end Dated

-- How the operation at a position stands with the server after a number of refused submissions: each
-- of them is owed to another write, and so is the next one if the version has moved on.
inductive Serving (deeds : List Deed) (position rounds : Nat) : Desk → Prop where
  | silent (unwritten : some position ∉ writers deeds) : Serving deeds position rounds .empty
  | reading (unwritten : some position ∉ writers deeds)
      (owed : rounds ≤ (writers deeds).length) :
      Serving deeds position rounds (.pending .readVersion)
  | told (unwritten : some position ∉ writers deeds)
      (reading : reading? position deeds = some (version, count))
      (owed : rounds + count ≤ (writers deeds).length) :
      Serving deeds position rounds (.done .readVersion version)
  | presenting (unwritten : some position ∉ writers deeds)
      (presents : request.mode = .runtime version)
      (reading : reading? position deeds = some (version, count))
      (owed : rounds + count ≤ (writers deeds).length) :
      Serving deeds position rounds (.pending (.submit request))
  | refused (unwritten : some position ∉ writers deeds)
      (owed : rounds + 1 ≤ (writers deeds).length) :
      Serving deeds position rounds (.done (.submit request) conflictStatus)
  | accepted (success : isSuccess status = true)
      (once : (writers deeds).count (some position) = 1)
      (owed : ∀ later earlier, writers deeds = later ++ some position :: earlier →
        rounds ≤ earlier.length) :
      Serving deeds position rounds (.done (.submit request) status)

namespace Serving

variable {deeds : List Deed} {position rounds : Nat} {desk : Desk}

theorem tell (serving : Serving deeds position rounds desk) (apart : other ≠ position)
    (version : Nat) : Serving (.told other version :: deeds) position rounds desk := by
  cases serving with
  | silent unwritten => exact .silent unwritten
  | reading unwritten owed => exact .reading unwritten owed
  | told unwritten reading owed =>
    exact .told unwritten ((reading_told_other apart version deeds).trans reading) owed
  | presenting unwritten presents reading owed =>
    exact .presenting unwritten presents
      ((reading_told_other apart version deeds).trans reading) owed
  | refused unwritten owed => exact .refused unwritten owed
  | accepted success once owed => exact .accepted success once owed

-- A write of somebody else is one more that a refusal can be owed to.
theorem write (serving : Serving deeds position rounds desk) (apart : writer ≠ some position) :
    Serving (.wrote writer :: deeds) position rounds desk := by
  have fresh : some position ∉ writers deeds → some position ∉ writers (.wrote writer :: deeds) :=
    fun unwritten mem => (List.mem_cons.mp mem).elim (fun same => apart same.symm) unwritten
  have longer : (writers (.wrote writer :: deeds)).length = (writers deeds).length + 1 := rfl
  cases serving with
  | silent unwritten => exact .silent (fresh unwritten)
  | reading unwritten owed => exact .reading (fresh unwritten) (by omega)
  | told unwritten reading owed =>
    exact .told (fresh unwritten) (reading_wrote reading writer) (by omega)
  | presenting unwritten presents reading owed =>
    exact .presenting (fresh unwritten) presents (reading_wrote reading writer) (by omega)
  | refused unwritten owed => exact .refused (fresh unwritten) (by omega)
  | accepted success once owed =>
    refine .accepted success ?_ ?_
    · rw [writers_wrote, List.count_cons_of_ne apart, once]
    · intro later earlier split
      cases later with
      | nil => exact absurd (List.cons.inj split).1 apart
      | cons last later => exact owed later earlier (List.cons.inj split).2

theorem count_le_one (serving : Serving deeds position rounds desk) :
    (writers deeds).count (some position) ≤ 1 := by
  cases serving with
  | accepted success once owed => exact Nat.le_of_eq once
  | _ unwritten =>
    rw [List.count_eq_zero_of_not_mem unwritten]
    exact Nat.zero_le _

end Serving

namespace Server

-- The books of a server: what was told is right, no operation has written over a write that it had not
-- seen, and every operation is served as it should be.
structure Stands (others : Bool) (rounds : Nat → Nat) (s : Server) : Prop where
  dated : Dated s.version s.deeds
  faithful : Faithful s.deeds
  serving : ∀ position, Serving s.deeds position (rounds position) (s.desk position)
  alone : others = false → none ∉ writers s.deeds

variable {others : Bool} {rounds : Nat → Nat} {s : Server}

theorem desk_put (s : Server) (position : Nat) (desk : Desk) :
    (s.put position desk).desk position = desk := if_pos rfl

theorem desk_put_other {position other : Nat} (s : Server) (apart : other ≠ position)
    (desk : Desk) : (s.put position desk).desk other = s.desk other := if_neg apart

theorem Fresh.stands (fresh : s.Fresh) (others : Bool) (rounds : Nat → Nat) :
    s.Stands others rounds := by
  have unwritten : ∀ writer, writer ∉ writers s.deeds := by
    rw [fresh.idle]
    exact fun _ => List.not_mem_nil
  constructor
  · rw [fresh.idle]
    exact fun _ _ _ absent => nomatch absent
  · rw [fresh.idle]
    intro newer position older split
    simp at split
  · intro position
    rw [fresh.empty position]
    exact .silent (unwritten _)
  · exact fun _ => unwritten none

namespace Stands

theorem tell (stands : s.Stands others rounds) (asked : s.desk position = .pending .readVersion) :
    (s.tell position).Stands others rounds := by
  refine ⟨stands.dated.tell position, stands.faithful.cons nofun, fun other => ?_, stands.alone⟩
  by_cases same : other = position
  · subst same
    have serving := stands.serving other
    rw [asked] at serving
    cases serving with
    | reading unwritten owed =>
      exact (desk_put s other _).symm ▸ .told unwritten (reading_told ..) owed
  · have serving := (stands.serving other).tell (Ne.symm same) s.version
    rwa [← desk_put_other s same (.done .readVersion s.version)] at serving

-- Who is accepted has presented the current version, which nobody has changed since it was told.
theorem accept (stands : s.Stands others rounds)
    (asked : s.desk position = .pending (.submit request))
    (current : request.mode = .runtime s.version) (newer : s.version < next)
    (success : isSuccess status = true) :
    (s.accept position request status next).Stands others rounds := by
  have serving := stands.serving position
  rw [asked] at serving
  cases serving with
  | @presenting _ count _ unwritten presents reading owed =>
    cases current.symm.trans presents
    have unchanged : count = 0 := ((stands.dated position _ _ reading).2).mp rfl
    subst unchanged
    refine ⟨stands.dated.write newer _, ?_, fun other => ?_, ?_⟩
    · refine stands.faithful.cons fun writer same => ?_
      cases same
      exact undisturbed_of_reading reading
    · by_cases same : other = position
      · subst same
        rw [Server.accept, desk_put]
        refine .accepted success ?_ fun later earlier split => ?_
        · rw [writers_wrote, List.count_cons_self, List.count_eq_zero_of_not_mem unwritten]
        · cases later with
          | nil => exact (List.cons.inj split).2 ▸ owed
          | cons last later =>
            have again : writers s.deeds = later ++ some other :: earlier := (List.cons.inj split).2
            exact absurd (again ▸ List.mem_append_right _ (List.mem_cons_self ..)) unwritten
      · have apart : some position ≠ some other := fun itself => same (Option.some.inj itself).symm
        have serving := (stands.serving other).write apart
        rwa [← desk_put_other s same (.done (.submit request) status)] at serving
    · intro alone mem
      rcases List.mem_cons.mp mem with absent | earlier
      · cases absent
      · exact stands.alone alone earlier

-- Who is refused has been told a version that somebody has changed since.
theorem refuse (stands : s.Stands others rounds)
    (asked : s.desk position = .pending (.submit request))
    (presents : request.mode = .runtime presented) (stale : presented ≠ s.version) :
    (s.refuse position request).Stands others rounds := by
  refine ⟨stands.dated, stands.faithful, fun other => ?_, stands.alone⟩
  by_cases same : other = position
  · subst same
    have serving := stands.serving other
    rw [asked] at serving
    cases serving with
    | @presenting _ count _ unwritten presents' reading owed =>
      cases presents.symm.trans presents'
      have changed : count ≠ 0 :=
        fun none => stale (((stands.dated other _ _ reading).2).mpr none)
      rw [Server.refuse, desk_put]
      exact .refused unwritten (by simp only [put]; omega)
  · rw [Server.refuse, desk_put_other s same]
    exact stands.serving other

theorem overwrite (stands : s.Stands others rounds) (allowed : others = true)
    (newer : s.version < next) : (s.overwrite next).Stands others rounds := by
  refine ⟨stands.dated.write newer none, stands.faithful.cons nofun, fun position => ?_, ?_⟩
  · exact (stands.serving position).write nofun
  · intro alone
    cases allowed.symm.trans alone

theorem step (stands : s.Stands others rounds) (moves : Step others s later) :
    later.Stands others rounds := by
  cases moves with
  | tells asked => exact stands.tell asked
  | accepts asked current newer success => exact stands.accept asked current newer success
  | refuses asked presents stale => exact stands.refuse asked presents stale
  | overwrites allowed newer => exact stands.overwrite allowed newer

theorem reaches (stands : s.Stands others rounds) (moves : Reaches others s later) :
    later.Stands others rounds := by
  induction moves with
  | refl => exact stands
  | tail _ last ih => exact ih.step last

-- A call comes in, and nothing else is changed by that.
theorem receive {after : Nat → Nat} (stands : s.Stands others rounds)
    (same : ∀ other, other ≠ position → after other = rounds other)
    (serving : Serving s.deeds position (after position) (.pending call)) :
    (s.receive position call).Stands others after := by
  refine ⟨stands.dated, stands.faithful, fun other => ?_, stands.alone⟩
  by_cases own : other = position
  · subst own
    rwa [Server.receive, desk_put]
  · rw [Server.receive, desk_put_other s own, same other own]
    exact stands.serving other

end Stands

-- Meets the call on a desk, whatever else there is to do.
def meet (s : Server) (position : Nat) : Call → Option (Nat × Server)
  | .readVersion => some (s.version, s.tell position)
  | .submit request =>
    match request.mode with
    | .runtime version =>
      if version = s.version then some (200, s.accept position request 200 (s.version + 1))
      else some (conflictStatus, s.refuse position request)
    | .staged _ => none
  | .pause _ => none

theorem reaches_meet (others : Bool) (asked : s.desk position = .pending call)
    (met : s.meet position call = some (answer, later)) :
    Reaches others s later ∧ later.desk position = .done call answer := by
  unfold meet at met
  split at met
  · cases met
    exact ⟨.single (.tells asked), desk_put ..⟩
  · split at met
    · split at met
      · rename_i current
        cases met
        subst current
        exact ⟨.single (.accepts asked ‹_› (Nat.lt_succ_self _) rfl), desk_put ..⟩
      · cases met
        exact ⟨.single (.refuses asked ‹_› ‹_›), desk_put ..⟩
    · cases met
  · cases met

-- A server that lets everybody wait for one turn. If there are others, one of them writes once, after
-- somebody has been told the version.
def unhurried (others : Bool) : Transport Server where
  poll _ job call count s :=
    if count = 0 then ⟨.waiting .soon, s.receive job.position call, false, []⟩
    else if s.desk job.position = .pending call then
      match s.meet job.position call with
      | some (answer, later) => ⟨.ready (.ok answer), later, false, []⟩
      | none => ⟨.waiting .soon, s, false, []⟩
    else ⟨.waiting .soon, s, false, []⟩
  between _ s :=
    if others && !s.deeds.isEmpty && (writers s.deeds).isEmpty then
      ⟨s.overwrite (s.version + 1), false, none⟩
    else ⟨s, false, none⟩

theorem unhurried_serves (others : Bool) : Serves others (unhurried others) id := by
  constructor
  · intro now job call count s other
    simp only [unhurried, id_eq]
    by_cases first : count = 0
    · rw [if_pos first, if_pos first]
      exact ⟨.refl, nofun⟩
    · rw [if_neg first, if_neg first]
      by_cases asked : s.desk job.position = .pending call
      · rw [if_pos asked]
        cases met : s.meet job.position call with
        | none => exact ⟨.refl, nofun⟩
        | some outcome =>
          obtain ⟨moves, told⟩ := reaches_meet others asked met
          refine ⟨moves, fun answer given => ?_⟩
          cases given
          exact told
      · rw [if_neg asked]
        exact ⟨.refl, nofun⟩
  · intro now s
    simp only [unhurried, id_eq]
    split
    · rename_i due
      simp only [Bool.and_eq_true] at due
      exact .single (.overwrites due.1.1 (Nat.lt_succ_self _))
    · exact .refl

end Server
end Reconcile
