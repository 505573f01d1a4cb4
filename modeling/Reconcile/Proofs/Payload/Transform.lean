import Reconcile.Payload.Models
import Reconcile.Proofs.Payload.Slots
import Reconcile.Proofs.Submission.Prepare
import Reconcile.Proofs.Text.Split

namespace Reconcile.Payload

open Json (Object)

-- A transform that loses nothing: values with the same object are the same. Its object has a key
-- for just those fields that are there, and no null. `present` says which fields are there.
structure Lossless (wire : α → Wire) (present : α → List (String × Bool)) : Prop where
  injective : ∀ {a b fields}, wire a = .ok fields → wire b = .ok fields → a = b
  keys : ∀ {a fields}, wire a = .ok fields → ∀ key, key ∈ fields.keys ↔ (key, true) ∈ present a
  solid : ∀ {a fields}, wire a = .ok fields → ∀ entry ∈ fields, entry.2 ≠ .null

-- What is written is read back.
def Readable (wire : α → Wire) (read? : Json → Option α) : Prop :=
  ∀ {a fields}, wire a = .ok fields → read? (.object fields) = some a

-- A transform that fills those places of its model that are there. Each has a key of its own.
structure Fills (wire : α → Wire) (slots : α → Slots) (present : α → List (String × Bool)) :
    Prop where
  keys : ∀ a b, (slots a).keys = (slots b).keys
  once : ∀ a, (slots a).keys.Nodup
  filled : ∀ a, (slots a).filled = present a
  solid : ∀ a, ∀ slot ∈ slots a, slot.2 ≠ some .null
  made : ∀ {a fields}, wire a = .ok fields → fields = .ofList (slots a).written

section filling

variable {wire : α → Wire} {slots : α → Slots} {present : α → List (String × Bool)} {a b : α}
  {fields : Object}

theorem Fills.get? (fills : Fills wire slots present) (accepted : wire a = .ok fields) :
    ∀ slot ∈ slots a, fields.get? slot.1 = slot.2 := by
  intro slot mem
  rw [fills.made accepted]
  exact Slots.get?_object (fills.once a) mem

theorem Fills.eq (fills : Fills wire slots present) (one : wire a = .ok fields)
    (two : wire b = .ok fields) : slots a = slots b :=
  Slots.eq_of_object (fills.once a) (fills.keys a b) ((fills.made one).symm.trans (fills.made two))

theorem Fills.lossless (fills : Fills wire slots present)
    (injective : ∀ {a b fields}, wire a = .ok fields → wire b = .ok fields → a = b) :
    Lossless wire present where
  injective := injective
  keys := by
    intro a fields accepted key
    rw [fills.made accepted, Slots.mem_keys_object (fills.once a), fills.filled]
  solid := by
    intro a fields accepted entry mem null
    rw [fills.made accepted] at mem
    exact fills.solid a _ ((Slots.mem_object (fills.once a)).mp mem) (congrArg some null)

theorem Readable.injective {read? : Json → Option α} (readable : Readable wire read?)
    (one : wire a = .ok fields) (two : wire b = .ok fields) : a = b :=
  Option.some.inj ((readable one).symm.trans (readable two))

end filling

namespace Global

def slots (g : Global) : Slots :=
  [("maxconn", g.maxconn.map word64), ("nbthread", g.nbthread.map word32),
    ("hard_stop_after", g.hardStopAfter.map word64), ("master_worker", g.masterWorker.map .bool)]

def present (g : Global) : List (String × Bool) :=
  [("maxconn", g.maxconn.isSome), ("nbthread", g.nbthread.isSome),
    ("hard_stop_after", g.hardStopAfter.isSome), ("master_worker", g.masterWorker.isSome)]

theorem fills : Fills wire slots present where
  keys _ _ := rfl
  once _ := by simp [Slots.keys, slots]
  filled _ := by simp [Slots.filled, slots, present]
  solid _ := by simp [slots, word32, word64, Json.nat]
  made {g fields} accepted := by
    unfold wire at accepted
    split at accepted
    · cases accepted
    · cases accepted
      simp [slots, Slots.written]

theorem readable : Readable wire read? := by
  intro g fields accepted
  have places := fills.get? accepted
  simp only [slots, List.forall_mem_cons] at places
  obtain ⟨maxconn, nbthread, stop, worker, -⟩ := places
  simp only [read?, readFields, Json.asRecord?, Option.bind_eq_bind, Option.bind_some,
    recovers_word64.optional maxconn, recovers_word32.optional nbthread,
    recovers_word64.optional stop, recovers_bool.optional worker]
  rfl

end Global

theorem recovers_mode : Recovers (fun m : ProxyMode => .string m.text)
    (·.asWord? ProxyMode.ofText?) := by
  refine ⟨fun m => ?_, nofun⟩
  cases m <;> rfl

theorem recovers_balance : Recovers Balance.wire Balance.read? := by
  refine ⟨fun b => ?_, nofun⟩
  cases b <;> rfl

namespace Frontend

def slots (f : Frontend) : Slots :=
  [("name", some (.string f.name)), ("mode", f.mode.map fun m => .string m.text),
    ("default_backend", f.defaultBackend.map .string), ("maxconn", f.maxconn.map word64),
    ("httplog", f.httplog.map .bool)]

def present (f : Frontend) : List (String × Bool) :=
  [("name", true), ("mode", f.mode.isSome), ("default_backend", f.defaultBackend.isSome),
    ("maxconn", f.maxconn.isSome), ("httplog", f.httplog.isSome)]

theorem fills : Fills wire slots present where
  keys _ _ := rfl
  once _ := by simp [Slots.keys, slots]
  filled _ := by simp [Slots.filled, slots, present]
  solid _ := by simp [slots, word64, Json.nat]
  made {f fields} accepted := by
    obtain ⟨_, -, made⟩ := bind_eq_ok.mp accepted
    cases made
    simp [slots, Slots.written, field]

theorem readable : Readable wire read? := by
  intro f fields accepted
  have places := fills.get? accepted
  simp only [slots, List.forall_mem_cons] at places
  obtain ⟨name, mode, backend, maxconn, httplog, -⟩ := places
  simp only [read?, readFields, Json.asRecord?, Option.bind_eq_bind, Option.bind_some,
    recovers_string.required name, recovers_mode.optional mode, recovers_string.optional backend,
    recovers_word64.optional maxconn, recovers_bool.optional httplog]
  rfl

end Frontend

namespace Backend

def slots (b : Backend) : Slots :=
  [("name", some (.string b.name)), ("mode", b.mode.map fun m => .string m.text),
    ("balance", b.balance.map Balance.wire), ("server_timeout", b.serverTimeout.map word64),
    ("use_fcgi_app", b.useFcgiApp.map .string)]

def present (b : Backend) : List (String × Bool) :=
  [("name", true), ("mode", b.mode.isSome), ("balance", b.balance.isSome),
    ("server_timeout", b.serverTimeout.isSome), ("use_fcgi_app", b.useFcgiApp.isSome)]

theorem fills : Fills wire slots present where
  keys _ _ := rfl
  once _ := by simp [Slots.keys, slots]
  filled _ := by simp [Slots.filled, slots, present]
  solid _ := by simp [slots, Balance.wire, word64, Json.nat]
  made {b fields} accepted := by
    obtain ⟨_, -, made⟩ := bind_eq_ok.mp accepted
    cases made
    simp [slots, Slots.written, field]

theorem readable : Readable wire read? := by
  intro b fields accepted
  have places := fills.get? accepted
  simp only [slots, List.forall_mem_cons] at places
  obtain ⟨name, mode, balance, timeout, app, -⟩ := places
  simp only [read?, readFields, Json.asRecord?, Option.bind_eq_bind, Option.bind_some,
    recovers_string.required name, recovers_mode.optional mode, recovers_balance.optional balance,
    recovers_word64.optional timeout, recovers_string.optional app]
  rfl

end Backend

namespace Bind

def slots (b : Bind) : Slots :=
  [("name", some (.string b.name)), ("address", b.address.map .string),
    ("port", b.port.map word32), ("ssl", b.ssl.map .bool),
    ("ssl_certificate", b.sslCertificate.map .string), ("alpn", b.alpn.map .string),
    ("accept_proxy", b.acceptProxy.map .bool)]

def present (b : Bind) : List (String × Bool) :=
  [("name", true), ("address", b.address.isSome), ("port", b.port.isSome), ("ssl", b.ssl.isSome),
    ("ssl_certificate", b.sslCertificate.isSome), ("alpn", b.alpn.isSome),
    ("accept_proxy", b.acceptProxy.isSome)]

theorem fills : Fills wire slots present where
  keys _ _ := rfl
  once _ := by simp [Slots.keys, slots]
  filled _ := by simp [Slots.filled, slots, present]
  solid _ := by simp [slots, word32, Json.nat]
  made {b fields} accepted := by
    obtain ⟨_, -, accepted⟩ := bind_eq_ok.mp accepted
    obtain ⟨_, -, accepted⟩ := bind_eq_ok.mp accepted
    split at accepted
    · cases accepted
    · cases accepted
      simp [slots, Slots.written, field]

theorem readable : Readable wire read? := by
  intro b fields accepted
  have places := fills.get? accepted
  simp only [slots, List.forall_mem_cons] at places
  obtain ⟨name, address, port, ssl, certificate, alpn, proxy, -⟩ := places
  simp only [read?, readFields, Json.asRecord?, Option.bind_eq_bind, Option.bind_some,
    recovers_string.required name, recovers_string.optional address,
    recovers_word32.optional port, recovers_bool.optional ssl,
    recovers_string.optional certificate, recovers_string.optional alpn,
    recovers_bool.optional proxy]
  rfl

end Bind

namespace Acl

def slots (a : Acl) : Slots :=
  [("acl_name", a.name.map .string), ("criterion", some (.string a.criterion)),
    ("value", a.value.map .string)]

def present (a : Acl) : List (String × Bool) :=
  [("acl_name", a.name.isSome), ("criterion", true), ("value", a.value.isSome)]

theorem fills : Fills wire slots present where
  keys _ _ := rfl
  once _ := by simp [Slots.keys, slots]
  filled _ := by simp [Slots.filled, slots, present]
  solid _ := by simp [slots]
  made {a fields} accepted := by
    obtain ⟨_, -, made⟩ := bind_eq_ok.mp accepted
    cases made
    simp [slots, Slots.written, field]

theorem readable : Readable wire read? := by
  intro a fields accepted
  have places := fills.get? accepted
  simp only [slots, List.forall_mem_cons] at places
  obtain ⟨name, criterion, value, -⟩ := places
  simp only [read?, readFields, Json.asRecord?, Option.bind_eq_bind, Option.bind_some,
    recovers_string.optional name, recovers_string.required criterion,
    recovers_string.optional value]
  rfl

end Acl

namespace Server

def slots (s : Server) : Slots :=
  [("name", some (.string s.name)), ("address", some (.string s.address)),
    ("port", s.port.map word32), ("weight", s.weight.map word32), ("check", s.check.map toggle),
    ("ssl", s.ssl.map toggle), ("maintenance", s.maintenance.map toggle),
    ("backup", s.backup.map toggle)]

def present (s : Server) : List (String × Bool) :=
  [("name", true), ("address", true), ("port", s.port.isSome), ("weight", s.weight.isSome),
    ("check", s.check.isSome), ("ssl", s.ssl.isSome), ("maintenance", s.maintenance.isSome),
    ("backup", s.backup.isSome)]

theorem fills : Fills wire slots present where
  keys _ _ := rfl
  once _ := by simp [Slots.keys, slots]
  filled _ := by simp [Slots.filled, slots, present]
  solid _ := by simp [slots, word32, Json.nat, toggle]
  made {s fields} accepted := by
    obtain ⟨_, -, accepted⟩ := bind_eq_ok.mp accepted
    obtain ⟨_, -, accepted⟩ := bind_eq_ok.mp accepted
    obtain ⟨_, -, accepted⟩ := bind_eq_ok.mp accepted
    split at accepted
    · cases accepted
    · cases accepted
      simp [slots, Slots.written, field]

theorem injective {s s' : Server} {fields : Object} (one : s.wire = .ok fields)
    (two : s'.wire = .ok fields) : s = s' := by
  have numbers : ∀ n n' : UInt32, word32 n = word32 n' → n = n' :=
    fun _ _ => recovers_word32.injective
  have toggles : ∀ on on' : Bool, toggle on = toggle on' → on = on' := fun _ _ => toggle_injective
  have same := fills.eq one two
  simp only [slots, List.cons.injEq, Prod.mk.injEq, Option.some.injEq, Json.string.injEq,
    Option.map_inj_right numbers, Option.map_inj_right toggles, true_and, and_true] at same
  obtain ⟨name, address, port, weight, check, ssl, maintenance, backup⟩ := s
  obtain ⟨rfl, rfl, rfl, rfl, rfl, rfl, rfl, rfl⟩ := same
  rfl

end Server

namespace User

def slots (u : User) : Slots :=
  [("username", some (.string u.username)), ("password", some (.string u.password)),
    ("secure_password", u.securePassword.map .bool),
    ("groups", if u.groups.isEmpty then none else some (.string (",".intercalate u.groups)))]

def present (u : User) : List (String × Bool) :=
  [("username", true), ("password", true), ("secure_password", u.securePassword.isSome),
    ("groups", !u.groups.isEmpty)]

-- The groups that an object names: those between the commas.
def readGroups (fields : Object) : List String :=
  match (fields.get? "groups").bind (·.asString?) with
  | none => []
  | some text => (Text.split (· == ',') text.toList).map String.ofList

variable {u u' : User} {fields : Object}

theorem wire_ok (accepted : u.wire = .ok fields) :
    (∀ group ∈ u.groups, badGroup group = false) ∧ fields = .ofList u.slots.written := by
  obtain ⟨_, -, accepted⟩ := bind_eq_ok.mp accepted
  split at accepted
  · cases accepted
  · rename_i good
    cases accepted
    refine ⟨by simpa using good, ?_⟩
    simp [slots, Slots.written, field]

theorem fills : Fills wire slots present where
  keys _ _ := rfl
  once _ := by simp [Slots.keys, slots]
  filled u := by
    cases listed : u.groups <;> simp [Slots.filled, slots, present, listed]
  solid _ := by simp [slots]
  made accepted := (wire_ok accepted).2

theorem readable_groups (accepted : u.wire = .ok fields) : readGroups fields = u.groups := by
  have places := fills.get? accepted
  simp only [slots, List.forall_mem_cons] at places
  obtain ⟨-, -, -, joined, -⟩ := places
  unfold readGroups
  rw [joined]
  by_cases none : u.groups = []
  · rw [none]
    rfl
  · have plain : ∀ word ∈ u.groups, ∀ c ∈ word.toList, (c == ',') = false := by
      intro word mem c inside
      have good := (wire_ok accepted).1 word mem
      simp only [badGroup, Bool.or_eq_false_iff, List.contains_eq_mem, decide_eq_false_iff_not]
        at good
      rw [beq_eq_false_iff_ne]
      rintro rfl
      exact good.1 inside
    have pieces : Text.split (· == ',') (",".intercalate u.groups).toList =
        u.groups.map String.toList := Text.split_intercalate rfl rfl none plain
    rw [if_neg (by simpa using none)]
    simp only [Option.bind_some, Json.asString?]
    rw [pieces, List.map_map]
    simp [Function.comp_def]

theorem injective (one : u.wire = .ok fields) (two : u'.wire = .ok fields) : u = u' := by
  have groups : u.groups = u'.groups := (readable_groups one).symm.trans (readable_groups two)
  have flags : ∀ on on' : Bool, Json.bool on = .bool on' → on = on' :=
    fun _ _ => recovers_bool.injective
  have same := fills.eq one two
  simp only [slots, List.cons.injEq, Prod.mk.injEq, Option.some.injEq, Json.string.injEq,
    Option.map_inj_right flags, true_and] at same
  obtain ⟨username, password, securePassword, _⟩ := u
  obtain ⟨rfl, rfl, rfl, -⟩ := same
  cases groups
  rfl

end User

-- The transforms of the typed models lose nothing. Those that can be read are read back, and the
-- groups of a user are those between the commas.
theorem transforms_lossless :
    (Lossless Global.wire Global.present ∧ Readable Global.wire Global.read?) ∧
    (Lossless Frontend.wire Frontend.present ∧ Readable Frontend.wire Frontend.read?) ∧
    (Lossless Backend.wire Backend.present ∧ Readable Backend.wire Backend.read?) ∧
    (Lossless Bind.wire Bind.present ∧ Readable Bind.wire Bind.read?) ∧
    (Lossless Acl.wire Acl.present ∧ Readable Acl.wire Acl.read?) ∧
    Lossless Server.wire Server.present ∧
    Lossless User.wire User.present ∧
    ∀ u fields, User.wire u = .ok fields → User.readGroups fields = u.groups := by
  refine ⟨⟨?_, Global.readable⟩, ⟨?_, Frontend.readable⟩, ⟨?_, Backend.readable⟩,
    ⟨?_, Bind.readable⟩, ⟨?_, Acl.readable⟩, ?_, ?_, fun _ _ => User.readable_groups⟩
  · exact Global.fills.lossless Global.readable.injective
  · exact Frontend.fills.lossless Frontend.readable.injective
  · exact Backend.fills.lossless Backend.readable.injective
  · exact Bind.fills.lossless Bind.readable.injective
  · exact Acl.fills.lossless Acl.readable.injective
  · exact Server.fills.lossless Server.injective
  · exact User.fills.lossless User.injective

-- Binds that leave TLS as it is and that turn it off.
def plainBind : Bind := { name := "https", port := some 443 }

def plainFields : Object := [("name", .string "https"), ("port", .nat 443)]

def openBind : Bind := { plainBind with ssl := some false }

def openFields : Object := plainFields ++ [("ssl", .bool false)]

def operator : User :=
  { username := "bob", password := "$6$hash", groups := ["ops", "dev"] }

def operatorFields : Object :=
  [("groups", .string "ops,dev"), ("password", .string "$6$hash"), ("username", .string "bob")]

theorem openBind_lossless :
    plainBind.wire = .ok plainFields ∧ openBind.wire = .ok openFields ∧
      "ssl" ∉ plainFields.keys ∧ "ssl" ∈ openFields.keys ∧
      Bind.read? (.object openFields) = some openBind ∧
      operator.wire = .ok operatorFields ∧ User.readGroups operatorFields = ["ops", "dev"] := by
  have plain : plainBind.wire = .ok plainFields := by decide +kernel
  have opened : openBind.wire = .ok openFields := by decide +kernel
  have grouped : operator.wire = .ok operatorFields := by decide +kernel
  obtain ⟨-, -, -, ⟨lossless, readable⟩, -, -, -, groups⟩ := transforms_lossless
  refine ⟨plain, opened, ?_, ?_, readable opened, grouped, groups operator _ grouped⟩
  · simp [lossless.keys plain, plainBind, Bind.present]
  · simp [lossless.keys opened, openBind, Bind.present]

end Reconcile.Payload
