import Mathlib
import Reconcile.Http.Client
import Reconcile.Proofs.Endpoint.Distinct
import Reconcile.Proofs.Json.Written
import Reconcile.Proofs.Plan.Entry

namespace Reconcile

namespace Address

-- The name of the resource itself. One in a list has its place instead, a singleton has neither.
def name? : Address → Option String
  | .named name | .child _ name | .contained _ name => some name
  | .singleton | .indexed _ _ => none

-- All of an address but that name.
def anonymous : Address → Address
  | .named _ => .named ""
  | .child parent _ => .child parent ""
  | .contained container _ => .contained container ""
  | .singleton => .singleton
  | .indexed parent index => .indexed parent index

-- Two addresses that only their own names could tell apart are equal if both go by one label.
theorem eq_of_label {address other : Address} {label : Option String}
    (rest : address.anonymous = other.anonymous) (own : ∀ name ∈ address.name?, label = some name)
    (own' : ∀ name ∈ other.name?, label = some name) : address = other := by
  cases address <;> cases other <;> simp_all [anonymous, name?]

end Address

-- The name in its address is the one that its payload goes by.
def Operation.Labelled (op : Operation) : Prop :=
  ∀ name ∈ op.address.name?, op.payload.bind (·.label) = some name

-- Bodies that are written alike go by the same name.
theorem Payload.Raw.label_of_written {raw other : Raw}
    (same : Json.write (.object raw.fields) = Json.write (.object other.fields)) :
    raw.label = other.label := by
  rw [label, label, funext (Json.string_of_written same)]

-- What a plan creates is sent as it stands there.
theorem Plan.body_of_create {text : String} {ops : List Operation} {op : Operation}
    {body : Option Json} (read : parse text = .ok ops) (listed : op ∈ ops)
    (created : op.verb = .create) (bodied : op.body = .ok body) :
    ∃ raw : Payload.Raw, op.payload = some raw.payload ∧ body = some (.object raw.fields) := by
  obtain ⟨items, -, made⟩ := parse_iff.mp read
  obtain ⟨item, e, -, makes⟩ := exists_of_mem made listed
  unfold Operation.body at bodied
  rw [created, makes.payload] at bodied
  rw [makes.payload]
  cases sent : e.body with
  | none =>
    rw [sent] at bodied
    cases bodied
  | some raw =>
    rw [sent] at bodied
    cases bodied
    exact ⟨raw, rfl, rfl⟩

namespace Request

variable {r other : Request} {address address' : Address}

-- The only name in the path of a create is that of the parent.
theorem route_created (landing : Landing r.kind address r.target) (created : r.verb = .create)
    (holder : ∀ parent ∈ address.parent?, Url.Placeable parent.name) :
    ∀ text ∈ r.route, Url.Placeable text := by
  obtain ⟨verb, kind, target, mode, body⟩ := r
  dsimp only at created landing
  subst created
  have above (parent : Parent) (named : Url.Placeable parent.name) {last : List String}
      (rest : ∀ text ∈ last, Url.Placeable text) :
      ∀ text ∈ parent.kind.path :: parent.name :: kind.path :: last, Url.Placeable text := by
    simp only [List.forall_mem_cons]
    exact ⟨parent.kind.path_placeable, named, kind.path_placeable, rest⟩
  have alone : ∀ text ∈ [kind.path], Url.Placeable text :=
    List.forall_mem_singleton.mpr kind.path_placeable
  cases landing with
  | singleton shape => exact alone
  | named shape given => exact alone
  | contained shape holder inside given => exact alone
  | child shape accepted inside given => exact above _ (holder _ rfl) nofun
  | indexed shape accepted inside =>
    exact above _ (holder _ rfl) (List.forall_mem_singleton.mpr (Url.decimal_placeable _))

-- The route and the query of a create tell all of its address but its own name, and nothing more.
theorem told_created (landing : Landing r.kind address r.target)
    (landing' : Landing other.kind address' other.target) (created : r.verb = .create)
    (created' : other.verb = .create) (kinds : r.kind = other.kind) (modes : r.mode = other.mode) :
    (r.route = other.route ∧ r.pairs = other.pairs) ↔ address.anonymous = address'.anonymous := by
  obtain ⟨verb, kind, target, mode, body⟩ := r
  obtain ⟨verb', kind', target', mode', body'⟩ := other
  dsimp only at created created' landing landing' kinds modes
  subst created created' kinds modes
  cases landing with
  | singleton shape =>
    cases landing' with
    | singleton shape' => exact ⟨fun _ => rfl, fun _ => ⟨rfl, rfl⟩⟩
    | _ shape' => cases shape.symm.trans shape'
  | named shape given =>
    cases landing' with
    | named shape' given' => exact ⟨fun _ => rfl, fun _ => ⟨rfl, rfl⟩⟩
    | _ shape' => cases shape.symm.trans shape'
  | child shape accepted inside given =>
    cases landing' with
    | child shape' accepted' inside' given' =>
      constructor
      · rintro ⟨routes, -⟩
        obtain ⟨path, routes⟩ := List.cons.inj routes
        rw [Address.anonymous, Parent.told_apart path (List.cons.inj routes).1]
        rfl
      · intro same
        cases (Address.child.inj same).1
        exact ⟨rfl, rfl⟩
    | _ shape' => cases shape.symm.trans shape'
  | indexed shape accepted inside =>
    cases landing' with
    | indexed shape' accepted' inside' =>
      constructor
      · rintro ⟨routes, -⟩
        simp only [route, List.cons.injEq, and_true] at routes
        obtain ⟨path, name, -, index⟩ := routes
        rw [Parent.told_apart path name, decimal_injective index]
      · intro same
        cases same
        exact ⟨rfl, rfl⟩
    | _ shape' => cases shape.symm.trans shape'
  | contained shape holder inside given =>
    cases landing' with
    | contained shape' holder' inside' given' =>
      obtain ⟨key, found⟩ := Section.scope_of_scopedChild shape
      rw [pairs_contained rfl found, pairs_contained rfl found]
      constructor
      · rintro ⟨-, pairs⟩
        simp only [Except.ok.injEq, List.cons.injEq, Prod.mk.injEq, and_true, true_and] at pairs
        rw [Address.anonymous, pairs]
        rfl
      · intro same
        cases (Address.contained.inj same).1
        exact ⟨rfl, rfl⟩
    | _ shape' => cases shape.symm.trans shape'

end Request

namespace Http

-- What of a message depends on the change: all but this is that of the client.
def Message.content (m : Message) : Method × String × Option String :=
  (m.method, m.url.text, m.body)

theorem messageOf?_created {e : Endpoint} {r : Request} {url : Url}
    (found : e.requestUrl r = .ok url) (created : r.verb = .create) :
    messageOf? e (.submit r) = some (message e .post url r.body) := by
  rw [messageOf?, found, created]
  rfl

-- A create is carried by a message whose body is the payload as the plan states it.
structure Carried (e : Endpoint) (op : Operation) (r : Request) (m : Message) : Prop where
  message : messageOf? e (.submit r) = some m
  payload : ∃ raw : Payload.Raw, op.payload = some raw.payload ∧
    m.body = some (Json.write (.object raw.fields))

end Http

namespace Endpoint

open Http

variable {e : Endpoint}

-- A URL tells the route and the query of its request, and nothing more.
theorem told_by_url {r other : Request} (web : e.base.family = .web)
    (route : ∀ text ∈ r.route, Url.Placeable text)
    (route' : ∀ text ∈ other.route, Url.Placeable text)
    (pairs : r.pairs = .ok (first :: more)) (pairs' : other.pairs = .ok (first' :: more')) :
    ∃ url url', e.requestUrl r = .ok url ∧ e.requestUrl other = .ok url' ∧
      (url.text = url'.text ↔ r.route = other.route ∧ r.pairs = other.pairs) := by
  refine ⟨_, _, requestUrl_of_route web route pairs, requestUrl_of_route web route' pairs', ?_⟩
  rw [pairs, pairs']
  constructor
  · intro same
    obtain ⟨routes, query⟩ := Url.text_unique same
    exact ⟨routes, congrArg _ (Url.pairs_unique (congrArg ('&' :: ·) query))⟩
  · rintro ⟨routes, queries⟩
    cases queries
    rw [routes]

-- A create is told from others of its section by its address without its own name and by what is
-- written of its payload: by its name as well, if that is the name its payload goes by.
theorem creates_told_apart (e : Endpoint) (text text' : String) (ops ops' : List Operation)
    (first second : Operation) (mode : ApplyMode) (mutation mutation' : Mutation)
    (web : Settings.isWeb e.base.scheme = true)
    (read : Plan.parse text = .ok ops) (read' : Plan.parse text' = .ok ops')
    (listed : first ∈ ops) (listed' : second ∈ ops')
    (created : first.verb = .create) (created' : second.verb = .create)
    (kinds : first.kind = second.kind)
    (prepared : first.prepare mode.isStaged = .ok mutation)
    (prepared' : second.prepare mode.isStaged = .ok mutation')
    (holder : ∀ parent ∈ first.address.parent?, Url.Placeable parent.name)
    (holder' : ∀ parent ∈ second.address.parent?, Url.Placeable parent.name) :
    ∃ message message', Carried e first (mutation.request mode) message ∧
      Carried e second (mutation'.request mode) message' ∧
      (message.content = message'.content ↔
        first.address.anonymous = second.address.anonymous ∧ message.body = message'.body) ∧
      (first.address ≠ second.address → first.Labelled → second.Labelled →
        message.content ≠ message'.content) := by
  obtain ⟨-, -, landing, bodied, verb, kind⟩ := Operation.prepare_ok prepared
  obtain ⟨-, -, landing', bodied', verb', kind'⟩ := Operation.prepare_ok prepared'
  obtain ⟨raw, sends, written⟩ := Plan.body_of_create read listed created bodied
  obtain ⟨raw', sends', written'⟩ := Plan.body_of_create read' listed' created' bodied'
  rw [← kind] at landing kinds
  rw [← kind'] at landing' kinds
  rw [← verb] at created
  rw [← verb'] at created'
  obtain ⟨pair, more, pairs⟩ := Request.pairs_ok (r := mutation.request mode) landing
  obtain ⟨pair', more', pairs'⟩ := Request.pairs_ok (r := mutation'.request mode) landing'
  obtain ⟨url, url', found, found', told⟩ := told_by_url (Url.family_of_isWeb web)
    (Request.route_created (r := mutation.request mode) landing created holder)
    (Request.route_created (r := mutation'.request mode) landing' created' holder') pairs pairs'
  have places : url.text = url'.text ↔ first.address.anonymous = second.address.anonymous :=
    told.trans (Request.told_created landing landing' created created' kinds rfl)
  have alike : (message e .post url mutation.body).content =
        (message e .post url' mutation'.body).content ↔
      first.address.anonymous = second.address.anonymous ∧
        mutation.body.map Json.write = mutation'.body.map Json.write := by
    rw [← places, Message.content, Message.content, Prod.mk.injEq, Prod.mk.injEq]
    exact and_iff_right rfl
  have carried : Carried e first (mutation.request mode) (message e .post url mutation.body) :=
    ⟨messageOf?_created found created, raw, sends, congrArg (Option.map Json.write) written⟩
  have carried' : Carried e second (mutation'.request mode) (message e .post url' mutation'.body) :=
    ⟨messageOf?_created found' created', raw', sends', congrArg (Option.map Json.write) written'⟩
  refine ⟨_, _, carried, carried', alike, fun apart own own' same => apart ?_⟩
  obtain ⟨rest, texts⟩ := alike.mp same
  rw [written, written'] at texts
  have labels : raw.label = raw'.label := Payload.Raw.label_of_written (Option.some.inj texts)
  rw [Operation.Labelled, sends] at own
  rw [Operation.Labelled, sends'] at own'
  exact Address.eq_of_label rest own fun name mem => labels.trans (own' name mem)

def backend (name : String) (fields : Json.Object) : Operation :=
  ⟨.create, .backend, .named name, some (Payload.Raw.payload ⟨fields⟩)⟩

def creation (name : String) (fields : Json.Object) : Mutation :=
  ⟨.create, .backend, .named name, some (.object fields)⟩

def labelled : String :=
  "[\x7b\"op\":\"create\",\"section\":\"backend\",\"payload\":\x7b\"name\":\"a\"\x7d\x7d," ++
    "\x7b\"op\":\"create\",\"section\":\"backend\",\"payload\":\x7b\"name\":\"b\"\x7d\x7d]"

theorem labelled_read : Plan.parse labelled =
    .ok [backend "a" [("name", .string "a")], backend "b" [("name", .string "b")]] := by cbv

theorem labelled_told_apart : ∃ message message',
    messageOf? usual (.submit ((creation "a" [("name", .string "a")]).request (.staged change))) =
      some message ∧
    messageOf? usual (.submit ((creation "b" [("name", .string "b")]).request (.staged change))) =
      some message' ∧
    message.content ≠ message'.content := by
  obtain ⟨message, message', carried, carried', -, apart⟩ :=
    creates_told_apart usual labelled labelled _ _ (backend "a" [("name", .string "a")])
      (backend "b" [("name", .string "b")]) (.staged change) (creation "a" [("name", .string "a")])
      (creation "b" [("name", .string "b")]) rfl labelled_read labelled_read
      (List.mem_cons_self ..) (List.mem_cons_of_mem _ (List.mem_cons_self ..)) rfl rfl rfl rfl rfl
      nofun nofun
  refine ⟨message, message', carried.message, carried'.message, apart (by decide) ?_ ?_⟩
  · rintro name ⟨⟩
    cbv
  · rintro name ⟨⟩
    cbv

def unlabelled : String :=
  "[\x7b\"op\":\"create\",\"section\":\"backend\",\"name\":\"a\",\"payload\":\x7b\x7d\x7d," ++
    "\x7b\"op\":\"create\",\"section\":\"backend\",\"name\":\"b\",\"payload\":\x7b\x7d\x7d]"

-- The plan gives two names, and the payloads say nothing of them: one message carries either.
theorem unlabelled_alike : Plan.parse unlabelled = .ok [backend "a" [], backend "b" []] ∧
    (backend "a" []).prepare true = .ok (creation "a" []) ∧
    (backend "b" []).prepare true = .ok (creation "b" []) ∧
    (backend "a" []).address ≠ (backend "b" []).address ∧
    ∃ message,
      messageOf? usual (.submit ((creation "a" []).request (.staged change))) = some message ∧
      messageOf? usual (.submit ((creation "b" []).request (.staged change))) = some message := by
  have read : Plan.parse unlabelled = .ok [backend "a" [], backend "b" []] := by cbv
  exact ⟨read, rfl, rfl, by decide, _, rfl, rfl⟩

end Endpoint
end Reconcile
