import Reconcile.Proofs.Endpoint.Distinct
import Reconcile.Proofs.Url.Reading

namespace Reconcile

namespace Operation

-- The parent that an operation's place is in, as it stands in a path.
def above (op : Operation) : List String :=
  match op.address.parent? with
  | some parent => [parent.kind.path, parent.name]
  | none => []

-- What an operation's resource is told apart by within its collection: its position if it has one,
-- otherwise its name, which a new one does not have yet.
def leaf (op : Operation) : List String :=
  match op.address with
  | .singleton => []
  | .indexed _ index => [toString index]
  | .named name | .child _ name | .contained _ name => if op.verb = .create then [] else [name]

-- The container is not part of the path.
def scopePairs (op : Operation) : List (String × String) :=
  match op.address, op.kind.scope with
  | .contained container _, some key => [(key, container)]
  | _, _ => []

end Operation

namespace Request

variable {op : Operation} {mutation : Mutation}

theorem route_eq (landing : Landing op.kind op.address mutation.target)
    (verb : mutation.verb = op.verb) (kind : mutation.kind = op.kind) (mode : ApplyMode) :
    (mutation.request mode).route = op.above ++ op.kind.path :: op.leaf := by
  obtain ⟨_, _, target, body⟩ := mutation
  obtain ⟨verb', kind', address, payload⟩ := op
  cases verb
  cases kind
  cases landing <;> rfl

theorem pairs_eq (landing : Landing op.kind op.address mutation.target)
    (kind : mutation.kind = op.kind) (mode : ApplyMode) :
    (mutation.request mode).pairs = .ok (op.scopePairs ++ [modePair mode]) := by
  obtain ⟨verb, _, target, body⟩ := mutation
  obtain ⟨verb', kind', address, payload⟩ := op
  cases kind
  cases landing with
  | contained shape holder inside given =>
    obtain ⟨key, found⟩ := Section.scope_of_scopedChild shape
    rw [pairs_contained rfl found, Operation.scopePairs, found]
    rfl
  | _ => rw [pairs_plain _ (fun _ _ same => by cases same)]; rfl

end Request

namespace Url

theorem rooted_of_fileUrl {scheme : String} {cs : List Char} {url : Url}
    (read : fileUrl scheme cs = .ok url) :
    ∃ segments guarded, url.path = .rooted segments guarded := by
  obtain ⟨_, -, made⟩ := bind_eq_ok.mp read
  cases made
  exact ⟨_, _, rfl⟩

theorem rooted_of_afterScheme {scheme : String} {cs : List Char} {url : Url}
    (read : afterScheme scheme cs = .ok url) (web : url.family = .web) :
    ∃ segments guarded, url.path = .rooted segments guarded := by
  unfold afterScheme at read
  dsimp only at read
  split at read
  · obtain ⟨_, -, made⟩ := bind_eq_ok.mp read
    cases made
    exact ⟨_, _, rfl⟩
  · rename_i other
    split at read
    · obtain ⟨_, -, made⟩ := bind_eq_ok.mp read
      cases made
      exact ⟨_, _, rfl⟩
    · split at read
      · cases read
        exact ⟨_, _, rfl⟩
      · cases read
        exact absurd web other

-- Only another scheme can be followed by a path that is no list of segments.
theorem rooted_of_parse {text : String} {url : Url} (parsed : parse text = .ok url)
    (web : url.family = .web) : ∃ segments guarded, url.path = .rooted segments guarded := by
  unfold parse at parsed
  dsimp only at parsed
  split at parsed
  · cases parsed
  · split at parsed
    · exact rooted_of_fileUrl parsed
    · exact rooted_of_afterScheme parsed web

end Url

namespace Endpoint

theorem of_accepted {settings : Settings} (accepted : settings.errors = []) :
    ∃ e, ofConnection settings.connection = .ok e ∧ e.base.family = .web := by
  obtain ⟨base, parsed, web⟩ := Settings.web_of_accepted accepted
  obtain ⟨segments, guarded, rooted⟩ := Url.rooted_of_parse parsed web
  cases made : ofConnection settings.connection with
  | ok e =>
    cases parsed.symm.trans (base_of_connection made)
    exact ⟨e, rfl, web⟩
  | error failed =>
    unfold ofConnection at made
    split at made
    · rename_i refused
      cases refused.symm.trans parsed
    · rename_i found
      cases found.symm.trans parsed
      split at made
      · rename_i rootless
        cases rooted.symm.trans rootless
      · cases made

-- What the path of a base URL says, as far as the configuration lies below it.
def front (base : Url) : List (List UInt8) :=
  match base.path with
  | .rooted segments _ => Url.readPath (Url.segmentsText (Url.stem segments))
  | .rootless _ => []

theorem front_eq (e : Endpoint) :
    front e.base = Url.readPath (Url.segmentsText (Url.stem e.segments)) := by
  rw [front, e.rooted]

-- The URL of whatever is to be changed says what it is and in which mode, and nothing else that its
-- base does not say.
theorem request_decodes (settings : Settings) (op : Operation) (staged : Bool) (mutation : Mutation)
    (mode : ApplyMode) (accepted : settings.errors = []) (prepared : op.prepare staged = .ok mutation)
    (names : ∀ name ∈ mutation.target.placed, Url.Placeable name) :
    ∃ e url base, ofConnection settings.connection = .ok e ∧
      e.requestUrl (mutation.request mode) = .ok url ∧
      Url.parse settings.connection.baseUrl = .ok base ∧
      Url.readPath url.path.text =
        front base ++ (configurationPath ++ (op.above ++ op.kind.path :: op.leaf)).map Url.bytes ∧
      Url.readQuery (url.query.getD []) = Url.readQuery (base.query.getD []) ++
        (op.scopePairs ++ [Request.modePair mode]).map Url.pairBytes := by
  obtain ⟨e, made, web⟩ := of_accepted accepted
  obtain ⟨-, -, landing, -, verb, kind⟩ := Operation.prepare_ok prepared
  have route := Request.route_eq landing verb kind mode
  have pairs := Request.pairs_eq landing kind mode
  obtain ⟨first, more, all⟩ : ∃ first more, op.scopePairs ++ [Request.modePair mode] =
      first :: more := List.exists_cons_of_ne_nil (by simp)
  rw [all] at pairs ⊢
  refine ⟨e, _, e.base, made, requestUrl_eq web names pairs, base_of_connection made, ?_, ?_⟩
  · rw [front_eq, root_eq, route, Url.Path.text, List.append_assoc, ← List.map_append,
      Url.readPath_segments]
  · rw [Option.getD_some, Url.readQuery_opened, Url.readQuery_pairs, Url.readQuery_pairText]
    rfl

-- Settings whose address has a path and a query of its own.
def nested : Settings := { connection := { baseUrl := "http://host/a%2Fb/?k=v+w" } }

def dismissal : Operation := ⟨.delete, .user, .contained "x&y=z" "a/b c%?#", none⟩

def dismissed : Mutation := ⟨.delete, .user, .contained ⟨.userlist, "x&y=z"⟩ "a/b c%?#", none⟩

theorem marked_names_decode :
    nested.errors = [] ∧ dismissal.prepare true = .ok dismissed ∧
      (∀ name ∈ dismissed.target.placed, Url.Placeable name) ∧
      ∃ e url, ofConnection nested.connection = .ok e ∧
        e.requestUrl (dismissed.request (.staged change)) = .ok url ∧
        Url.readPath url.path.text =
          ["", "a/b", "services", "haproxy", "configuration", "users", "a/b c%?#"].map Url.bytes ∧
        Url.readQuery (url.query.getD []) =
          [("k", "v w"), ("userlist", "x&y=z"), ("transaction_id", "tx")].map Url.pairBytes := by
  have accepted : nested.errors = [] := by decide +kernel
  have prepared : dismissal.prepare true = .ok dismissed := rfl
  have names : ∀ name ∈ dismissed.target.placed, Url.Placeable name := by decide
  obtain ⟨e, url, base, made, asked, parsed, path, query⟩ :=
    request_decodes nested dismissal true dismissed (.staged change) accepted prepared names
  have read : Url.parse nested.connection.baseUrl = .ok ⟨"http", some ⟨none, .name "host", none⟩,
    .rooted ["a%2Fb".toList, []] false, some "k=v+w".toList, none⟩ := by decide +kernel
  cases parsed.symm.trans read
  refine ⟨accepted, prepared, names, e, url, made, asked, path.trans ?_, query.trans ?_⟩
  · decide +kernel
  · decide +kernel

end Endpoint
end Reconcile
