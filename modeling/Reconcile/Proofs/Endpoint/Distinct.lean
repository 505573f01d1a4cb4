import Mathlib.Tactic.Common
import Reconcile.Endpoint.Route
import Reconcile.Proofs.Submission.Prepare
import Reconcile.Proofs.Url.Building
import Reconcile.Settings.Validation

namespace Reconcile

namespace Section

theorem path_injective {s other : Section} (same : s.path = other.path) : s = other := by
  have listed : ∀ s ∈ all, ∀ other ∈ all, s.path = other.path → s = other := by decide +kernel
  exact listed s (mem_all s) other (mem_all other) same

theorem path_placeable (s : Section) : Url.Placeable s.path := by
  have listed : ∀ s ∈ all, Url.Placeable s.path := by decide +kernel
  exact listed s (mem_all s)

theorem scope_of_scopedChild {s : Section} (shape : s.shape = .scopedChild) :
    ∃ key, s.scope = some key := by
  have listed : ∀ s ∈ all, s.shape = .scopedChild → s.scope.isSome = true := by decide +kernel
  exact Option.isSome_iff_exists.mp (listed s (mem_all s) shape)

end Section

theorem decimal_injective {n m : Nat} (same : toString n = toString m) : n = m := by
  have digits := congrArg String.toList same
  simp only [Nat.toString_eq_ofList_toDigits, String.toList_ofList] at digits
  rw [← @Nat.ofDigitChars_ten_toDigits n, digits, Nat.ofDigitChars_ten_toDigits]

theorem Url.decimal_placeable (n : Nat) : Placeable (toString n) := by
  have digits : ∀ c ∈ (toString n).toList, c.isDigit = true := by
    intro c mem
    rw [Nat.toString_eq_ofList_toDigits, String.toList_ofList] at mem
    exact Nat.isDigit_of_mem_toDigits (by decide) (by decide) mem
  refine ⟨?_, ?_, ?_⟩
  · intro same
    rw [same] at digits
    exact absurd (digits '.' (by decide)) (by decide)
  · intro same
    rw [same] at digits
    exact absurd (digits '.' (by decide)) (by decide)
  · intro c mem
    have digit := digits c mem
    cases ignored : Url.isIgnored c with
    | false => rfl
    | true =>
      simp only [isIgnored, Bool.or_eq_true, decide_eq_true_eq] at ignored
      rcases ignored with (rfl | rfl) | rfl <;> exact absurd digit (by decide)

theorem Parent.told_apart {parent other : Parent} (path : parent.kind.path = other.kind.path)
    (name : parent.name = other.name) : parent = other := by
  obtain ⟨kind, parentName⟩ := parent
  obtain ⟨kind', parentName'⟩ := other
  cases Section.path_injective path
  cases name
  rfl

-- The names that stand in the path of a request. The name of a container stands in its query.
def Target.placed : Target → List String
  | .singleton => []
  | .named name | .contained _ name => [name]
  | .child parent name => [parent.name, name]
  | .indexed parent _ => [parent.name]

namespace Request

variable {r other : Request}

theorem mem_route (mem : text ∈ r.route) :
    (∃ s : Section, text = s.path) ∨ text ∈ r.target.placed ∨ ∃ n : Nat, text = toString n := by
  have given : ∀ name, text ∈ (if r.verb = .create then [] else [name]) → text = name := by
    intro name mem
    split at mem
    · cases mem
    · exact List.mem_singleton.mp mem
  obtain ⟨verb, kind, target, mode, body⟩ := r
  cases target with
  | singleton => exact .inl ⟨kind, List.mem_singleton.mp mem⟩
  | named name | contained container name =>
    rcases List.mem_cons.mp mem with path | last
    · exact .inl ⟨kind, path⟩
    · exact .inr (.inl (List.mem_singleton.mpr (given name last)))
  | child parent name =>
    rcases List.mem_cons.mp mem with path | mem
    · exact .inl ⟨parent.kind, path⟩
    · rcases List.mem_cons.mp mem with inside | mem
      · exact .inr (.inl (inside ▸ List.mem_cons_self ..))
      · rcases List.mem_cons.mp mem with path | last
        · exact .inl ⟨kind, path⟩
        · exact .inr (.inl (given name last ▸ List.mem_cons_of_mem _ (List.mem_cons_self ..)))
  | indexed parent index =>
    simp only [route, List.mem_cons, List.not_mem_nil, or_false] at mem
    rcases mem with path | inside | path | last
    · exact .inl ⟨parent.kind, path⟩
    · exact .inr (.inl (inside ▸ List.mem_cons_self ..))
    · exact .inl ⟨kind, path⟩
    · exact .inr (.inr ⟨index, last⟩)

theorem route_placeable (names : ∀ name ∈ r.target.placed, Url.Placeable name) :
    ∀ text ∈ r.route, Url.Placeable text := by
  intro text mem
  rcases mem_route mem with ⟨s, rfl⟩ | name | ⟨n, rfl⟩
  · exact s.path_placeable
  · exact names text name
  · exact Url.decimal_placeable n

-- Where in a path its kind of section stands.
def kindPath : List String → String
  | [_, _, path, _] | [path, _] | [path] => path
  | _ => ""

theorem kindPath_route (named : r.verb ≠ .create) : kindPath r.route = r.kind.path := by
  obtain ⟨verb, kind, target, mode, body⟩ := r
  cases target <;> simp only [route, if_neg named, kindPath]

def modePair : ApplyMode → String × String
  | .staged id => ("transaction_id", id.text)
  | .runtime version => ("version", toString version)

theorem modePair_injective {mode other : ApplyMode} (same : modePair mode = modePair other) :
    mode = other := by
  have keys : "transaction_id" ≠ "version" := by decide
  obtain ⟨key, value⟩ := Prod.ext_iff.mp same
  cases mode with
  | staged id =>
    cases other with
    | staged id' =>
      obtain ⟨text, given⟩ := id
      obtain ⟨text', given'⟩ := id'
      cases value
      rfl
    | runtime version => exact absurd key keys
  | runtime version =>
    cases other with
    | staged id => exact absurd key.symm keys
    | runtime version' => rw [decimal_injective value]

theorem pairs_plain (r : Request) (plain : ∀ container name, r.target ≠ .contained container name) :
    r.pairs = .ok [modePair r.mode] := by
  unfold pairs
  dsimp only
  split
  · exact absurd ‹_› (plain _ _)
  · rfl

theorem pairs_contained {r : Request} (inside : r.target = .contained container name)
    (found : r.kind.scope = some key) : r.pairs = .ok [(key, container.name), modePair r.mode] := by
  simp only [pairs, inside, found]
  rfl

-- A request for a target that its section accepts has a query, and the mode stands in it.
theorem pairs_ok {address : Address} (landing : Landing r.kind address r.target) :
    ∃ first more, r.pairs = .ok (first :: more) := by
  obtain ⟨verb, kind, target, mode, body⟩ := r
  cases landing with
  | contained shape holder inside given =>
    obtain ⟨key, found⟩ := Section.scope_of_scopedChild shape
    exact ⟨_, _, pairs_contained rfl found⟩
  | _ => exact ⟨_, _, pairs_plain _ nofun⟩

-- A route and a query tell the request.
theorem told_apart {address address' : Address} (landing : Landing r.kind address r.target)
    (landing' : Landing other.kind address' other.target) (named : r.verb ≠ .create)
    (named' : other.verb ≠ .create) (route : r.route = other.route)
    (pairs : r.pairs = other.pairs) :
    r.kind = other.kind ∧ r.target = other.target ∧ r.mode = other.mode := by
  have kinds : r.kind = other.kind := by
    apply Section.path_injective
    rw [← kindPath_route named, ← kindPath_route named', route]
  obtain ⟨verb, kind, target, mode, body⟩ := r
  obtain ⟨verb', kind', target', mode', body'⟩ := other
  dsimp only at kinds landing landing' named named'
  subst kinds
  have modes (plain : ∀ container name, target ≠ .contained container name)
      (plain' : ∀ container name, target' ≠ .contained container name) : mode = mode' := by
    rw [pairs_plain _ plain, pairs_plain _ plain'] at pairs
    exact modePair_injective (List.cons.inj (Except.ok.inj pairs)).1
  simp only [Request.route, if_neg named, if_neg named'] at route
  refine ⟨rfl, ?_⟩
  cases landing with
  | singleton shape =>
    cases landing' with
    | singleton shape' => exact ⟨rfl, modes nofun nofun⟩
    | _ shape' => cases shape.symm.trans shape'
  | named shape given =>
    cases landing' with
    | named shape' given' =>
      cases route
      exact ⟨rfl, modes nofun nofun⟩
    | _ shape' => cases shape.symm.trans shape'
  | child shape accepted inside given =>
    cases landing' with
    | child shape' accepted' inside' given' =>
      simp only [List.cons.injEq, and_true] at route
      obtain ⟨path, name, -, rfl⟩ := route
      rw [Parent.told_apart path name]
      exact ⟨rfl, modes nofun nofun⟩
    | _ shape' => cases shape.symm.trans shape'
  | indexed shape accepted inside =>
    cases landing' with
    | indexed shape' accepted' inside' =>
      simp only [List.cons.injEq, and_true] at route
      obtain ⟨path, name, -, index⟩ := route
      rw [Parent.told_apart path name, decimal_injective index]
      exact ⟨rfl, modes nofun nofun⟩
    | _ shape' => cases shape.symm.trans shape'
  | contained shape holder inside given =>
    cases landing' with
    | contained shape' holder' inside' given' =>
      obtain ⟨key, found⟩ := Section.scope_of_scopedChild shape
      rw [pairs_contained rfl found, pairs_contained rfl found] at pairs
      simp only [Except.ok.injEq, List.cons.injEq, Prod.mk.injEq, and_true, true_and] at pairs
      obtain ⟨rfl, modes'⟩ := pairs
      cases route
      cases holder.symm.trans holder'
      exact ⟨rfl, modePair_injective modes'⟩
    | _ shape' => cases shape.symm.trans shape'

end Request

theorem Url.family_of_isWeb {url : Url} (web : Settings.isWeb url.scheme = true) :
    url.family = .web := by
  rw [Settings.isWeb, Bool.or_eq_true, decide_eq_true_eq, decide_eq_true_eq] at web
  rcases web with http | https
  · rw [family, http]
    rfl
  · rw [family, https]
    rfl

theorem Settings.web_of_accepted {settings : Settings} (accepted : settings.errors = []) :
    ∃ url, Url.parse settings.connection.baseUrl = .ok url ∧ url.family = .web := by
  simp only [errors, connectionErrors, List.append_eq_nil_iff] at accepted
  obtain ⟨⟨⟨⟨⟨parsed, -⟩, -⟩, -⟩, -⟩, -⟩ := accepted
  unfold baseUrlErrors at parsed
  split at parsed
  · rename_i url found
    refine ⟨url, found, Url.family_of_isWeb ?_⟩
    unfold complaint at parsed
    split at parsed
    · cases parsed
    · rename_i fits
      simpa using fits
  · cases parsed

-- What the segments of a path go on from: an empty one at its end, and that of the root, are left out.
def Url.stem (segments : List (List Char)) : List (List Char) :=
  if popEmpty segments = [[]] then [] else popEmpty segments

namespace Endpoint

variable {e : Endpoint}

theorem base_of_connection {c : Connection} (made : ofConnection c = .ok e) :
    Url.parse c.baseUrl = .ok e.base := by
  unfold ofConnection at made
  split at made
  · cases made
  · split at made
    · cases made
    · cases made
      assumption

-- The path of the configuration, which every route goes on from.
def root (e : Endpoint) : List (List Char) :=
  Url.extend .web (Url.popEmpty e.segments) configurationPath

theorem root_eq (e : Endpoint) :
    e.root = Url.stem e.segments ++ configurationPath.map Url.segment := by
  have services : Url.Placeable "services" := by decide
  have further : ∀ text ∈ ["haproxy", "configuration"], Url.Placeable text := by decide
  have filled : Url.segment "services" ≠ [] := by decide
  have placed : Url.segment "services" ∈ Url.stem e.segments ++ [Url.segment "services"] :=
    List.mem_append_right _ (List.mem_singleton_self _)
  rw [root, configurationPath, Url.extend, List.foldl_cons, ← Url.extend,
    Url.push_placeable services, ← Url.stem, Url.extend_placeable further ⟨_, placed, filled⟩,
    List.append_assoc]
  rfl

theorem root_filled (e : Endpoint) : ∃ above ∈ e.root, above ≠ [] := by
  have services : Url.segment "services" ∈ configurationPath.map Url.segment :=
    List.mem_cons_self ..
  rw [root_eq]
  exact ⟨_, List.mem_append_right _ services, by decide⟩

-- The URL of a request, as it was put together.
theorem requestUrl_of_route {r : Request} (web : e.base.family = .web)
    (route : ∀ text ∈ r.route, Url.Placeable text) (pairs : r.pairs = .ok (first :: more)) :
    e.requestUrl r = .ok { e.base with
      path := .rooted (e.root ++ r.route.map Url.segment) e.guarded
      query := some (Url.opened e.base.query ++
        (Url.pairText first ++ (more.map Url.pairText).flatMap ('&' :: ·))) } := by
  have path : Url.extend .web (Url.popEmpty e.segments) (configurationPath ++ r.route) =
      e.root ++ r.route.map Url.segment := by
    rw [Url.extend, List.foldl_append]
    exact Url.extend_placeable route e.root_filled
  rw [requestUrl, pairs]
  dsimp only
  rw [Url.withPairs_eq, url, web, path]

theorem requestUrl_eq {r : Request} (web : e.base.family = .web)
    (names : ∀ name ∈ r.target.placed, Url.Placeable name) (pairs : r.pairs = .ok (first :: more)) :
    e.requestUrl r = .ok { e.base with
      path := .rooted (e.root ++ r.route.map Url.segment) e.guarded
      query := some (Url.opened e.base.query ++
        (Url.pairText first ++ (more.map Url.pairText).flatMap ('&' :: ·))) } :=
  requestUrl_of_route web (Request.route_placeable names) pairs

-- Whatever an operation changes or deletes, its URL is that of no other target and of no other
-- mode, as long as the names in its path can be read back from it.
theorem distinct_urls (settings : Settings) (e : Endpoint) (first second : Operation)
    (staged staged' : Bool) (mutation mutation' : Mutation) (mode mode' : ApplyMode)
    (accepted : settings.errors = []) (made : ofConnection settings.connection = .ok e)
    (prepared : first.prepare staged = .ok mutation)
    (prepared' : second.prepare staged' = .ok mutation')
    (named : first.verb ≠ .create) (named' : second.verb ≠ .create)
    (names : ∀ name ∈ mutation.target.placed, Url.Placeable name)
    (names' : ∀ name ∈ mutation'.target.placed, Url.Placeable name) :
    ∃ url url', e.requestUrl (mutation.request mode) = .ok url ∧
      e.requestUrl (mutation'.request mode') = .ok url' ∧
      (url.text = url'.text →
        first.kind = second.kind ∧ mutation.target = mutation'.target ∧ mode = mode') := by
  obtain ⟨base, parsed, web⟩ := Settings.web_of_accepted accepted
  cases parsed.symm.trans (base_of_connection made)
  obtain ⟨-, -, landing, -, verb, kind⟩ := Operation.prepare_ok prepared
  obtain ⟨-, -, landing', -, verb', kind'⟩ := Operation.prepare_ok prepared'
  rw [← kind] at landing ⊢
  rw [← kind'] at landing' ⊢
  rw [← verb] at named
  rw [← verb'] at named'
  obtain ⟨pair, more, pairs⟩ := Request.pairs_ok (r := mutation.request mode) landing
  obtain ⟨pair', more', pairs'⟩ := Request.pairs_ok (r := mutation'.request mode') landing'
  refine ⟨_, _, requestUrl_eq web names pairs, requestUrl_eq web names' pairs', fun same => ?_⟩
  obtain ⟨route, query⟩ := Url.text_unique same
  have all : pair :: more = pair' :: more' := Url.pairs_unique (congrArg ('&' :: ·) query)
  rw [all, ← pairs'] at pairs
  exact Request.told_apart landing landing' named named' route pairs

-- The endpoint of the settings that nobody has changed.
def usual : Endpoint :=
  ⟨⟨"http", some ⟨none, .v4 2130706433, some 5555⟩, .rooted [['v', '3']] false, none, none⟩,
    [['v', '3']], false, some "admin", none, 10, 5, rfl⟩

theorem usual_accepted : Settings.errors {} = [] := by decide +kernel

theorem usual_made : ofConnection {} = .ok usual := by
  have parsed : Url.parse ({} : Connection).baseUrl = .ok usual.base := by decide +kernel
  unfold ofConnection
  split
  · rename_i failed
    cases failed.symm.trans parsed
  · rename_i base found
    cases found.symm.trans parsed
    rfl

def removal (name : String) : Operation :=
  ⟨.delete, .server, .child ⟨.backend, "api"⟩ name, none⟩

def removed (name : String) : Mutation := ⟨.delete, .server, .child ⟨.backend, "api"⟩ name, none⟩

def change : TransactionId := ⟨"tx", by decide⟩

theorem slashed_names_distinct :
    ∃ url url', usual.requestUrl ((removed "a/b").request (.staged change)) = .ok url ∧
      usual.requestUrl ((removed "a%2Fb").request (.staged change)) = .ok url' ∧
      url.text ≠ url'.text := by
  obtain ⟨url, url', one, other, apart⟩ := distinct_urls {} usual (removal "a/b") (removal "a%2Fb")
    true true (removed "a/b") (removed "a%2Fb") (.staged change) (.staged change) usual_accepted
    usual_made rfl rfl nofun nofun (by decide) (by decide)
  refine ⟨url, url', one, other, fun same => ?_⟩
  exact absurd (apart same).2.1 (by decide)

-- Names that cannot be read back are confused: the reader of a segment passes over tabulators.
theorem tabbed_name_confused :
    Settings.errors {} = [] ∧ ofConnection {} = .ok usual ∧
      (removal "a\tb").prepare true = .ok (removed "a\tb") ∧
      (removal "ab").prepare true = .ok (removed "ab") ∧
      (∃ url, usual.requestUrl ((removed "a\tb").request (.staged change)) = .ok url ∧
        usual.requestUrl ((removed "ab").request (.staged change)) = .ok url) ∧
      (removed "a\tb").target ≠ (removed "ab").target :=
  ⟨usual_accepted, usual_made, rfl, rfl, ⟨_, rfl, by decide +kernel⟩, by decide⟩

end Endpoint
end Reconcile
