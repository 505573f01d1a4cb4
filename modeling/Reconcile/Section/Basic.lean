namespace Reconcile

-- How the remote API locates a resource.
inductive Shape where
  | singleton
  | topLevel
  | namedChild
  | indexedChild
  | scopedChild
deriving DecidableEq, Repr

def Shape.text : Shape → String
  | .singleton => "singleton"
  | .topLevel => "top-level"
  | .namedChild => "named child"
  | .indexedChild => "indexed child"
  | .scopedChild => "scoped child"

-- The kinds of configuration sections, in the order in which they are listed.
inductive Section where
  | global | defaults | frontend | backend | userlist | cache | logForwarder | mailers | peers
  | resolvers | ring | program | fcgiApp | httpErrors | crtStore | bind | server | serverTemplate
  | acl | httpRequestRule | httpResponseRule | httpAfterResponseRule | tcpRequestRule
  | tcpResponseRule | backendSwitchingRule | serverSwitchingRule | filter | stickRule | logTarget
  | capture | httpCheck | tcpCheck | httpErrorRule | user | group | mailerEntry | peerEntry
  | nameserver | dgramBind
deriving DecidableEq, Repr

-- Lower tiers are more foundational: created first, deleted last.
inductive Tier where
  | global | defaults | shared | sharedEntry | proxy | proxyChild | declaration | rule
deriving DecidableEq, Repr

def Tier.rank : Tier → Nat
  | .global => 10
  | .defaults => 15
  | .shared => 20
  | .sharedEntry => 25
  | .proxy => 30
  | .proxyChild => 40
  | .declaration => 50
  | .rule => 60

-- What is fixed for a kind of section. `runtime` says whether the API takes immediate changes,
-- `parents` which kinds it may live in, `scope` the query parameter that names its container.
structure Traits where
  name : String
  shape : Shape
  tier : Tier
  runtime : Bool
  path : String
  parents : List Section
  scope : Option String
deriving DecidableEq, Repr

namespace Traits

def top (name path : String) (tier : Tier) (runtime : Bool) : Traits :=
  ⟨name, .topLevel, tier, runtime, path, [], none⟩

def child (name path : String) (parents : List Section) (runtime : Bool) : Traits :=
  ⟨name, .namedChild, .proxyChild, runtime, path, parents, none⟩

-- Positions shift when entries come and go, so these kinds are never changed at runtime.
def indexed (name path : String) (parents : List Section) (tier : Tier) : Traits :=
  ⟨name, .indexedChild, tier, false, path, parents, none⟩

def inContainer (name path : String) (container : Section) (scope : String) : Traits :=
  ⟨name, .scopedChild, .sharedEntry, true, path, [container], some scope⟩

end Traits

namespace Section

def all : List Section :=
  [.global, .defaults, .frontend, .backend, .userlist, .cache, .logForwarder, .mailers, .peers,
    .resolvers, .ring, .program, .fcgiApp, .httpErrors, .crtStore, .bind, .server, .serverTemplate,
    .acl, .httpRequestRule, .httpResponseRule, .httpAfterResponseRule, .tcpRequestRule,
    .tcpResponseRule, .backendSwitchingRule, .serverSwitchingRule, .filter, .stickRule, .logTarget,
    .capture, .httpCheck, .tcpCheck, .httpErrorRule, .user, .group, .mailerEntry, .peerEntry,
    .nameserver, .dgramBind]

def proxies : List Section := [.frontend, .backend]

def proxiesAndDefaults : List Section := [.frontend, .backend, .defaults]

def backendAndDefaults : List Section := [.backend, .defaults]

def loggers : List Section := [.frontend, .backend, .defaults, .peers, .logForwarder]

def traits : Section → Traits
  | .global => ⟨"global", .singleton, .global, true, "global", [], none⟩
  | .defaults => .top "defaults" "defaults" .defaults false
  | .frontend => .top "frontend" "frontends" .proxy false
  | .backend => .top "backend" "backends" .proxy false
  | .userlist => .top "userlist" "userlists" .shared false
  | .cache => .top "cache" "caches" .shared true
  | .logForwarder => .top "log-forward" "log_forwards" .shared false
  | .mailers => .top "mailers" "mailers_section" .shared false
  | .peers => .top "peers" "peer_section" .shared false
  | .resolvers => .top "resolvers" "resolvers" .shared false
  | .ring => .top "ring" "rings" .shared true
  | .program => .top "program" "programs" .shared true
  | .fcgiApp => .top "fcgi-app" "fcgi_apps" .shared true
  | .httpErrors => .top "http-errors" "http_errors_sections" .shared true
  | .crtStore => .top "crt-store" "crt_stores" .shared false
  | .bind => .child "bind" "binds" [.frontend] true
  | .server => .child "server" "servers" [.backend] true
  | .serverTemplate => .child "server-template" "server_templates" [.backend] false
  | .acl => .indexed "acl" "acls" proxiesAndDefaults .declaration
  | .httpRequestRule => .indexed "http-request" "http_request_rules" proxiesAndDefaults .rule
  | .httpResponseRule => .indexed "http-response" "http_response_rules" proxiesAndDefaults .rule
  | .httpAfterResponseRule =>
    .indexed "http-after-response" "http_after_response_rules" proxiesAndDefaults .rule
  | .tcpRequestRule => .indexed "tcp-request" "tcp_request_rules" proxiesAndDefaults .rule
  | .tcpResponseRule => .indexed "tcp-response" "tcp_response_rules" backendAndDefaults .rule
  | .backendSwitchingRule => .indexed "use_backend" "backend_switching_rules" [.frontend] .rule
  | .serverSwitchingRule => .indexed "use-server" "server_switching_rules" [.backend] .rule
  | .filter => .indexed "filter" "filters" proxies .declaration
  | .stickRule => .indexed "stick" "stick_rules" [.backend] .rule
  | .logTarget => .indexed "log" "log_targets" loggers .declaration
  | .capture => .indexed "declare capture" "captures" [.frontend] .declaration
  | .httpCheck => .indexed "http-check" "http_checks" backendAndDefaults .declaration
  | .tcpCheck => .indexed "tcp-check" "tcp_checks" backendAndDefaults .declaration
  | .httpErrorRule => .indexed "http-error" "http_error_rules" proxiesAndDefaults .rule
  | .user => .inContainer "user" "users" .userlist "userlist"
  | .group => .inContainer "group" "groups" .userlist "userlist"
  | .mailerEntry => .inContainer "mailer" "mailer_entries" .mailers "mailers_section"
  | .peerEntry => .inContainer "peer" "peer_entries" .peers "peer_section"
  | .nameserver => .inContainer "nameserver" "nameservers" .resolvers "resolver"
  | .dgramBind => .inContainer "dgram-bind" "dgram_binds" .logForwarder "log_forwarder"

-- The word for a kind in plan files.
def key : Section → String
  | .global => "global"
  | .defaults => "defaults"
  | .frontend => "frontend"
  | .backend => "backend"
  | .userlist => "userlist"
  | .cache => "cache"
  | .logForwarder => "log_forwarder"
  | .mailers => "mailers"
  | .peers => "peers"
  | .resolvers => "resolvers"
  | .ring => "ring"
  | .program => "program"
  | .fcgiApp => "fcgi_app"
  | .httpErrors => "http_errors"
  | .crtStore => "crt_store"
  | .bind => "bind"
  | .server => "server"
  | .serverTemplate => "server_template"
  | .acl => "acl"
  | .httpRequestRule => "http_request_rule"
  | .httpResponseRule => "http_response_rule"
  | .httpAfterResponseRule => "http_after_response_rule"
  | .tcpRequestRule => "tcp_request_rule"
  | .tcpResponseRule => "tcp_response_rule"
  | .backendSwitchingRule => "backend_switching_rule"
  | .serverSwitchingRule => "server_switching_rule"
  | .filter => "filter"
  | .stickRule => "stick_rule"
  | .logTarget => "log_target"
  | .capture => "capture"
  | .httpCheck => "http_check"
  | .tcpCheck => "tcp_check"
  | .httpErrorRule => "http_error_rule"
  | .user => "user"
  | .group => "group"
  | .mailerEntry => "mailer_entry"
  | .peerEntry => "peer_entry"
  | .nameserver => "nameserver"
  | .dgramBind => "dgram_bind"

def ofKey? (text : String) : Option Section := all.find? (·.key == text)

def name (s : Section) : String := s.traits.name

def shape (s : Section) : Shape := s.traits.shape

def tier (s : Section) : Tier := s.traits.tier

def runtime (s : Section) : Bool := s.traits.runtime

def path (s : Section) : String := s.traits.path

def parents (s : Section) : List Section := s.traits.parents

def scope (s : Section) : Option String := s.traits.scope

def transactionOnly (s : Section) : Bool := !s.runtime

def acceptsParent (s parent : Section) : Bool := parent ∈ s.parents

theorem mem_all (s : Section) : s ∈ all := by cases s <;> decide

theorem ofKey?_key (s : Section) : ofKey? s.key = some s := by
  have listed : ∀ s ∈ all, ofKey? s.key = some s := by decide +kernel
  exact listed s (mem_all s)

theorem runtime_of_indexed (s : Section) (h : s.shape = .indexedChild) : s.runtime = false := by
  have listed : ∀ s ∈ all, s.shape = .indexedChild → s.runtime = false := by decide +kernel
  exact listed s (mem_all s) h

end Section
end Reconcile
