import Reconcile.Section.Basic

namespace Reconcile.Section

-- What refers to what besides lying inside it: the section named first is referred to.
def references : List (Section × Section) :=
  [(.defaults, .frontend), (.defaults, .backend), (.backend, .frontend),
    (.backend, .backendSwitchingRule), (.backend, .stickRule), (.server, .serverSwitchingRule),
    (.userlist, .httpRequestRule), (.cache, .filter), (.cache, .httpRequestRule),
    (.cache, .httpResponseRule), (.fcgiApp, .backend), (.resolvers, .server),
    (.resolvers, .serverTemplate), (.peers, .backend), (.mailers, .backend), (.ring, .logTarget),
    (.httpErrors, .frontend), (.httpErrors, .backend), (.httpErrors, .httpErrorRule),
    (.crtStore, .bind), (.crtStore, .server), (.acl, .httpRequestRule), (.acl, .httpResponseRule),
    (.acl, .httpAfterResponseRule), (.acl, .tcpRequestRule), (.acl, .tcpResponseRule),
    (.acl, .backendSwitchingRule), (.acl, .serverSwitchingRule), (.acl, .stickRule),
    (.acl, .httpErrorRule), (.user, .group), (.group, .user)]

-- Each kind after the kinds it may lie in.
def containment : List (Section × Section) :=
  all.flatMap fun child => child.parents.map fun parent => (parent, child)

def dependencies : List (Section × Section) := containment ++ references

-- Whether one of two kinds contains or refers to the other.
def related (a b : Section) : Bool := (a, b) ∈ dependencies || (b, a) ∈ dependencies

theorem tier_le_of_dependency :
    ∀ pair ∈ dependencies, pair.1.tier.rank ≤ pair.2.tier.rank := by decide +kernel

theorem tier_lt_of_containment :
    ∀ pair ∈ containment, pair.1.tier.rank < pair.2.tier.rank := by decide +kernel

-- No kind that others lie in is addressed by a position.
theorem shape_of_containment :
    ∀ pair ∈ containment, pair.1.shape ≠ .indexedChild := by decide +kernel

end Reconcile.Section
