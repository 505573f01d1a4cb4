import Reconcile.Proofs.Schedule.Arrangement

namespace Reconcile

namespace Section

-- Of all that others refer to or lie in, access control entries alone have positions.
theorem acl_of_referenced :
    ∀ pair ∈ dependencies, pair.1.shape = .indexedChild → pair.1 = .acl := by decide +kernel

end Section

namespace Operation

-- A delete on a positional list that its batch also creates into or changes. It is carried out
-- right before that.
def MovedUp (ops : List Operation) (op : Operation) : Prop :=
  op.verb = .delete ∧ ∃ list, op.positional? = some list ∧
    ∃ other ∈ ops, other.verb ≠ .delete ∧ other.positional? = some list

variable {ops : List Operation} {op other : Operation} {list : PositionalList}

theorem trails_eq_false (deleted : op.verb = .delete) : op.trails ops = false ↔ op.MovedUp ops := by
  cases place : op.positional? with
  | none => simp [trails, Schedule.touched, MovedUp, deleted, place]
  | some list =>
    simp only [trails, Schedule.touched, MovedUp, deleted, place, List.any_filter]
    simp

theorem rank_of_positional (one : op.positional? = some list)
    (two : other.positional? = some list) : op.tier.rank = other.tier.rank := by
  rw [tier, tier, (positional?_eq_some.mp one).1, (positional?_eq_some.mp two).1]

-- A delete that is moved up has the kind of a list.
theorem MovedUp.shape (moved : op.MovedUp ops) (fits : op.Fits) :
    op.kind.shape = .indexedChild := by
  obtain ⟨-, list, place, -⟩ := moved
  obtain ⟨-, index, address⟩ := positional?_eq_some.mp place
  rw [← fits, address]
  rfl

end Operation

namespace Schedule

variable {deletes ops : List Operation}

-- What is put right before an operation has the tier of that operation, so that the tiers still
-- ascend.
theorem hoist_ascends (ascends : ops.Pairwise fun a b => a.tier.rank ≤ b.tier.rank)
    (placed : Placed deletes ops) :
    (hoist deletes ops).Pairwise fun a b => a.tier.rank ≤ b.tier.rank := by
  induction ops generalizing deletes with
  | nil => simp [hoist, placed.eq_nil]
  | cons op rest ih =>
    obtain ⟨least, others⟩ := List.pairwise_cons.mp ascends
    have onward : ∀ left : List Operation, Placed left rest →
        (op :: hoist left rest).Pairwise fun a b => a.tier.rank ≤ b.tier.rank := by
      intro left further
      refine List.pairwise_cons.mpr ⟨fun b mem => ?_, ih others further⟩
      rcases List.mem_append.mp ((hoist_perm left rest).subset mem) with moved | stays
      · obtain ⟨list, place, next, later, on⟩ := further b moved
        exact (least next later).trans_eq (Operation.rank_of_positional on place)
      · exact least b stays
    cases place : op.positional? with
    | none =>
      rw [hoist_none _ _ _ place]
      exact onward deletes (placed.skip place)
    | some list =>
      have now : ∀ d ∈ deletes.filter (·.worksOn list), d.tier.rank = op.tier.rank :=
        fun d mem => Operation.rank_of_positional
          (Operation.worksOn_iff.mp (List.mem_filter.mp mem).2) place
      have tail := onward (deletes.filter (!·.worksOn list)) (placed.later place)
      rw [hoist_some _ _ _ place]
      refine List.pairwise_append.mpr ⟨?_, tail, fun a one b two => ?_⟩
      · refine List.pairwise_of_forall_mem_list fun a one b two => ?_
        rw [now a one, now b two]
      · rw [now a one]
        rcases List.mem_cons.mp two with rfl | later
        · exact Nat.le_refl _
        · exact (List.pairwise_cons.mp tail).1 b later

-- Up to the deletes at its end, a batch is carried out from the most foundational tier upwards.
theorem leading_ascends (ops : List Operation) :
    (ofList ops).leading.Pairwise fun a b => a.tier.rank ≤ b.tier.rank :=
  hoist_ascends ((pairwise_ascending _).imp rank_le_of_orderKey) (placed_touched _ _)

theorem untrailing_ascends (ops : List Operation) : (ofList ops).ordered.Pairwise fun a b =>
    b.trails ops = false → a.tier.rank ≤ b.tier.rank := by
  rw [ordered_eq, List.pairwise_append]
  have last : ∀ op ∈ (ofList ops).deletes.filter (·.trails ops), op.trails ops = true :=
    fun op mem => (List.mem_filter.mp mem).2
  refine ⟨?_, ?_, fun a _ b mem stays => ?_⟩
  · refine (leading_ascends ops).imp ?_
    intro a b le _
    exact le
  · refine List.pairwise_of_forall_mem_list fun a _ b mem stays => ?_
    cases (last b mem).symm.trans stays
  · cases (last b mem).symm.trans stays

-- Of two deletes the one of the lower tier comes first just if it is moved up.
theorem deletes_by_tier (ops : List Operation) : (ofList ops).ordered.Pairwise fun a b =>
    a.verb = .delete → b.verb = .delete →
      (a.tier.rank < b.tier.rank → a.MovedUp ops) ∧
      (b.tier.rank < a.tier.rank → ¬b.MovedUp ops) := by
  refine ((untrailing_ascends ops).and ((ordered_trailing ops).and (ordered_descends ops))).imp ?_
  rintro a b ⟨ascends, trailing, descends⟩ first second
  refine ⟨fun below => ?_, fun below moved => ?_⟩
  · rw [← Operation.trails_eq_false first, ← Bool.not_eq_true]
    intro last
    exact absurd (rank_le_of_orderKey (descends last (trailing last))) (Nat.not_le_of_lt below)
  · exact absurd (ascends ((Operation.trails_eq_false second).mpr moved)) (Nat.not_le_of_lt below)

-- What is referred to is deleted after what refers to it, unless it is an access control entry
-- that makes room for others on its list. Then it is deleted before.
theorem references_kept (ops : List Operation) (fits : ∀ op ∈ ops, op.Fits)
    (pair : Section × Section) (listed : pair ∈ Section.dependencies)
    (above : pair.1.tier.rank < pair.2.tier.rank) :
    (ofList ops).ordered.Pairwise fun a b => a.verb = .delete → b.verb = .delete →
      (a.kind = pair.1 → b.kind = pair.2 → pair.1 = .acl ∧ a.MovedUp ops) ∧
      (a.kind = pair.2 → b.kind = pair.1 → ¬b.MovedUp ops) := by
  refine (deletes_by_tier ops).imp_of_mem fun {a b} mem _ tiers first second => ?_
  obtain ⟨early, late⟩ := tiers first second
  refine ⟨fun referred referring => ?_, fun referring referred => late ?_⟩
  · have moved : a.MovedUp ops :=
      early (by rwa [Operation.tier, Operation.tier, referred, referring])
    have shape := moved.shape (fits a ((ordered_perm ops).subset mem))
    rw [referred] at shape
    exact ⟨Section.acl_of_referenced pair listed shape, moved⟩
  · rwa [Operation.tier, Operation.tier, referred, referring]

-- Replaces an access control entry and deletes a rule that may refer to it.
def replacedAcl : List Operation :=
  [⟨.delete, .httpRequestRule, .indexed ⟨.frontend, "web"⟩ 0, none⟩,
    ⟨.delete, .acl, .indexed ⟨.frontend, "web"⟩ 0, none⟩,
    ⟨.create, .acl, .indexed ⟨.frontend, "web"⟩ 0, some ⟨none, .ok []⟩⟩]

theorem replacedAcl_fits : ∀ op ∈ replacedAcl, op.Fits := by
  simp [replacedAcl, Operation.Fits, Address.shape, Section.shape, Section.traits, Traits.indexed]

theorem replacedAcl_ordered : (ofList replacedAcl).ordered.map (fun op => (op.verb, op.kind)) =
    [(.delete, .acl), (.create, .acl), (.delete, .httpRequestRule)] := by cbv

theorem replacedAcl_kept : (∀ op ∈ replacedAcl, op.Fits) ∧
    (.acl, .httpRequestRule) ∈ Section.dependencies ∧
    Section.acl.tier.rank < Section.httpRequestRule.tier.rank ∧
    (ofList replacedAcl).ordered.Pairwise fun a b => a.verb = .delete → b.verb = .delete →
      (a.kind = .acl → b.kind = .httpRequestRule → a.MovedUp replacedAcl) ∧
      (a.kind = .httpRequestRule → b.kind = .acl → ¬b.MovedUp replacedAcl) := by
  have listed : (.acl, .httpRequestRule) ∈ Section.dependencies := by decide +kernel
  have above : Section.acl.tier.rank < Section.httpRequestRule.tier.rank := by decide
  refine ⟨replacedAcl_fits, listed, above, ?_⟩
  refine (references_kept replacedAcl replacedAcl_fits _ listed above).imp ?_
  intro a b kept first second
  obtain ⟨early, late⟩ := kept first second
  exact ⟨fun entry rule => (early entry rule).2, late⟩

-- The entry goes before the rule that may refer to it.
theorem replacedAcl_removed_early : (∀ op ∈ replacedAcl, op.Fits) ∧
    (.acl, .httpRequestRule) ∈ Section.dependencies ∧
    Section.acl.tier.rank < Section.httpRequestRule.tier.rank ∧
    ¬(ofList replacedAcl).ordered.Pairwise fun a b => a.verb = .delete → b.verb = .delete →
      ¬(a.kind = .acl ∧ b.kind = .httpRequestRule) := by
  refine ⟨replacedAcl_fits, by decide +kernel, by decide, fun never => ?_⟩
  have mapped : ((ofList replacedAcl).ordered.map fun op => (op.verb, op.kind)).Pairwise
      fun a b => a.1 = .delete → b.1 = .delete → ¬(a.2 = .acl ∧ b.2 = .httpRequestRule) :=
    List.pairwise_map.mpr never
  rw [replacedAcl_ordered] at mapped
  simp at mapped

end Schedule
end Reconcile
