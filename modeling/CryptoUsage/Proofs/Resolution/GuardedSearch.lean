import CryptoUsage.Proofs.Resolution.Flow
import Mathlib.Data.Finset.Card

/-!
# Searches behind a guard

Looking for the values of an expression and planning what to wait for have one thing in common: a
call at a node asks for what is found at other nodes, one after the other, where what it asks next
may depend on what it was told.  A `Search` is that part of a call and nothing else.

Between the calls stands the guard (`Search.call`): a call that comes too deep or to a marked node
returns at once; any other one marks its node, does its part, and unmarks the node.  Nothing in this
says that the calls ever end, that a node is marked by one call at a time, or that the marks are in
the end what they were.  All of it holds for every search that stays within finitely many nodes,
however large the depth limit (`Search.call_eq`, `Search.of_entered`).

The guard keeps a log of all calls, so that it can be said which ones were made.  Fewer steps make
no difference if no call comes too deep, and marks make none on nodes that no call comes to
(`Search.found_add`, `Search.found_union`) or at which nothing would be found anyway
(`Search.found_union_from`).
-/

set_option autoImplicit false

namespace CryptoUsage

/-- A computation that asks, on the way to its result, for what is found for some queries. -/
inductive Search (ρ α : Type) where
  | done (result : α)
  | ask (q : Query) (next : List ρ → Search ρ α)

namespace Search

variable {ρ α β : Type}

/-! ## Asking -/

/-- Go on with the result of a search. -/
def bind : Search ρ α → (α → Search ρ β) → Search ρ β
  | done a, f => f a
  | ask q next, f => ask q fun found => (next found).bind f

instance : Monad (Search ρ) where
  pure := done
  bind := bind

/-- Ask for one query. -/
def one (q : Query) : Search ρ (List ρ) := ask q done

/-- Ask for several queries, in order. -/
def all : List Query → Search ρ (List ρ)
  | [] => pure []
  | q :: queries => do
    let first ← one q
    let rest ← all queries
    return first ++ rest

/-- The result of a search that is told the answers of `onward`. -/
def result (onward : Query → List ρ) : Search ρ α → α
  | done a => a
  | ask q next => (next (onward q)).result onward

/-- What a search asks that is told the answers of `onward`, in order. -/
def asked (onward : Query → List ρ) : Search ρ α → List Query
  | done _ => []
  | ask q next => q :: (next (onward q)).asked onward

/-- Whatever a search is told, all its queries have the property. -/
def Asks (P : Query → Prop) : Search ρ α → Prop
  | done _ => True
  | ask q next => P q ∧ ∀ found, (next found).Asks P

/-- The search as a part of a larger computation, which answers the queries. -/
def run {m : Type → Type} [Monad m] (serve : Query → m (List ρ)) : Search ρ α → m α
  | done a => pure a
  | ask q next => do (next (← serve q)).run serve

section Laws

variable {onward onward' : Query → List ρ} {P : Query → Prop}

@[simp] theorem result_pure (a : α) : (pure a : Search ρ α).result onward = a := rfl

@[simp] theorem result_bind (s : Search ρ α) (f : α → Search ρ β) :
    (s >>= f).result onward = (f (s.result onward)).result onward := by
  induction s with
  | done a => rfl
  | ask q next ih => exact ih (onward q)

@[simp] theorem result_one (q : Query) : (one q).result onward = onward q := rfl

@[simp] theorem result_all (queries : List Query) :
    (all queries).result onward = queries.flatMap onward := by
  induction queries with
  | nil => rfl
  | cons q queries ih =>
    rw [all, result_bind, result_bind, ih]
    rfl

@[simp] theorem asked_bind (s : Search ρ α) (f : α → Search ρ β) :
    (s >>= f).asked onward = s.asked onward ++ (f (s.result onward)).asked onward := by
  induction s with
  | done a => rfl
  | ask q next ih => exact congrArg (q :: ·) (ih (onward q))

@[simp] theorem asked_all (queries : List Query) :
    (all queries : Search ρ (List ρ)).asked onward = queries := by
  induction queries with
  | nil => rfl
  | cons q queries ih =>
    rw [all, asked_bind, asked_bind, ih]
    exact congrArg (q :: ·) (List.append_nil queries)

theorem asks_pure (a : α) : (pure a : Search ρ α).Asks P := trivial

theorem asks_true (s : Search ρ α) : s.Asks fun _ => True := by
  induction s with
  | done a => trivial
  | ask q next ih => exact ⟨trivial, ih⟩

theorem Asks.mono {P' : Query → Prop} {s : Search ρ α} (hs : s.Asks P) (h : ∀ q, P q → P' q) :
    s.Asks P' := by
  induction s with
  | done a => trivial
  | ask q next ih => exact ⟨h q hs.1, fun found => ih found (hs.2 found)⟩

theorem Asks.bind {s : Search ρ α} {f : α → Search ρ β} (hs : s.Asks P) (hf : ∀ a, (f a).Asks P) :
    (s >>= f).Asks P := by
  induction s with
  | done a => exact hf a
  | ask q next ih => exact ⟨hs.1, fun found => ih found (hs.2 found)⟩

theorem asks_one {q : Query} (h : P q) : (one q : Search ρ (List ρ)).Asks P :=
  ⟨h, fun found => asks_pure found⟩

theorem asks_all {queries : List Query} (h : ∀ q ∈ queries, P q) :
    (all queries : Search ρ (List ρ)).Asks P := by
  induction queries with
  | nil => exact asks_pure []
  | cons q queries ih =>
    obtain ⟨hq, hqueries⟩ := List.forall_mem_cons.mp h
    exact (asks_one hq).bind fun _ => (ih hqueries).bind fun _ => asks_pure _

theorem Asks.of_mem_asked {s : Search ρ α} (h : s.Asks P) {q : Query} (hq : q ∈ s.asked onward) :
    P q := by
  induction s with
  | done a => cases hq
  | ask q' next ih =>
    rcases List.mem_cons.mp hq with rfl | hq
    · exact h.1
    · exact ih _ (h.2 _) hq

/-- The result depends only on the answers to what is asked. -/
theorem result_congr {s : Search ρ α} (h : ∀ q ∈ s.asked onward, onward' q = onward q) :
    s.result onward' = s.result onward := by
  induction s with
  | done a => rfl
  | ask q next ih =>
    obtain ⟨hq, hrest⟩ := List.forall_mem_cons.mp h
    rw [result, result, hq]
    exact ih _ hrest

end Laws

/-! ## The guard -/

/-- What becomes of a call. -/
inductive Outcome where
  /-- It is past the guard. -/
  | entered
  /-- Its node is marked. -/
  | repeated
  /-- It comes too deep. -/
  | tooDeep
deriving DecidableEq, Repr

/-- A call at a node, and the nodes of the calls from within which it is made, innermost first. -/
structure Visit where
  node : NodeId
  above : List NodeId
  outcome : Outcome
deriving DecidableEq, Repr

/-- The marked nodes, and the calls that were made. -/
structure Guard where
  marked : Finset NodeId
  log : List Visit

namespace Guard

/-- The guard after one more call. -/
def record (g : Guard) (v : Visit) : Guard := { g with log := g.log ++ [v] }

/-- The guard with a node marked. -/
def mark (g : Guard) (n : NodeId) : Guard := { g with marked := insert n g.marked }

/-- The guard with a node not marked. -/
def unmark (g : Guard) (n : NodeId) : Guard := { g with marked := g.marked.erase n }

end Guard

/-- A computation behind the guard, which may run out of fuel. -/
abbrev Guarded (α : Type) := StateT Guard Option α

variable (body : Query → Search ρ (List ρ)) (limit : Nat)

/-- A call at the given depth from within the calls at the nodes `above`.  The fuel is no part of
the guard: without it nothing would be left of a call that does not end. -/
def call : (fuel depth : Nat) → (above : List NodeId) → Query → Guarded (List ρ)
  | 0, _, _, _ => failure
  | fuel + 1, depth, above, q => do
    if limit < depth then
      modify fun g => g.record ⟨q.node, above, .tooDeep⟩
      return []
    else if q.node ∈ (← get).marked then
      modify fun g => g.record ⟨q.node, above, .repeated⟩
      return []
    else
      modify fun g => (g.record ⟨q.node, above, .entered⟩).mark q.node
      let found ← (body q).run (call fuel (depth + 1) (q.node :: above))
      modify fun g => g.unmark q.node
      return found

/-! ## The same without a state -/

/-- What is found for a query within the given number of steps, marked nodes not entered. -/
def found : (steps : Nat) → (marked : Finset NodeId) → Query → List ρ
  | 0, _, _ => []
  | steps + 1, marked, q =>
    if q.node ∈ marked then [] else (body q).result (found steps (insert q.node marked))

/-- The calls that are made for a query within the given number of steps. -/
def visits : (steps : Nat) → (marked : Finset NodeId) → (above : List NodeId) → Query → List Visit
  | 0, _, above, q => [⟨q.node, above, .tooDeep⟩]
  | steps + 1, marked, above, q =>
    if q.node ∈ marked then [⟨q.node, above, .repeated⟩]
    else
      let marked := insert q.node marked
      ⟨q.node, above, .entered⟩ ::
        ((body q).asked (found body steps marked)).flatMap
          (visits steps marked (q.node :: above))

variable {body limit}

/-- A computation behind the guard returns a result, makes the given calls and leaves the marks as
they are. -/
def Returns (marked : Finset NodeId) (x : Guarded α) (a : α) (calls : List Visit) : Prop :=
  ∀ log, x.run ⟨marked, log⟩ = some (a, ⟨marked, log ++ calls⟩)

theorem returns_pure (marked : Finset NodeId) (a : α) : Returns marked (pure a) a [] :=
  fun log => by rw [List.append_nil]; rfl

theorem Returns.bind {marked : Finset NodeId} {x : Guarded α} {f : α → Guarded β} {a : α} {b : β}
    {calls calls' : List Visit} (hx : Returns marked x a calls)
    (hf : Returns marked (f a) b calls') : Returns marked (x >>= f) b (calls ++ calls') :=
  fun log => by
    rw [StateT.run_bind, hx log, ← List.append_assoc]
    exact hf _

theorem Returns.map {marked : Finset NodeId} {x : Guarded α} {a : α} {calls : List Visit}
    (hx : Returns marked x a calls) (f : α → β) : Returns marked (f <$> x) (f a) calls :=
  fun log => by rw [StateT.run_map, hx log]; rfl

/-- If every query of a search is answered behind the guard, so is the search. -/
theorem returns_run {marked : Finset NodeId} {serve : Query → Guarded (List ρ)}
    {onward : Query → List ρ} {calls : Query → List Visit} {P : Query → Prop} {s : Search ρ α}
    (h : ∀ q, P q → Returns marked (serve q) (onward q) (calls q)) (hs : s.Asks P) :
    Returns marked (s.run serve) (s.result onward) ((s.asked onward).flatMap calls) := by
  induction s with
  | done a => exact returns_pure marked a
  | ask q next ih => exact (h q hs.1).bind (ih _ (hs.2 _))

section Nodes

variable {P : Query → Prop} {nodes : Finset NodeId}

/-- **A call returns, and the marks are what they were.**  A search that stays within finitely many
nodes needs no more fuel than there are nodes left to be marked, whatever the depth limit. -/
theorem call_eq (hbody : ∀ q, P q → (body q).Asks P) (hnodes : ∀ q, P q → q.node ∈ nodes)
    {fuel : Nat} (depth : Nat) {marked : Finset NodeId} (hfuel : (nodes \ marked).card < fuel)
    (above : List NodeId) {q : Query} (hq : P q) :
    Returns marked (call body limit fuel depth above q) (found body (limit + 1 - depth) marked q)
      (visits body (limit + 1 - depth) marked above q) := by
  induction fuel generalizing depth marked above q with
  | zero => exact absurd hfuel (Nat.not_lt_zero _)
  | succ fuel ih =>
    intro log
    by_cases hdepth : limit < depth
    · have hsteps : limit + 1 - depth = 0 := Nat.sub_eq_zero_of_le hdepth
      rw [hsteps, call, if_pos hdepth]
      rfl
    · obtain ⟨steps, hsteps, hnext⟩ : ∃ steps, limit + 1 - depth = steps + 1 ∧
          limit + 1 - (depth + 1) = steps := ⟨limit - depth, by omega, by omega⟩
      rw [hsteps, found, visits, call, if_neg hdepth]
      simp only [StateT.run_bind, StateT.run_get, Option.pure_def, Option.bind_eq_bind,
        Option.bind_some]
      by_cases hmem : q.node ∈ marked
      · rw [if_pos hmem, if_pos hmem, if_pos hmem]
        rfl
      · rw [if_neg hmem, if_neg hmem, if_neg hmem]
        -- one node fewer is left
        have hleft : (nodes \ insert q.node marked).card < fuel := by
          rw [Finset.sdiff_insert]
          have hlt := Finset.card_erase_lt_of_mem
            (Finset.mem_sdiff.mpr ⟨hnodes q hq, hmem⟩)
          omega
        have hrun := returns_run
          (fun q' hq' => hnext ▸ ih (depth + 1) hleft (q.node :: above) hq') (hbody q hq)
        have hrestored : (insert q.node marked).erase q.node = marked :=
          Finset.erase_insert hmem
        simp only [StateT.run_bind, StateT.run_modify, Option.pure_def, Option.bind_eq_bind,
          Option.bind_some, Guard.mark, Guard.record, hrun _, StateT.run_pure, Guard.unmark,
          hrestored, List.append_assoc, List.cons_append, List.nil_append]

/-- **No node is marked twice along the way to a call.**  The nodes of the calls that are past the
guard at one time are different ones, so there are not more of them than nodes, nor more than the
depth limit allows. -/
theorem of_entered (hbody : ∀ q, P q → (body q).Asks P) (hnodes : ∀ q, P q → q.node ∈ nodes)
    {steps : Nat} {marked : Finset NodeId} {above : List NodeId} {q : Query} (hq : P q) {v : Visit}
    (hv : v ∈ visits body steps marked above q) (hentered : v.outcome = .entered) :
    ∃ within, v.node :: v.above = within ++ above ∧ within.Nodup ∧ within.length ≤ steps ∧
      ∀ n ∈ within, n ∈ nodes \ marked := by
  induction steps generalizing marked above q with
  | zero =>
    rw [visits, List.mem_singleton] at hv
    rw [hv] at hentered
    cases hentered
  | succ steps ih =>
    rw [visits] at hv
    split at hv
    · rw [List.mem_singleton] at hv
      rw [hv] at hentered
      cases hentered
    · next hmem =>
      have hnode := Finset.mem_sdiff.mpr ⟨hnodes q hq, hmem⟩
      rcases List.mem_cons.mp hv with rfl | hv
      · exact ⟨[q.node], rfl, List.nodup_singleton _, Nat.succ_le_succ (Nat.zero_le _),
          fun n hn => List.mem_singleton.mp hn ▸ hnode⟩
      · obtain ⟨q', hq', hv⟩ := List.mem_flatMap.mp hv
        obtain ⟨within, heq, hnodup, hlength, hwithin⟩ := ih ((hbody q hq).of_mem_asked hq') hv
        -- what is entered further in is not the node of this call, which is marked
        have hdisjoint : ∀ n ∈ within, n ≠ q.node ∧ n ∈ nodes \ marked := fun n hn => by
          obtain ⟨hn, hnew⟩ := Finset.mem_sdiff.mp (hwithin n hn)
          rw [Finset.mem_insert, not_or] at hnew
          exact ⟨hnew.1, Finset.mem_sdiff.mpr ⟨hn, hnew.2⟩⟩
        refine ⟨within ++ [q.node], by rw [heq, List.append_assoc]; rfl, ?_, ?_, ?_⟩
        · refine List.nodup_append.mpr ⟨hnodup, List.nodup_singleton _, fun n hn m hm => ?_⟩
          rw [List.mem_singleton.mp hm]
          exact (hdisjoint n hn).1
        · rw [List.length_append, List.length_singleton]
          exact Nat.succ_le_succ hlength
        · intro n hn
          rcases List.mem_append.mp hn with hn | hn
          · exact (hdisjoint n hn).2
          · exact List.mem_singleton.mp hn ▸ hnode

end Nodes

/-! ## What does not matter -/

section Unconcerned

variable {steps : Nat} {marked : Finset NodeId} {above : List NodeId} {q : Query}

/-- A call at a query is a visit of its node. -/
theorem exists_visit (body : Query → Search ρ (List ρ)) (steps : Nat) (marked : Finset NodeId)
    (above : List NodeId) (q : Query) :
    ∃ v ∈ visits body steps marked above q, v.node = q.node := by
  cases steps with
  | zero => exact ⟨_, List.mem_singleton_self _, rfl⟩
  | succ steps =>
    rw [visits]
    split
    · exact ⟨_, List.mem_singleton_self _, rfl⟩
    · exact ⟨_, List.mem_cons_self, rfl⟩

/-- The calls made for what a call asks are calls made for it. -/
theorem mem_visits_of_asked (hmem : q.node ∉ marked) {q' : Query}
    (hq' : q' ∈ (body q).asked (found body steps (insert q.node marked))) {v : Visit}
    (hv : v ∈ visits body steps (insert q.node marked) (q.node :: above) q') :
    v ∈ visits body (steps + 1) marked above q := by
  rw [visits, if_neg hmem]
  exact List.mem_cons_of_mem _ (List.mem_flatMap.mpr ⟨q', hq', hv⟩)

/-- If no call comes too deep, a larger depth limit makes no difference. -/
theorem found_add (h : ∀ v ∈ visits body steps marked above q, v.outcome ≠ .tooDeep)
    (more : Nat) : found body (steps + more) marked q = found body steps marked q := by
  induction steps generalizing marked above q with
  | zero => exact absurd rfl (h ⟨q.node, above, .tooDeep⟩ (List.mem_singleton_self _))
  | succ steps ih =>
    rw [Nat.add_right_comm, found, found]
    split
    · rfl
    · next hmem =>
      exact result_congr fun q' hq' => ih fun v hv => h v (mem_visits_of_asked hmem hq' hv)

/-- Marks on nodes that no call comes to make no difference. -/
theorem found_union {others : Finset NodeId}
    (h : ∀ v ∈ visits body steps marked above q, v.node ∉ others) :
    found body steps (marked ∪ others) q = found body steps marked q := by
  induction steps generalizing marked above q with
  | zero => rfl
  | succ steps ih =>
    have hother : q.node ∉ others := by
      obtain ⟨v, hv, heq⟩ := exists_visit body (steps + 1) marked above q
      exact heq ▸ h v hv
    have hiff : q.node ∈ marked ∪ others ↔ q.node ∈ marked := by simp [hother]
    rw [found, found, if_congr hiff rfl rfl, ← Finset.insert_union]
    split
    · rfl
    · next hmem =>
      exact result_congr fun q' hq' => ih fun v hv => h v (mem_visits_of_asked hmem hq' hv)

/-- Nothing is found at a marked node. -/
theorem found_eq_nil (hq : q.node ∈ marked) : found body steps marked q = [] := by
  cases steps with
  | zero => rfl
  | succ steps => rw [found, if_pos hq]

/-- A query at a node that is not marked, which is only passed on, has what is found for the query
that it is passed on to, one step further in. -/
theorem exists_found_of_relay {q' : Query} (hbody : body q = one q') (hnew : q.node ∉ marked)
    (hfull : ∀ v ∈ visits body steps marked above q, v.outcome ≠ .tooDeep) :
    ∃ fewer, steps = fewer + 1 ∧
      found body steps marked q = found body fewer (insert q.node marked) q' ∧
      ∀ v ∈ visits body fewer (insert q.node marked) (q.node :: above) q',
        v.outcome ≠ .tooDeep := by
  cases steps with
  | zero => exact absurd rfl (hfull ⟨q.node, above, .tooDeep⟩ (List.mem_singleton_self _))
  | succ fewer =>
    refine ⟨fewer, rfl, by rw [found, if_neg hnew, hbody, result_one], fun v hv => ?_⟩
    refine hfull v (mem_visits_of_asked hnew ?_ hv)
    rw [hbody]
    exact List.mem_singleton_self _

/-- Nothing is found for a query that is only passed on to one for which nothing is found, whatever
else is marked. -/
theorem found_eq_nil_of_relays {q' : Query}
    (h : Relation.ReflTransGen (fun q q' => body q = one q') q q')
    (hnone : ∀ steps others, marked ⊆ others → found body steps others q' = []) :
    found body steps marked q = [] := by
  induction h using Relation.ReflTransGen.head_induction_on generalizing steps marked with
  | refl => exact hnone steps marked Finset.Subset.rfl
  | @head q q₁ hbody _ ih =>
    cases steps with
    | zero => rfl
    | succ steps =>
      have honward : found body steps (insert q.node marked) q₁ = [] :=
        ih fun steps others h => hnone steps others ((Finset.subset_insert _ _).trans h)
      rw [found, hbody, result_one, honward, ite_self]

section Vain

variable {P : Query → Prop} {others : Finset NodeId} {m : NodeId}

/-- Marks on nodes at which nothing is found once `m` is marked make no difference then. -/
theorem found_union_of_vain (hbody : ∀ q, P q → (body q).Asks P)
    (hvain : ∀ q, P q → q.node ∈ others → ∀ steps marked, m ∈ marked →
      found body steps marked q = [])
    (hq : P q) (hm : m ∈ marked) :
    found body steps (marked ∪ others) q = found body steps marked q := by
  induction steps generalizing marked q with
  | zero => rfl
  | succ steps ih =>
    by_cases hother : q.node ∈ others
    · rw [hvain q hq hother _ marked hm, found_eq_nil (Finset.mem_union_right marked hother)]
    · have hiff : q.node ∈ marked ∪ others ↔ q.node ∈ marked := by simp [hother]
      have honward : ∀ q' ∈ (body q).asked (found body steps (insert q.node marked)),
          found body steps (insert q.node (marked ∪ others)) q' =
            found body steps (insert q.node marked) q' := fun q' hq' => by
        rw [← Finset.insert_union]
        exact ih ((hbody q hq).of_mem_asked hq') (Finset.mem_insert_of_mem hm)
      rw [found, found, if_congr hiff rfl rfl, result_congr honward]

/-- And they make none to the search that starts at `m`. -/
theorem found_union_from (hbody : ∀ q, P q → (body q).Asks P)
    (hvain : ∀ q, P q → q.node ∈ others → ∀ steps marked, m ∈ marked →
      found body steps marked q = [])
    (hq : P q) (hm : q.node = m) (hother : m ∉ others) :
    found body steps (marked ∪ others) q = found body steps marked q := by
  cases steps with
  | zero => rfl
  | succ steps =>
    have hiff : q.node ∈ marked ∪ others ↔ q.node ∈ marked := by simp [hm, hother]
    have honward : ∀ q' ∈ (body q).asked (found body steps (insert q.node marked)),
        found body steps (insert q.node (marked ∪ others)) q' =
          found body steps (insert q.node marked) q' := fun q' hq' => by
      rw [← Finset.insert_union]
      exact found_union_of_vain hbody hvain ((hbody q hq).of_mem_asked hq')
        (hm ▸ Finset.mem_insert_self _ _)
    rw [found, found, if_congr hiff rfl rfl, result_congr honward]

end Vain

/-- A node that only passes on to another makes no difference to the search at that one. -/
theorem found_of_relay {n m : NodeId}
    (hrelay : ∀ q : Query, q.node = n → ∃ q' : Query, body q = one q' ∧ q'.node = m)
    (hq : q.node = m) : found body steps (insert n marked) q = found body steps marked q := by
  have hvain : ∀ q : Query, q.node = n → ∀ steps marked, m ∈ marked →
      found body steps marked q = [] := by
    intro q hn steps marked hm
    obtain ⟨q', hbody, hq'⟩ := hrelay q hn
    exact found_eq_nil_of_relays (.single hbody) fun _ _ h => found_eq_nil (hq' ▸ h hm)
  by_cases hn : m = n
  · -- the node passes on to itself, where it is marked
    obtain ⟨q', hbody, hq'⟩ := hrelay q (hq.trans hn)
    rw [found_eq_nil (hq.trans hn ▸ Finset.mem_insert_self n marked)]
    cases steps with
    | zero => rfl
    | succ steps =>
      rw [found, hbody, result_one, found_eq_nil (hq.trans hq'.symm ▸ Finset.mem_insert_self _ _),
        ite_self]
  · have hother : m ∉ ({n} : Finset NodeId) := by rwa [Finset.mem_singleton]
    rw [Finset.insert_eq, Finset.union_comm]
    exact found_union_from (P := fun _ => True) (fun q _ => asks_true _)
      (fun q _ h => hvain q (Finset.mem_singleton.mp h)) trivial hq hother

/-- If a call at `n` always asks for something at `m`, then whatever comes to `n` comes to `m`. -/
theorem exists_visit_of_visit {n m : NodeId}
    (hask : ∀ q, q.node = n → ∀ onward, ∃ q' ∈ (body q).asked onward, q'.node = m)
    (hn : n ∉ marked) (hdepth : ∀ v ∈ visits body steps marked above q, v.outcome ≠ .tooDeep)
    (h : ∃ v ∈ visits body steps marked above q, v.node = n) :
    ∃ v ∈ visits body steps marked above q, v.node = m := by
  induction steps generalizing marked above q with
  | zero => exact absurd rfl (hdepth ⟨q.node, above, .tooDeep⟩ (List.mem_singleton_self _))
  | succ steps ih =>
    obtain ⟨v, hv, hvn⟩ := h
    by_cases hmem : q.node ∈ marked
    · rw [visits, if_pos hmem, List.mem_singleton] at hv
      rw [← hvn, hv] at hn
      exact absurd hmem hn
    · by_cases hqn : q.node = n
      · obtain ⟨q', hq', hm⟩ := hask q hqn (found body steps (insert q.node marked))
        obtain ⟨v', hv', heq⟩ :=
          exists_visit body steps (insert q.node marked) (q.node :: above) q'
        exact ⟨v', mem_visits_of_asked hmem hq' hv', heq.trans hm⟩
      · rw [visits, if_neg hmem] at hv
        rcases List.mem_cons.mp hv with rfl | hv
        · exact absurd hvn hqn
        · obtain ⟨q', hq', hv⟩ := List.mem_flatMap.mp hv
          have hnew : n ∉ insert q.node marked := by simp [hn, Ne.symm hqn]
          obtain ⟨v', hv', heq⟩ := ih hnew
            (fun w hw => hdepth w (mem_visits_of_asked hmem hq' hw)) ⟨v, hv, hvn⟩
          exact ⟨v', mem_visits_of_asked hmem hq' hv', heq⟩

end Unconcerned

end Search
end CryptoUsage
