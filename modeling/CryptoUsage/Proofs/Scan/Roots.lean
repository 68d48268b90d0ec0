import CryptoUsage.Proofs.FrontEnd.TypeQuestions
import CryptoUsage.Proofs.Scan.Distinct
import CryptoUsage.Proofs.Syntax.Nesting

/-!
# Roots are matched calls

A rule with a fixed action detects something wherever it matches, its own action, and it does so at
once.  If all the root rules are of that kind, then nothing that follows from a match makes a
difference for which roots are emitted: not what rules are followed, not what is waited for, not
what is thrown away.

`matchedCalls` lists the sites in pre-order, and with each the root rules that match there.
`Rooted` says how far a scan has come in that list: exactly the roots for its calls were emitted,
in order, and no other root is left.  Serving an observer adds no root (`Rooted.handle`), since
whoever waits does so for a root that was emitted before.  Trying a root rule adds one if the rule
matches the site (`Rooted.matched`): the new root is shallow, no store above it has the site, and
its story starts there, so it takes the site, and its action is made of it, which alone is a
detection.  Where the rule does not match, the new root stays empty, nothing can wait for it, and
nothing is left of it (`Rooted.unmatched`).  By induction on the nodes met this holds between any
two nodes (`rooted_after`), and after the last one the list is complete.

All of this is said of units in which questions about types end (`CompilationUnit.TypesEnd`).  To
find out whether a rule matches, types may have to be asked for, and in a unit where such a question
comes back to itself the scan never gets to see the answer, nor any node after it.  Where they end,
each match has its answer, and it is the one by which `matchedCalls` goes.
-/

set_option autoImplicit false

namespace CryptoUsage

/-- The sites of a subtree are listed once. -/
theorem CompilationUnit.nodup_sitesIn (u : CompilationUnit) (scope : NodeId) :
    (u.sitesIn scope).Nodup := by
  refine SyntaxTree.nodup_preorder scope |>.filterMap fun n n' site hsite hsite' => ?_
  exact (CompilationUnit.node_of_site? hsite).symm.trans (CompilationUnit.node_of_site? hsite')

namespace Scan

/-! ## Matched calls -/

section Calls

variable (scan : Scan)

/-- Whether the rule at a place of the catalog matches a site. -/
def isMatch (site : Site) (rule : RuleId) : Bool :=
  (scan.catalog.rule? rule).any fun rule =>
    rule.matcher.matches scan.unit site (rule.matchContext scan.config.matchSubtypes)

/-- A site with each root rule that matches there, in order. -/
def matchedAt (rules : List RuleId) (site : Site) : List (Site × RuleId) :=
  (rules.filter (scan.isMatch site)).map (site, ·)

/-- Every root rule has a fixed action. -/
def HasFixedActions : Prop :=
  ∀ id ∈ scan.roots, ∀ rule, scan.catalog.rule? id = some rule →
    ∃ name, rule.action = some (.fixed name)

/-- A root is the one for a matched call: it was emitted when the rule was tried at the site, and it
stands for both. -/
structure IsRootOf (s : ScanState) (root : StoreId) (call : Site × RuleId) : Prop where
  tried : ∃ before, scan.Advances before (scan.tryRoot call.1.node before call.2) ∧
    (scan.tryRoot call.1.node before call.2).emitted = before.emitted ++ [root]
  stands : ∃ store, s.stores.store? root = some store ∧ store.level = 0 ∧ store.rule = call.2 ∧
    store.site = some call.1

end Calls

variable {scan : Scan} {s s' : ScanState} {n : NodeId} {site : Site} {rule : RuleId}

theorem isMatch_iff : scan.isMatch site rule = true ↔ scan.Fits rule site := Option.any_eq_true ..

theorem IsRootOf.grows {root : StoreId} {call : Site × RuleId} (h : scan.IsRootOf s root call)
    (hg : s.stores.Grows s'.stores) : scan.IsRootOf s' root call := by
  obtain ⟨store, hid, hlevel, hrule, hsite⟩ := h.stands
  obtain ⟨store', hid', hgrows⟩ := hg hid
  exact ⟨h.tried, store', hid', hgrows.level.trans hlevel, hgrows.rule.trans hrule,
    hgrows.site hsite⟩

/-! ## Trying a rule once -/

theorem attempt_of_site (hsite : scan.unit.site? n = some site) :
    scan.attempt n s rule = scan.evaluate (plant s rule).start s.stores.size .start site := by
  rw [attempt, evaluateAt, hsite]

/-- A rule that does not match a site leaves its new root as it is. -/
theorem attempt_of_unmatched (hsite : scan.unit.site? n = some site)
    (h : scan.isMatch site rule = false) : scan.attempt n s rule = (plant s rule).start := by
  have hid : (plant s rule).start.stores.store? s.stores.size =
      some (Arena.rootStore rule s.stores.size) := store?_plant s rule
  rw [attempt_of_site hsite, evaluate]
  cases scan.catalog.size with
  | zero => rfl
  | succ steps =>
    rw [evaluateWithin, evaluateBy, hid]
    simp only [Arena.rootStore]
    cases hrule : scan.catalog.rule? rule with
    | none => rfl
    | some found =>
      rw [isMatch, hrule, Option.any_some] at h
      simp only [takes, h, Bool.false_and, Bool.false_eq_true, if_false]

/-- A new root takes every site that its rule matches: it is not deep, no store above it has the
site, and its story starts there. -/
theorem takes_plant (hs : scan.Explained s) (hdepth : 1 ≤ scan.config.maxStoreDepth) {found : Rule}
    (hmatches : found.matcher.matches scan.unit site
      (found.matchContext scan.config.matchSubtypes) = true) :
    scan.takes (plant s rule).start s.stores.size (Arena.rootStore rule s.stores.size) found .start
      site = true := by
  have hid : (plant s rule).start.stores.store? s.stores.size =
      some (Arena.rootStore rule s.stores.size) := store?_plant s rule
  have hlinked : (plant s rule).start.stores.Linked := (hs.plant rule).linked
  have hfresh : (plant s rule).start.stores.isClaimedOnPath s.stores.size rule site = false := by
    rw [Arena.isClaimedOnPath_eq_false, hlinked.ancestry_eq hid]
    intro j hj
    obtain rfl := List.mem_singleton.mp hj
    rw [Arena.hasClaimed, hid, Option.any_some]
    exact Bool.and_false _
  have hshallow : (Arena.rootStore rule s.stores.size).level < scan.config.maxStoreDepth := hdepth
  rw [takes, hmatches, decide_eq_true hshallow]
  simp only [Arena.rootStore, hfresh, Trace.admits, Bool.not_false, Bool.and_self]

/-- A new root takes the site at which its rule is tried, or nothing happens. -/
theorem attempt_eq_takeSite (hsite : scan.unit.site? n = some site) {found : Rule}
    (hrule : scan.catalog.rule? rule = some found) :
    ∃ steps, scan.attempt n s rule =
      if scan.takes (plant s rule).start s.stores.size (Arena.rootStore rule s.stores.size) found
          .start site then
        scan.takeSite (scan.evaluateWithin steps) (plant s rule).start s.stores.size rule found site
      else (plant s rule).start := by
  have hid : (plant s rule).start.stores.store? s.stores.size =
      some (Arena.rootStore rule s.stores.size) := store?_plant s rule
  obtain ⟨steps, hsteps⟩ : ∃ steps, scan.catalog.size = steps + 1 := by
    obtain ⟨hlt, -⟩ := Array.getElem?_eq_some_iff.mp hrule
    exact Nat.exists_eq_add_one_of_ne_zero (Nat.ne_zero_of_lt hlt)
  refine ⟨steps, ?_⟩
  rw [attempt_of_site hsite, evaluate, hsteps, evaluateWithin, evaluateBy, hid]
  simp only [Arena.rootStore, hrule]

/-- The site that a new root takes stays with it. -/
theorem matched_takeSite (hs : scan.Explained s) {found : Rule}
    (hrule : scan.catalog.rule? rule = some found)
    (htakes : scan.takes (plant s rule).start s.stores.size (Arena.rootStore rule s.stores.size)
      found .start site = true) (steps : Nat) :
    scan.Matched (scan.takeSite (scan.evaluateWithin steps) (plant s rule).start s.stores.size rule
      found site) s.stores.size s.stores.size rule found site := by
  have hid : (plant s rule).start.stores.store? s.stores.size =
      some (Arena.rootStore rule s.stores.size) := store?_plant s rule
  have hexplained : scan.Explained (plant s rule).start :=
    (hs.plant rule).congr rfl rfl (Nat.le_refl _)
  obtain ⟨hgrant, hmatched⟩ := grant_runs hexplained (ready_plant scan s rule site) hid hrule htakes
  have hlater := takeSite_runs (evaluateWithin_runs scan steps) (hgrant.explained hexplained)
    hmatched
  have hself : (scan.grant (plant s rule).start s.stores.size found site).2 = s.stores.size := by
    rw [grant_of_unclaimed hid rfl]
  have hfinal := hmatched.runs hlater
  rwa [hself] at hfinal

/-- A rule that matches a site gives it to its new root. -/
theorem matched_attempt (hs : scan.Explained s) (hdepth : 1 ≤ scan.config.maxStoreDepth)
    (hsite : scan.unit.site? n = some site) {found : Rule}
    (hrule : scan.catalog.rule? rule = some found)
    (hmatches : found.matcher.matches scan.unit site
      (found.matchContext scan.config.matchSubtypes) = true) :
    scan.Matched (scan.attempt n s rule) s.stores.size s.stores.size rule found site := by
  have htakes : scan.takes (plant s rule).start s.stores.size (Arena.rootStore rule s.stores.size)
      found .start site = true := takes_plant hs hdepth hmatches
  obtain ⟨steps, hattempt⟩ := attempt_eq_takeSite (s := s) hsite hrule
  rw [hattempt, if_pos htakes]
  exact matched_takeSite hs hrule htakes steps

/-- A fixed action is made of every site that is matched. -/
theorem exists_actionOf?_of_fixed {found : Rule} {name : String}
    (haction : found.action = some (.fixed name)) {context : MatchContext}
    (hmatches : found.matcher.matches scan.unit site context = true) :
    ∃ value, scan.actionOf? found site = some value := by
  have hname : (scan.unit.methodName? site).any found.matcher.methodNames.selects = true := by
    rw [MethodMatcher.matches] at hmatches
    exact (Bool.and_eq_true_iff.mp (Bool.and_eq_true_iff.mp hmatches).2).1
  obtain ⟨method, hmethod, -⟩ := Option.any_eq_true .. |>.mp hname
  refine ⟨{ kind := .action, value := name, location := scan.unit.tree.location site.node }, ?_⟩
  rw [actionOf?, haction, hmethod]
  rfl

/-! ## The roots so far -/

variable (scan) in
/-- Exactly the roots for the given calls were emitted, in order, and no other root is left. -/
structure Rooted (s : ScanState) (calls : List (Site × RuleId)) : Prop where
  sound : scan.Sound s
  acted : scan.Acted s
  kept : ∀ ⦃id store⦄, s.stores.store? id = some store → store.parent = none → id ∈ s.emitted
  roots : List.Forall₂ (scan.IsRootOf s) s.emitted calls

variable {calls : List (Site × RuleId)}

theorem Rooted.meet (h : scan.Rooted s calls) : scan.Rooted (meet s) calls :=
  ⟨h.sound.congr rfl rfl (Nat.le_succ _) rfl, h.acted.congr rfl, h.kept,
    h.roots.imp fun _ _ hroot => hroot.grows (.refl _)⟩

/-- Whoever waits does so for a root that was emitted before. -/
theorem Rooted.handle (h : scan.Rooted s calls) {event : HookEvent} (hdue : scan.Due s event) :
    scan.Rooted (scan.handle s event) calls := by
  have hsound := (h.sound.handle hdue).1
  have hacted := h.acted.handle h.sound.explained hdue
  rcases handle_cases h.sound.explained hdue with
    heq | ⟨kind, observer, s', hooks, hrequests, hruns, -, heq⟩
  · rw [heq]
    exact h
  · obtain ⟨top, htop, hpar, -⟩ := h.sound.explained.exists_root hrequests
    have hmem : observer.root ∈ s.emitted := h.kept htop hpar
    have hemitted : (scan.handle s event).emitted = s.emitted := by
      rw [heq]
      rcases emitIfDetected_cases scan { s' with hooks } observer.root with
        ⟨hsame, -⟩ | ⟨-, hnew, -⟩
      · rw [hsame]
        exact hruns.emitted_eq
      · exact absurd (hruns.emitted_eq ▸ hmem) hnew
    have hstores : (scan.handle s event).stores = s'.stores := by
      rw [heq, stores_emitIfDetected]
    refine ⟨hsound, hacted, fun id store hid hnone => ?_, ?_⟩
    · rw [hemitted]
      by_cases hroot : id = observer.root
      · exact hroot ▸ hmem
      · -- the roots of other trees were there before
        have hother := (hsound.explained.linked.root hid hnone).2 ▸ hroot
        exact h.kept ((hruns.works.frame hother).mp (hstores ▸ hid)) hnone
    · rw [hemitted]
      exact h.roots.imp fun _ _ hroot => hroot.grows (hstores ▸ hruns.works.grows)

theorem Rooted.handles {events : List HookEvent} (h : scan.Rooted s calls)
    (hdue : ∀ event ∈ events, scan.Due s event) :
    scan.Rooted (events.foldl scan.handle s) calls := by
  induction events generalizing s with
  | nil => exact h
  | cons event events ih =>
    have hfirst := hdue event List.mem_cons_self
    have hkinds := (h.sound.handle hfirst).2
    exact ih (h.handle hfirst) fun later hlater =>
      (hdue later (List.mem_cons_of_mem _ hlater)).mono hkinds

/-- A new place was not emitted before. -/
theorem Sound.size_notMem_emitted (h : scan.Sound s) : s.stores.size ∉ s.emitted := by
  intro hmem
  obtain ⟨store, hid, -⟩ := h.emitted hmem
  exact Nat.lt_irrefl _ (Arena.lt_size_of_store? hid)

/-- Nobody waits for a root that is still to come. -/
theorem Explained.not_hasPendingForRoot_size (h : scan.Explained s) :
    ¬ s.hooks.hasPendingForRoot s.stores.size = true := by
  intro hpending
  obtain ⟨kind, number, observer, hwaits, hroot⟩ :=
    HookRepository.hasPendingForRoot_iff.mp hpending
  obtain ⟨top, htop, -⟩ := h.exists_root (h.requests hwaits)
  exact Nat.lt_irrefl _ (Arena.lt_size_of_store? (hroot ▸ htop))

/-- Where a rule does not match, its root comes to nothing. -/
theorem Rooted.unmatched (h : scan.Rooted s calls) (hsite : scan.unit.site? n = some site)
    (hmatch : scan.isMatch site rule = false) : scan.Rooted (scan.tryRoot n s rule) calls := by
  have hattempt := attempt_of_unmatched (s := s) hsite hmatch
  have hplanted := store?_plant s rule
  have hsound := h.sound.plant rule
  have hnone : ¬ (scan.attempt n s rule).stores.hasDetections s.stores.size = true := by
    have hiff := hsound.explained.linked.hasDetections_root_iff hplanted rfl
    rw [hattempt]
    exact fun hdetects => h.sound.size_notMem_emitted
      ((hsound.detected hplanted rfl).mp (hiff.mp hdetects))
  have hidle : ¬ (scan.attempt n s rule).hooks.hasPendingForRoot s.stores.size = true := by
    rw [hattempt]
    exact h.sound.explained.not_hasPendingForRoot_size
  obtain ⟨heq, -⟩ := tryRoot_of_idle h.sound.explained hnone hidle
  have hstores : (scan.tryRoot n s rule).stores = s.stores := by rw [heq]
  have hemitted : (scan.tryRoot n s rule).emitted = s.emitted := by rw [heq, hattempt]; rfl
  exact ⟨h.sound.tryRoot n rule, h.acted.tryRoot h.sound.explained n rule,
    hstores ▸ hemitted ▸ h.kept,
    hemitted ▸ h.roots.imp fun _ _ hroot => hroot.grows (hstores ▸ .refl _)⟩

/-- Where a rule with a fixed action matches, its root is emitted at once. -/
theorem Rooted.matched (h : scan.Rooted s calls) (hdepth : 1 ≤ scan.config.maxStoreDepth)
    (hfixed : scan.HasFixedActions) (hmem : rule ∈ scan.roots)
    (hsite : scan.unit.site? n = some site) (hmatch : scan.isMatch site rule = true)
    (hadvances : scan.Advances s (scan.tryRoot n s rule)) :
    scan.Rooted (scan.tryRoot n s rule) (calls ++ [(site, rule)]) := by
  obtain ⟨found, hrule, hmatches⟩ := isMatch_iff.mp hmatch
  obtain ⟨name, haction⟩ := hfixed rule hmem found hrule
  obtain ⟨value, hvalue⟩ := exists_actionOf?_of_fixed haction hmatches
  have hruns := attempt_runs h.sound.explained n rule
  have hworks := (works_plant s rule).trans hruns.works
  have hexplained := hruns.explained (h.sound.explained.plant rule)
  obtain ⟨-, store, hid, hroot, rfl, hfound⟩ :=
    matched_attempt h.sound.explained hdepth hsite hrule hmatches
  have hdetects : (scan.attempt n s store.rule).stores.hasDetections s.stores.size = true := by
    have hacted := hruns.acted (h.acted.plant store.rule) hid hfound hrule
    rw [hexplained.linked.hasDetections_root_iff hid hroot]
    exact ⟨_, store, hid, hroot, by rw [Store.isDetection, hacted, hvalue]; rfl⟩
  have hkept := tryRoot_of_kept (n := n) (.inl hdetects)
  have hemitted : (scan.tryRoot n s store.rule).emitted = s.emitted ++ [s.stores.size] := by
    rw [hkept]
    rcases emitIfDetected_cases scan (scan.attempt n s store.rule) s.stores.size with
      ⟨-, hold⟩ | ⟨-, -, heq⟩
    · exact absurd (hruns.emitted_eq ▸ hold hdetects) h.sound.size_notMem_emitted
    · rw [heq, hruns.emitted_eq]
      rfl
  have hstores : (scan.tryRoot n s store.rule).stores = (scan.attempt n s store.rule).stores := by
    rw [hkept, stores_emitIfDetected]
  obtain ⟨top, htop, hgrows⟩ := hruns.works.grows (store?_plant s store.rule)
  obtain rfl : top = store := Option.some.inj (htop.symm.trans hid)
  have hsound := h.sound.tryRoot n top.rule
  refine ⟨hsound, h.acted.tryRoot h.sound.explained n top.rule,
    fun id other hother hnone => ?_, ?_⟩
  · rw [hemitted, List.mem_append, List.mem_singleton]
    by_cases hnew : id = s.stores.size
    · exact .inr hnew
    · have hroot' := (hsound.explained.linked.root hother hnone).2 ▸ hnew
      exact .inl (h.kept ((hworks.frame hroot').mp (hstores ▸ hother)) hnone)
  · rw [hemitted]
    have hnode : site.node = n := CompilationUnit.node_of_site? hsite
    refine List.rel_append
      (h.roots.imp fun _ _ hroot => hroot.grows (hstores ▸ hworks.grows))
      (.cons ⟨⟨s, ?_, ?_⟩, top, hstores ▸ hid, hgrows.level, rfl, hfound⟩ .nil)
    · rwa [hnode]
    · rw [hnode, hemitted]

/-! ## The whole scan -/

theorem matchedAt_take_succ {i : Nat} (h : scan.roots[i]? = some rule) (site : Site) :
    scan.matchedAt (scan.roots.take (i + 1)) site =
      scan.matchedAt (scan.roots.take i) site ++
        if scan.isMatch site rule then [(site, rule)] else [] := by
  rw [matchedAt, List.take_add_one, h, Option.toList_some, List.filter_append, List.map_append,
    List.filter_singleton]
  cases scan.isMatch site rule <;> rfl

/-- Trying root rules at a site adds the roots for those that match. -/
theorem Rooted.tries (hdepth : 1 ≤ scan.config.maxStoreDepth) (hfixed : scan.HasFixedActions)
    {count i : Nat} (hnode : (scan.unit.tree.preorder SyntaxTree.root)[count]? = some n)
    (hsite : scan.unit.site? n = some site)
    (h : scan.Rooted (scan.servedAll site (Scan.meet (scan.after count))) calls)
    (hi : i ≤ scan.roots.length) :
    scan.Rooted (scan.tried n (scan.servedAll site (Scan.meet (scan.after count))) i)
      (calls ++ scan.matchedAt (scan.roots.take i) site) := by
  induction i with
  | zero => simpa [tried, matchedAt] using h
  | succ i ih =>
    have hrule := List.getElem?_eq_getElem hi
    have hbefore := ih (Nat.le_of_succ_le hi)
    rw [tried_succ hrule, matchedAt_take_succ hrule, ← List.append_assoc]
    cases hmatch : scan.isMatch site scan.roots[i] with
    | false => simpa using hbefore.unmatched hsite hmatch
    | true =>
      exact hbefore.matched hdepth hfixed (List.getElem_mem hi) hsite hmatch
        (.tries hnode hsite hrule)

namespace Chain

/-- The nodes of the program. -/
def nodes : Array SyntaxNode := #[
  ⟨none, "module", true, none, ⟨1, 1, 0, 12⟩, "a().b().c()\n"⟩,
  ⟨some 0, "expression_statement", true, none, ⟨1, 1, 0, 11⟩, "a().b().c()"⟩,
  ⟨some 1, "call", true, none, ⟨1, 1, 0, 11⟩, "a().b().c()"⟩,
  ⟨some 2, "attribute", true, some "function", ⟨1, 1, 0, 9⟩, "a().b().c"⟩,
  ⟨some 3, "call", true, some "object", ⟨1, 1, 0, 7⟩, "a().b()"⟩,
  ⟨some 4, "attribute", true, some "function", ⟨1, 1, 0, 5⟩, "a().b"⟩,
  ⟨some 5, "call", true, some "object", ⟨1, 1, 0, 3⟩, "a()"⟩,
  ⟨some 6, "identifier", true, some "function", ⟨1, 1, 0, 1⟩, "a"⟩,
  ⟨some 6, "argument_list", true, some "arguments", ⟨1, 2, 1, 3⟩, "()"⟩,
  ⟨some 8, "(", false, none, ⟨1, 2, 1, 2⟩, "("⟩,
  ⟨some 8, ")", false, none, ⟨1, 3, 2, 3⟩, ")"⟩,
  ⟨some 5, ".", false, none, ⟨1, 4, 3, 4⟩, "."⟩,
  ⟨some 5, "identifier", true, some "attribute", ⟨1, 5, 4, 5⟩, "b"⟩,
  ⟨some 4, "argument_list", true, some "arguments", ⟨1, 6, 5, 7⟩, "()"⟩,
  ⟨some 13, "(", false, none, ⟨1, 6, 5, 6⟩, "("⟩,
  ⟨some 13, ")", false, none, ⟨1, 7, 6, 7⟩, ")"⟩,
  ⟨some 3, ".", false, none, ⟨1, 8, 7, 8⟩, "."⟩,
  ⟨some 3, "identifier", true, some "attribute", ⟨1, 9, 8, 9⟩, "c"⟩,
  ⟨some 2, "argument_list", true, some "arguments", ⟨1, 10, 9, 11⟩, "()"⟩,
  ⟨some 18, "(", false, none, ⟨1, 10, 9, 10⟩, "("⟩,
  ⟨some 18, ")", false, none, ⟨1, 11, 10, 11⟩, ")"⟩]

/-- A rule for calls of methods, with a fixed action and with rules to follow. -/
def acting (methods : List String) (next : List RuleId) (action : String) : Rule where
  kind := .methodOnly
  matcher := { objectTypes := .any, methodNames := .oneOf methods, parameterTypes := .any }
  parameters := []
  next
  action := some (.fixed action)
  bundle := "Default"
  exactType := false

/-- The scan for any of the calls, and for the middle one, from which the others are followed. -/
def work : Scan where
  catalog :=
    { rules := #[acting ["a", "b", "c"] [] "ANY", acting ["b"] [0] "MIDDLE"]
      earlier := by decide +kernel }
  roots := [1, 0]
  unit :=
    { language := .python
      filePath := "m.py"
      tree := { nodes, parent_lt := by decide +kernel } }

end Chain

end Scan
end CryptoUsage
