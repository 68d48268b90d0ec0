import CryptoUsage.Proofs.Catalog.WellFormed
import CryptoUsage.Proofs.Scan.Collecting
import CryptoUsage.Proofs.Scan.Roots

/-!
# Every later caller

If the argument that a root takes a value from is a parameter of the method around its site, then
the calls of the method after the site supply the values.  When the root rule is tried, its root
holds no value for the argument and somebody asks for them (`collects_attempt`); from then on
every site that is met adds what it supplies, and no other root that is tried makes a difference
(`collectsAll_after`).  So in the end the root has the values of all the calls after its site, in
order and each of them once (`values_are_those_of_later_calls`).

## How it goes

The invariant `CollectsAll` speaks of all roots at once, and of the sites that were met so far:
every root that stands for a rule and a site has the values of those calls among them that come
after its site.

* Roots that were there before.  To use the invariant before an event, a root that matched after
  it has to have matched before (`Matched.of_handle`, `Matched.of_tryRoot`): serving observers
  gives no site to a store that is there, and trying a root rule makes one new root.
* The new root.  Its site is the one that was met last, so no call after it was met, and it has to
  have nothing.  That is so because nothing but the awaited values can come to their place
  (`reserves_grant`, `collects_pursue`).
* The whole scan.  A site first adds what it supplies (`CollectsAll.servedAll`), and then root
  rules are tried there (`CollectsAll.tryRoots`).  As sites are met in pre-order, those behind the
  site are the calls that are still to come.
-/

set_option autoImplicit false

namespace CryptoUsage

/-- A rule that was built and has parameters looks at arguments. -/
theorem RuleSpec.isMethodOnly_eq_false {spec : RuleSpec} {rule : Rule} {parameter : Parameter}
    (h : spec.build = .ok rule) (hmem : parameter ∈ rule.parameters) :
    rule.isMethodOnly = false := by
  rw [Rule.isMethodOnly, kind_eq_full_of_build h (List.ne_nil_of_mem hmem)]
  rfl

namespace Scan

section Later

variable (scan : Scan)

/-- The sites after a site, in pre-order. -/
def sitesAfter (site : Site) : List Site :=
  ((scan.unit.sitesIn SyntaxTree.root).dropWhile (· ≠ site)).tail

/-- The calls of a method after a site. -/
def callsAfter (method : NodeId) (site : Site) : List Site :=
  (scan.sitesAfter site).filter (scan.isCallOf method)

/-- The values for a parameter of a rule that matched a site come from the later calls of a
method. -/
structure IsSupplied (awaited : Awaited) (rule : Rule) (site : Site) : Prop where
  isFull : rule.isMethodOnly = false
  takes : scan.TakesParameter awaited rule site
  resolves : ∀ call ∈ scan.callsAfter awaited.method site, scan.Resolves awaited call

/-- Given the sites that were met, every root whose values come from later calls has those of the
calls that were met after its site. -/
def CollectsAll (s : ScanState) (met : List Site) : Prop :=
  ∀ ⦃root awaited rule site⦄, scan.Matched s root root awaited.wanted.rule rule site →
    scan.IsSupplied awaited rule site → ∃ before after, met = before ++ site :: after ∧
      scan.Collects awaited root s
        ((after.filter (scan.isCallOf awaited.method)).flatMap (scan.suppliedAt awaited))

end Later

variable {scan : Scan} {awaited : Awaited} {s s' : ScanState} {root : StoreId} {ruleId : RuleId}
  {rule : Rule} {site found : Site} {n : NodeId} {met : List Site}

theorem sitesAfter_eq {before after : List Site}
    (h : scan.unit.sitesIn SyntaxTree.root = before ++ site :: after) :
    scan.sitesAfter site = after := by
  have hnodup := scan.unit.nodup_sitesIn SyntaxTree.root
  rw [h] at hnodup
  obtain ⟨-, -, hdisjoint⟩ := List.nodup_append.mp hnodup
  rw [sitesAfter, h, List.dropWhile_append_of_pos fun other hother =>
    decide_eq_true (hdisjoint other hother site List.mem_cons_self),
    List.dropWhile_cons_of_neg (by simp), List.tail_cons]

/-! ## Roots that were there before -/

/-- A store that stands for a rule and a site and is its own root is no child. -/
theorem Matched.parent_eq_none (h : scan.Matched s root root ruleId rule site)
    (hlinked : s.stores.Linked) :
    ∃ store, s.stores.store? root = some store ∧ store.parent = none ∧ store.root = root ∧
      store.rule = ruleId ∧ store.site = some site := by
  obtain ⟨-, store, hid, hroot, hrule, hsite⟩ := h
  obtain ⟨-, top, htop, hparent, -⟩ := hlinked.exists_root hid
  rw [hroot, hid] at htop
  cases htop
  exact ⟨store, hid, hparent, hroot, hrule, hsite⟩

/-- Serving an observer gives no site to a store that is there. -/
theorem site_deliver (hs : scan.Explained s) {kind : HookKind} {observer : Observer}
    (h : scan.Requests s kind observer) {old : Store} (hid : s.stores.store? root = some old)
    (trigger : Site) :
    ∃ new, (scan.deliver kind observer trigger s).1.stores.store? root = some new ∧
      new.root = old.root ∧ new.rule = old.rule ∧ new.site = old.site := by
  obtain ⟨-, -, -, _, _, _, _, _, ⟨-, requester, hlive, -⟩, -⟩ := h
  let remit : Remit := ⟨s.stores.size, fun _ => True, fun _ _ => True⟩
  have hmay : remit.MayServe observer.requester observer.payload := by
    cases observer.payload with
    | value => exact ⟨.inr trivial, fun _ => .inr trivial⟩
    | follow => exact .inr trivial
  have hconfines : remit.Confines s (scan.deliver kind observer trigger s).1 :=
    deliver_confines ⟨hs.linked, Nat.le_refl _⟩ ⟨requester, hlive⟩ hmay kind trigger
  obtain ⟨new, hnew, hrespects⟩ := hconfines.spares.stores hid
  exact ⟨new, hnew, hrespects.place.root, hrespects.rule,
    hrespects.site (Arena.lt_size_of_store? hid)⟩

/-- Roots get no site when an event is handled, and none is made. -/
theorem Matched.of_handle (hs : scan.Sound s) {event : HookEvent} (hdue : scan.Due s event)
    (h : scan.Matched (scan.handle s event) root root ruleId rule site) :
    scan.Matched s root root ruleId rule site := by
  obtain ⟨hs', -⟩ := hs.handle hdue
  obtain ⟨store, hid, hparent, hroot, hruleId, hsite⟩ := h.parent_eq_none hs'.explained.linked
  rcases handle_eq_serve scan s event with heq | ⟨kind, observer, hwaits, heq⟩
  · rwa [heq] at h
  · have hrequests := hs.explained.requests
      (HookRepository.waits_iff_exists_waitsAt.mpr ⟨_, hwaits⟩)
    obtain ⟨kind', hkind', hfires⟩ := hdue.fires
    obtain rfl : kind' = kind := Option.some.inj (hkind'.symm.trans hwaits.kinds_getElem?)
    rw [heq, stores_emitIfDetected] at hid
    obtain ⟨old, hold, -⟩ :=
      (deliver_runs hs.explained hrequests hdue.site_eq hfires).root_of_new hid hparent
    obtain ⟨new, hnew, hsame, hsame', hsame''⟩ :=
      site_deliver hs.explained hrequests hold event.trigger
    cases hid.symm.trans hnew
    exact ⟨h.rule_eq, old, hold, hsame.symm.trans hroot, hsame'.symm.trans hruleId,
      hsame''.symm.trans hsite⟩

theorem Matched.of_handles {events : List HookEvent} (hs : scan.Sound s)
    (hdue : ∀ event ∈ events, scan.Due s event)
    (h : scan.Matched (events.foldl scan.handle s) root root ruleId rule site) :
    scan.Matched s root root ruleId rule site := by
  induction events generalizing s with
  | nil => exact h
  | cons event events ih =>
    have hfirst := hdue event List.mem_cons_self
    obtain ⟨hs', hkinds⟩ := hs.handle hfirst
    refine Matched.of_handle hs hfirst (ih hs' (fun later hlater => ?_) h)
    exact (hdue later (List.mem_cons_of_mem _ hlater)).mono hkinds

/-- A root that stands for a rule and a site after a root rule was tried did so before, or it is the
new one, and then it is kept. -/
theorem Matched.of_tryRoot (hs : scan.Explained s) {tried : RuleId}
    (h : scan.Matched (scan.tryRoot n s tried) root root ruleId rule site) :
    scan.Matched s root root ruleId rule site ∨ root = s.stores.size ∧
      scan.Matched (scan.attempt n s tried) root root ruleId rule site ∧
      scan.tryRoot n s tried = scan.emitIfDetected (scan.attempt n s tried) s.stores.size := by
  have hruns := attempt_runs hs n tried
  have hworks := (works_plant s tried).trans hruns.works
  obtain ⟨hrule, store, hid, hroot, hrest⟩ := h
  by_cases hkept : (scan.attempt n s tried).stores.hasDetections s.stores.size = true ∨
      (scan.attempt n s tried).hooks.hasPendingForRoot s.stores.size = true
  · have heq := tryRoot_of_kept hkept
    rw [heq, stores_emitIfDetected] at hid
    by_cases hnew : root = s.stores.size
    · exact .inr ⟨hnew, ⟨hrule, store, hid, hroot, hrest⟩, heq⟩
    · exact .inl ⟨hrule, store, (hworks.frame (hroot ▸ hnew)).mp hid, hroot, hrest⟩
  · obtain ⟨hnone, hidle⟩ := not_or.mp hkept
    rw [(tryRoot_of_idle hs hnone hidle).1] at hid
    exact .inl ⟨hrule, store, hid, hroot, hrest⟩

/-! ## The new root -/

/-- The new root, given its site, holds nothing, and nobody asks for anything on its behalf. -/
theorem reserves_grant (hs : scan.Explained s) (awaited : Awaited) (ruleId : RuleId) (rule : Rule)
    (found : Site) :
    awaited.Reserves s.stores.size
      (scan.grant (plant s ruleId).start s.stores.size rule found).1 [] where
  values_eq := by
    have hid : (plant s ruleId).start.stores.store? s.stores.size =
        some (Arena.rootStore ruleId s.stores.size) := store?_plant s ruleId
    rw [grant_of_unclaimed hid rfl]
    exact ⟨_, Arena.store?_modify_self hid _, rfl⟩
  only {kind number observer} hwaits hrequester _ := by
    rw [hooks_grant] at hwaits
    have hrequests := hs.requests (show s.hooks.Waits kind number observer from hwaits)
    obtain ⟨-, -, -, _, _, _, _, _, ⟨-, store, hlive, -⟩, -⟩ := hrequests
    exact absurd (Arena.lt_size_of_store? hlive) (hrequester ▸ Nat.lt_irrefl _)

/-- What follows once the root has its site brings no values there, and makes somebody ask for
them. -/
theorem collects_pursue {evaluate : Evaluator} (he : KeepsRemits evaluate)
    (hsupplied : scan.IsSupplied awaited rule site) (hlinked : s.stores.Linked)
    (h : awaited.Reserves root s []) :
    scan.Collects awaited root (scan.pursue evaluate root awaited.wanted.rule rule site s) [] := by
  obtain ⟨given, hgiven, -⟩ := h.values_eq
  have hnext : (Remit.sparing s.stores.size root awaited.index).Confines s
      (scan.followNext evaluate root rule site s) :=
    followNext_confines he ⟨hlinked, Nat.le_refl _⟩ ⟨.inr trivial, given, hgiven⟩ rule site
  have hfollowed := h.confines hnext (Remit.not_mayFile_sparing h.lt_size)
  obtain ⟨hreserves, hasked⟩ :=
    reserves_readArguments he hsupplied.takes (hnext.spares.linked hlinked) hfollowed
  simp only [pursue, hsupplied.isFull, Bool.false_eq_true, if_false]
  exact ⟨hreserves, hasked⟩

/-- **The new root has collected nothing, and somebody asks for the values.** -/
theorem collects_attempt (hs : scan.Explained s) (hfound : scan.unit.site? n = some found)
    (hmatched : scan.Matched (scan.attempt n s ruleId) s.stores.size s.stores.size
      awaited.wanted.rule rule site) (hsupplied : scan.IsSupplied awaited rule site) :
    site = found ∧ scan.Collects awaited s.stores.size (scan.attempt n s ruleId) [] := by
  obtain ⟨hrule, store, hid, -, hruleId, hsite⟩ := hmatched
  obtain ⟨store', hid', hgrows⟩ := (attempt_runs hs n ruleId).works.grows (store?_plant s ruleId)
  cases hid.symm.trans hid'
  obtain rfl : ruleId = awaited.wanted.rule := hgrows.rule.symm.trans hruleId
  obtain ⟨steps, hattempt⟩ := attempt_eq_takeSite (s := s) hfound hrule
  by_cases htakes : scan.takes (plant s awaited.wanted.rule).start s.stores.size
      (Arena.rootStore awaited.wanted.rule s.stores.size) rule .start found = true
  · rw [if_pos htakes] at hattempt
    have hlater := matched_takeSite hs hrule htakes steps
    rw [← hattempt] at hlater
    obtain rfl : site = found := Option.some.inj (hsite.symm.trans (hlater.site_eq hid))
    have hplanted : (plant s awaited.wanted.rule).start.stores.store? s.stores.size =
        some (Arena.rootStore awaited.wanted.rule s.stores.size) := store?_plant s _
    have hself : (scan.grant (plant s awaited.wanted.rule).start s.stores.size rule site).2 =
        s.stores.size := by
      rw [grant_of_unclaimed hplanted rfl]
    have hlinked : (scan.grant (plant s awaited.wanted.rule).start s.stores.size rule
        site).1.stores.Linked := by
      rw [grant_of_unclaimed hplanted rfl]
      exact (hs.plant awaited.wanted.rule).linked.modify _
        (Store.keepsLinks_take site (scan.actionOf? rule site))
    rw [hattempt, takeSite_eq_pursue, hself]
    exact ⟨rfl, collects_pursue (evaluateWithin_confines scan steps) hsupplied hlinked
      (reserves_grant hs awaited awaited.wanted.rule rule site)⟩
  · rw [hattempt, if_neg htakes] at hid
    cases hid.symm.trans (store?_plant s awaited.wanted.rule)
    cases hsite

/-! ## The whole scan -/

/-- What was collected does not change when other roots are tried. -/
theorem Collects.tryRoot {collected : List DetectedValue}
    (h : scan.Collects awaited root s collected) (hs : scan.Explained s) (n : NodeId)
    (tried : RuleId) : scan.Collects awaited root (scan.tryRoot n s tried) collected := by
  have hplanted : (Remit.sparing s.stores.size root awaited.index).Confines s (plant s tried) :=
    (Remit.spares_createRoot s.stores tried).confines rfl
  have hfits : (Remit.sparing s.stores.size root awaited.index).Fits (plant s tried).stores :=
    ⟨hplanted.spares.linked hs.linked, hplanted.spares.size_le⟩
  have hattempt : (Remit.sparing s.stores.size root awaited.index).Confines s
      (scan.attempt n s tried) :=
    hplanted.trans (evaluateAt_confines (evaluate_confines scan) .start n hfits
      ⟨Nat.le_refl _, _, store?_plant s tried, nofun⟩)
  by_cases hkept : (scan.attempt n s tried).stores.hasDetections s.stores.size = true ∨
      (scan.attempt n s tried).hooks.hasPendingForRoot s.stores.size = true
  · rw [tryRoot_of_kept hkept]
    exact (h.confines hattempt).emitIfDetected _
  · obtain ⟨hnone, hidle⟩ := not_or.mp hkept
    obtain ⟨heq, hhooks⟩ := tryRoot_of_idle hs hnone hidle
    rw [heq]
    exact h.congr rfl hhooks

/-- Meeting a site adds what it supplies to what every root has. -/
theorem CollectsAll.servedAll {node : Nat} (h : scan.CollectsAll (scan.after node) met)
    (hat : scan.siteAt? node = some found) {rest : List Site}
    (hsites : scan.unit.sitesIn SyntaxTree.root = met ++ found :: rest) :
    scan.CollectsAll (scan.servedAll found (meet (scan.after node))) (met ++ [found]) := by
  intro root awaited rule site hmatched hsupplied
  have hself : scan.unit.site? found.node = some found := by
    obtain ⟨n, -, hsite⟩ := Option.bind_eq_some_iff.mp hat
    rw [CompilationUnit.node_of_site? hsite, hsite]
  have hs : scan.Sound (meet (scan.after node)) :=
    (sound_kept scan).meet (.meets node) (sound_after scan node)
  have hbefore : scan.Matched (scan.after node) root root awaited.wanted.rule rule site := by
    have hmet := Matched.of_handles hs
      (fun event hevent => due_of_mem_observe hself (List.mem_of_mem_take hevent)) hmatched
    exact ⟨hmet.rule_eq, hmet.store_eq⟩
  obtain ⟨before, after, rfl, hcollects⟩ := h hbefore hsupplied
  have hresolves : scan.isCallOf awaited.method found = true → scan.Resolves awaited found := by
    intro hcall
    refine hsupplied.resolves found (List.mem_filter.mpr ⟨?_, hcall⟩)
    rw [List.append_assoc, List.cons_append] at hsites
    rw [sitesAfter_eq hsites]
    exact List.mem_append_right _ List.mem_cons_self
  refine ⟨before, after ++ [found], by simp, ?_⟩
  have hadded := collects_servedAll hat hresolves hcollects
  rw [List.filter_append, List.flatMap_append, List.filter_singleton]
  split at hadded
  · next hcall => simpa [hcall] using hadded
  · next hcall => simpa [hcall] using hadded

/-- Trying root rules at the site that was met last adds roots that have nothing yet. -/
theorem CollectsAll.tryRoots (h : scan.CollectsAll s (met ++ [found])) (hs : scan.Sound s)
    (hfound : scan.unit.site? n = some found) (rules : List RuleId) :
    scan.CollectsAll (rules.foldl (scan.tryRoot n) s) (met ++ [found]) := by
  induction rules generalizing s with
  | nil => exact h
  | cons tried rules ih =>
    refine ih (fun root awaited rule site hmatched hsupplied => ?_) (hs.tryRoot n tried)
    rcases Matched.of_tryRoot hs.explained hmatched with hold | ⟨rfl, hnew, heq⟩
    · obtain ⟨before, after, hmet, hcollects⟩ := h hold hsupplied
      exact ⟨before, after, hmet, hcollects.tryRoot hs.explained n tried⟩
    · obtain ⟨rfl, hcollects⟩ := collects_attempt hs.explained hfound hnew hsupplied
      exact ⟨met, [], rfl, heq ▸ hcollects.emitIfDetected _⟩

/-- **Between two nodes, every root has the values of the calls that were met after its site.** -/
theorem collectsAll_after (scan : Scan) (count : Nat) :
    scan.CollectsAll (scan.after count)
      (((scan.unit.tree.preorder SyntaxTree.root).take count).filterMap scan.unit.site?) := by
  induction count with
  | zero =>
    rintro root awaited rule site ⟨-, store, hid, -⟩
    simp [after, Arena.store?] at hid
  | succ count ih =>
    cases hnode : (scan.unit.tree.preorder SyntaxTree.root)[count]? with
    | none =>
      have hlen := List.getElem?_eq_none_iff.mp hnode
      rw [after_of_length_le hlen, List.take_of_length_le (Nat.le_succ_of_le hlen),
        ← List.take_of_length_le hlen]
      exact ih
    | some n =>
      have hrest : (scan.unit.tree.preorder SyntaxTree.root) =
          (scan.unit.tree.preorder SyntaxTree.root).take count ++
            n :: (scan.unit.tree.preorder SyntaxTree.root).drop (count + 1) := by
        obtain ⟨hlt, hget⟩ := List.getElem?_eq_some_iff.mp hnode
        rw [← hget, ← List.drop_eq_getElem_cons hlt, List.take_append_drop]
      rw [after_succ hnode, List.take_add_one, hnode, Option.toList_some, List.filterMap_append]
      cases hsite : scan.unit.site? n with
      | none =>
        rw [visit_of_no_site hsite]
        intro root awaited rule site hmatched hsupplied
        obtain ⟨before, after, hmet, hcollects⟩ :=
          ih ⟨hmatched.rule_eq, hmatched.store_eq⟩ hsupplied
        exact ⟨before, after, by simpa [hsite] using hmet, hcollects.congr rfl rfl⟩
      | some found =>
        have hat : scan.siteAt? count = some found := by
          rw [siteAt?, hnode, Option.bind_some, hsite]
        have hsites : scan.unit.sitesIn SyntaxTree.root =
            ((scan.unit.tree.preorder SyntaxTree.root).take count).filterMap scan.unit.site? ++
              found :: ((scan.unit.tree.preorder SyntaxTree.root).drop (count + 1)).filterMap
                scan.unit.site? := by
          rw [CompilationUnit.sitesIn, congrArg (List.filterMap scan.unit.site?) hrest,
            List.filterMap_append, List.filterMap_cons_some hsite]
        have hserves := serves_deliveriesAt (numbered_after scan count) hat
        rw [visit_of_site hsite, tried, List.take_length]
        simpa [hsite] using (ih.servedAll hat hsites).tryRoots hserves.sound hsite scan.roots

/-- **A hook on a parameter collects every later caller.**  If a root stands for a rule and a site
and the argument for a detectable parameter of the rule is a parameter of a method, then in the end
the values of the root for it are those that the calls of the method after the site supply: of the
first call, then of the second one, and so on, each value once.  This holds if the argument of every
such call has a constant. -/
theorem values_are_those_of_later_calls {spec : RuleSpec} (hbuilt : spec.build = .ok rule)
    (hmatched : scan.Matched scan.run root root awaited.wanted.rule rule site)
    (htakes : scan.TakesParameter awaited rule site)
    (hresolves : ∀ call ∈ scan.callsAfter awaited.method site, scan.Resolves awaited call) :
    ∃ store, scan.run.stores.store? root = some store ∧
      Slots.at store.values awaited.index =
        ((scan.callsAfter awaited.method site).flatMap (scan.suppliedAt awaited)).eraseDups := by
  obtain ⟨parameter, hparameter, -⟩ := htakes.isDetectable
  have hfull := RuleSpec.isMethodOnly_eq_false hbuilt (List.mem_of_getElem? hparameter)
  rw [run_eq_after] at hmatched ⊢
  obtain ⟨before, after, hmet, hcollects⟩ :=
    collectsAll_after scan _ hmatched ⟨hfull, htakes, hresolves⟩
  rw [List.take_length] at hmet
  rw [callsAfter, sitesAfter_eq hmet]
  exact hcollects.reserves.values_eq

/-! ### Three calls

A call of `g` takes the size of a key from the parameter of `m`.  There are three later calls of
`m`, two of which hand on the same constant.

    def m(x):
        g(x)
    k = 1
    m(k)
    m(2)
    m(k)
-/

namespace Thrice

/-- The nodes of the program. -/
def nodes : Array SyntaxNode := #[
  ⟨none, "module", true, none, ⟨1, 1, 0, 40⟩, "def m(x):\n    g(x)\nk = 1\nm(k)\nm(2)\nm(k)\n"⟩,
  ⟨some 0, "function_definition", true, none, ⟨1, 1, 0, 18⟩, "def m(x):\n    g(x)"⟩,
  ⟨some 1, "def", false, none, ⟨1, 1, 0, 3⟩, "def"⟩,
  ⟨some 1, "identifier", true, some "name", ⟨1, 5, 4, 5⟩, "m"⟩,
  ⟨some 1, "parameters", true, some "parameters", ⟨1, 6, 5, 8⟩, "(x)"⟩,
  ⟨some 4, "(", false, none, ⟨1, 6, 5, 6⟩, "("⟩,
  ⟨some 4, "identifier", true, none, ⟨1, 7, 6, 7⟩, "x"⟩,
  ⟨some 4, ")", false, none, ⟨1, 8, 7, 8⟩, ")"⟩,
  ⟨some 1, ":", false, none, ⟨1, 9, 8, 9⟩, ":"⟩,
  ⟨some 1, "block", true, some "body", ⟨2, 5, 14, 18⟩, "g(x)"⟩,
  ⟨some 9, "expression_statement", true, none, ⟨2, 5, 14, 18⟩, "g(x)"⟩,
  ⟨some 10, "call", true, none, ⟨2, 5, 14, 18⟩, "g(x)"⟩,
  ⟨some 11, "identifier", true, some "function", ⟨2, 5, 14, 15⟩, "g"⟩,
  ⟨some 11, "argument_list", true, some "arguments", ⟨2, 6, 15, 18⟩, "(x)"⟩,
  ⟨some 13, "(", false, none, ⟨2, 6, 15, 16⟩, "("⟩,
  ⟨some 13, "identifier", true, none, ⟨2, 7, 16, 17⟩, "x"⟩,
  ⟨some 13, ")", false, none, ⟨2, 8, 17, 18⟩, ")"⟩,
  ⟨some 0, "expression_statement", true, none, ⟨3, 1, 19, 24⟩, "k = 1"⟩,
  ⟨some 17, "assignment", true, none, ⟨3, 1, 19, 24⟩, "k = 1"⟩,
  ⟨some 18, "identifier", true, some "left", ⟨3, 1, 19, 20⟩, "k"⟩,
  ⟨some 18, "=", false, none, ⟨3, 3, 21, 22⟩, "="⟩,
  ⟨some 18, "integer", true, some "right", ⟨3, 5, 23, 24⟩, "1"⟩,
  ⟨some 0, "expression_statement", true, none, ⟨4, 1, 25, 29⟩, "m(k)"⟩,
  ⟨some 22, "call", true, none, ⟨4, 1, 25, 29⟩, "m(k)"⟩,
  ⟨some 23, "identifier", true, some "function", ⟨4, 1, 25, 26⟩, "m"⟩,
  ⟨some 23, "argument_list", true, some "arguments", ⟨4, 2, 26, 29⟩, "(k)"⟩,
  ⟨some 25, "(", false, none, ⟨4, 2, 26, 27⟩, "("⟩,
  ⟨some 25, "identifier", true, none, ⟨4, 3, 27, 28⟩, "k"⟩,
  ⟨some 25, ")", false, none, ⟨4, 4, 28, 29⟩, ")"⟩,
  ⟨some 0, "expression_statement", true, none, ⟨5, 1, 30, 34⟩, "m(2)"⟩,
  ⟨some 29, "call", true, none, ⟨5, 1, 30, 34⟩, "m(2)"⟩,
  ⟨some 30, "identifier", true, some "function", ⟨5, 1, 30, 31⟩, "m"⟩,
  ⟨some 30, "argument_list", true, some "arguments", ⟨5, 2, 31, 34⟩, "(2)"⟩,
  ⟨some 32, "(", false, none, ⟨5, 2, 31, 32⟩, "("⟩,
  ⟨some 32, "integer", true, none, ⟨5, 3, 32, 33⟩, "2"⟩,
  ⟨some 32, ")", false, none, ⟨5, 4, 33, 34⟩, ")"⟩,
  ⟨some 0, "expression_statement", true, none, ⟨6, 1, 35, 39⟩, "m(k)"⟩,
  ⟨some 36, "call", true, none, ⟨6, 1, 35, 39⟩, "m(k)"⟩,
  ⟨some 37, "identifier", true, some "function", ⟨6, 1, 35, 36⟩, "m"⟩,
  ⟨some 37, "argument_list", true, some "arguments", ⟨6, 2, 36, 39⟩, "(k)"⟩,
  ⟨some 39, "(", false, none, ⟨6, 2, 36, 37⟩, "("⟩,
  ⟨some 39, "identifier", true, none, ⟨6, 3, 37, 38⟩, "k"⟩,
  ⟨some 39, ")", false, none, ⟨6, 4, 38, 39⟩, ")"⟩]

/-- Calls of `g` with the size of a key in bits. -/
def spec : RuleSpec where
  objectTypes := [anything]
  methodNames := ["g"]
  parameters := [{ typeName := anything, role := .detectable .keyBits }]

/-- The rule for these calls. -/
def keyRule : Rule where
  kind := .full
  matcher := { objectTypes := .any, methodNames := .oneOf ["g"], parameterTypes := .exactly ["*"] }
  parameters := [{ typeName := anything, role := .detectable .keyBits }]
  next := []
  action := none
  bundle := "Default"
  exactType := false

/-- The scan of the program for them. -/
def work : Scan where
  catalog := { rules := #[keyRule], earlier := by decide +kernel }
  roots := [0]
  unit :=
    { language := .python
      filePath := "m.py"
      tree := { nodes, parent_lt := by decide +kernel } }

/-- The sizes that calls of `m` supply. -/
def sizes : Awaited where
  wanted := ⟨0, 0⟩
  factory := .keyBits
  method := 1
  place := 0

end Thrice

set_option maxRecDepth 100000 in
/-- The root has the two sizes, in the order in which they were handed on first. -/
theorem values_of_three_calls :
    Thrice.spec.build = .ok Thrice.keyRule ∧
    Thrice.work.callsAfter 1 (.invocation 11) =
      [.invocation 23, .invocation 30, .invocation 37] ∧
    ∃ store, Thrice.work.run.stores.store? 0 = some store ∧ Slots.at store.values 0 =
      [.sized .keySize 1 .bit ⟨3, 5, 23, 24⟩, .sized .keySize 2 .bit ⟨5, 3, 32, 33⟩] := by
  have hbuilt : Thrice.spec.build = .ok Thrice.keyRule := by rfl
  have hmatched : Thrice.work.Matched Thrice.work.run 0 0 0 Thrice.keyRule (.invocation 11) := by
    have hroot : (Thrice.work.run.stores.store? 0).map
        (fun store => (store.root, store.rule, store.site)) =
          some (0, 0, some (.invocation 11)) := by decide +kernel
    obtain ⟨store, hid, heq⟩ := Option.map_eq_some_iff.mp hroot
    obtain ⟨hroot, hrest⟩ := Prod.mk.inj heq
    obtain ⟨hrule, hsite⟩ := Prod.mk.inj hrest
    exact ⟨rfl, store, hid, hroot, hrule, hsite⟩
  have htakes : Thrice.work.TakesParameter Thrice.sizes Thrice.keyRule (.invocation 11) :=
    ⟨⟨_, rfl, rfl, rfl⟩, 15, ⟨"x", 6, .parameter⟩, by decide +kernel, by decide +kernel, rfl,
      by decide +kernel, by decide +kernel⟩
  have hcalls : Thrice.work.callsAfter 1 (.invocation 11) =
      [.invocation 23, .invocation 30, .invocation 37] := by decide +kernel
  have hresolves : ∀ call ∈ Thrice.work.callsAfter 1 (.invocation 11),
      Thrice.work.Resolves Thrice.sizes call := by
    have hsome : ∀ call ∈ Thrice.work.callsAfter 1 (.invocation 11),
        (Thrice.work.argument? call 0).all (fun argument =>
          !(Thrice.work.unit.resolveValue {} .keyBits [] argument).isEmpty) = true := by
      decide +kernel
    intro call hcall argument hargument hnone
    have hargument' : Thrice.work.argument? call 0 = some argument := hargument
    have hnone' : Thrice.work.unit.resolveValue {} .keyBits [] argument = [] := hnone
    have hthis := hsome call hcall
    rw [hargument', Option.all_some, hnone'] at hthis
    cases hthis
  have hvalues : ((Thrice.work.callsAfter 1 (.invocation 11)).flatMap
      (Thrice.work.suppliedAt Thrice.sizes)).eraseDups =
        [.sized .keySize 1 .bit ⟨3, 5, 23, 24⟩, .sized .keySize 2 .bit ⟨5, 3, 32, 33⟩] := by
    decide +kernel
  obtain ⟨store, hid, hstore⟩ := values_are_those_of_later_calls hbuilt hmatched htakes hresolves
  exact ⟨hbuilt, hcalls, store, hid, hstore.trans hvalues⟩

end Scan
end CryptoUsage
