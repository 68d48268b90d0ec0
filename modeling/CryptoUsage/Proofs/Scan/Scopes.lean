import CryptoUsage.Proofs.Scan.Confinement
import CryptoUsage.Proofs.Scan.Roots

/-!
# Following a rule through a scope

A rule that is followed through a scope gets a store and is evaluated there at every site of the
scope, in order.  The first site that it takes goes to the store itself, and each further one to a
new sibling; on the way each of them follows rules of its own.

`Arena.GivesOut` says what comes of it: the stores that were made for the rule have the sites, one
each and in order, and nothing else happened to the stores that stood before.  One evaluation
keeps it (`givesOut_evaluate`), as whatever is followed from a site stays with the store that has
the site.  The sites are those of the scope that the rule matches, that the trace admits and that
no store further up has claimed; which ones these are does not change on the way
(`takes_eq_isFor`).

## How it goes

* Giving out.  At first a child is made and has no site.  The first site is given to it
  (`take_first`), a further one to a sibling made for it (`take_next`).  Other work with the remit
  of what is under the parent gives out nothing (`spares_trans`).
* One evaluation.  What the rule takes depends on the stores above, which keep their sites.  Nodes
  of a scope are met once, so a site is never one that was given out before, and the site is
  granted to the next store (`givesOut_evaluate`).
* The scope.  `givesOut_foldl_evaluate` is the induction over the sites, with those that are to be
  claimed filtered out.  A store that is too deep takes none (`evaluateBy_of_deep`).
-/

set_option autoImplicit false

namespace CryptoUsage

namespace Arena

/-- The site that a store has claimed. -/
def claimed? (arena : Arena) (id : StoreId) : Option Site := (arena.store? id).bind (·.site)

/-- What is claimed by stores that are made one after the other for sites, the first of them in any
case. -/
def claimsFor : List Site → List (Option Site)
  | [] => [none]
  | site :: sites => (site :: sites).map some

/-- The work that makes stores under a parent, and does as it likes with these. -/
def remitUnder (arena : Arena) (parent : StoreId) : Remit where
  mark := arena.size
  adopts := (· = parent)
  files _ _ := False

/-- From one arena to another, a rule was followed under an index of a parent, and sites were given
out to the store that was made for it and to further siblings. -/
structure GivesOut (a : Arena) (parent : StoreId) (index : Int) (rule : RuleId)
    (siblings : List StoreId) (sites : List Site) (b : Arena) : Prop where
  /-- Of the stores that stood before, only the parent got children. -/
  spares : (a.remitUnder parent).Spares a b
  /-- The new stores come after what was filed under the index, and nothing comes elsewhere. -/
  children : ∀ {above}, a.store? parent = some above → ∃ above', b.store? parent = some above' ∧
    ∀ i, Slots.at above'.children i =
      Slots.at above.children i ++ if i = index then a.size :: siblings else []
  made : ∀ id ∈ a.size :: siblings, a.size ≤ id ∧ ∃ store, b.store? id = some store ∧
    store.rule = rule ∧ store.parent = some (parent, index)
  /-- They have the sites, one each and in order. -/
  claims : (a.size :: siblings).map b.claimed? = claimsFor sites

variable {a b c : Arena} {parent id : StoreId} {index : Int} {rule : RuleId}
  {siblings : List StoreId} {sites : List Site}

theorem claimsFor_concat (sites : List Site) (site : Site) :
    claimsFor (sites ++ [site]) =
      if sites = [] then [some site] else claimsFor sites ++ [some site] := by
  cases sites with
  | nil => rfl
  | cons first sites => simp [claimsFor]

/-- Before the mark, stores have the sites they had. -/
theorem claimed?_of_spares {remit : Remit} (h : remit.Spares a b) {store : Store}
    (hid : a.store? id = some store) (hlt : id < remit.mark) : b.claimed? id = a.claimed? id := by
  obtain ⟨new, hnew, hrespects⟩ := h.stores hid
  rw [claimed?, claimed?, hid, hnew, Option.bind_some, Option.bind_some, hrespects.site hlt]

/-- A child is made, and no site is given out yet. -/
theorem givesOut_createChild {above : Store} (habove : a.store? parent = some above)
    (hook : Option HookOrigin) :
    a.GivesOut parent index rule [] [] (a.createChild parent index rule hook).1 where
  spares := Remit.spares_createChild habove (.inr rfl) index rule hook
  children {above'} habove' := by
    cases habove.symm.trans habove'
    refine ⟨above.adopt index a.size, ?_, fun i => ?_⟩
    · rw [store?_createChild habove, if_neg (Nat.ne_of_lt (lt_size_of_store? habove)), if_pos rfl]
    · rw [Store.adopt]
      split
      · next hi => rw [hi, Slots.at_push_self]
      · next hi => rw [Slots.at_push_of_ne hi, List.append_nil]
  made := by simp [store?_createChild_new habove, Store.under]
  claims := by simp [claimed?, store?_createChild_new habove, Store.under, claimsFor]

namespace GivesOut

/-- Work that gives no site to a store there is, and no child to the parent, gives out nothing. -/
theorem spares_trans (h : a.GivesOut parent index rule siblings sites b)
    (hout : (a.remitUnder parent).Spares b c) {remit : Remit} (hin : remit.Spares b c)
    (hmark : remit.mark = b.size) (hparent : ¬ remit.MayAdopt parent) :
    a.GivesOut parent index rule siblings sites c where
  spares := h.spares.trans hout
  children habove := by
    obtain ⟨above', habove', hchildren⟩ := h.children habove
    obtain ⟨above'', habove'', hrespects⟩ := hin.stores habove'
    exact ⟨above'', habove'', fun i => hrespects.children hparent ▸ hchildren i⟩
  made id hid := by
    obtain ⟨hle, store, hstore, hrule, hpar⟩ := h.made id hid
    obtain ⟨new, hnew, hrespects⟩ := hin.stores hstore
    exact ⟨hle, new, hnew, hrespects.rule.trans hrule, hrespects.place.parent.trans hpar⟩
  claims := by
    rw [← h.claims]
    refine List.map_congr_left fun id hid => ?_
    obtain ⟨-, store, hstore, -⟩ := h.made id hid
    exact claimed?_of_spares hin hstore (hmark ▸ lt_size_of_store? hstore)

variable {store : Store} {site : Site}

/-- The first of the stores has one of the sites, unless there is none to have. -/
theorem of_site_eq (h : a.GivesOut parent index rule siblings sites b)
    (hid : b.store? a.size = some store) :
    store.site = (claimsFor sites).head?.join := by
  have hclaims := congrArg List.head? h.claims
  rw [List.map_cons, List.head?_cons, claimed?, hid, Option.bind_some] at hclaims
  rw [← hclaims]
  rfl

theorem site_ne (h : a.GivesOut parent index rule siblings sites b)
    (hid : b.store? a.size = some store) (hfresh : site ∉ sites) : store.site ≠ some site := by
  rw [h.of_site_eq hid]
  cases sites with
  | nil => exact nofun
  | cons first sites =>
    rintro heq
    exact hfresh (List.mem_cons.mpr (.inl (Option.some.inj heq).symm))

theorem nil_of_unclaimed (h : a.GivesOut parent index rule siblings sites b)
    (hid : b.store? a.size = some store) (hsite : store.site = none) :
    sites = [] ∧ siblings = [] := by
  have hclaims := h.claims
  have hfirst := h.of_site_eq hid
  cases sites with
  | nil => exact ⟨rfl, List.map_eq_nil_iff.mp (List.cons.inj hclaims).2⟩
  | cons first sites => exact absurd (hfirst.symm.trans hsite) nofun

/-- The first site is given to the store that was made at first. -/
theorem take_first (h : a.GivesOut parent index rule [] [] b)
    (hid : b.store? a.size = some store) (hne : parent ≠ a.size)
    (action : Option DetectedValue) :
    a.GivesOut parent index rule [] [site]
      (b.modify a.size fun store => store.take site action) where
  spares := h.spares.trans (Remit.spares_take (Nat.le_refl a.size) fun _ => ⟨_, _, rfl⟩)
  children habove := by
    rw [store?_modify, if_neg (Ne.symm hne)]
    exact h.children habove
  made := by
    obtain ⟨hle, store', hid', hrule, hpar⟩ := h.made a.size List.mem_cons_self
    cases hid.symm.trans hid'
    intro id hmem
    rw [List.mem_singleton.mp hmem]
    exact ⟨hle, _, store?_modify_self hid _, hrule, hpar⟩
  claims := by
    rw [List.map_singleton, claimed?, store?_modify_self hid]
    rfl

/-- A further site is given to a sibling that is made for it. -/
theorem take_next (h : a.GivesOut parent index rule siblings sites b) {above : Store}
    (habove : a.store? parent = some above) (hsites : sites ≠ []) (hook : Option HookOrigin)
    (action : Option DetectedValue) :
    a.GivesOut parent index rule (siblings ++ [b.size]) (sites ++ [site])
      ((b.createChild parent index rule hook).1.modify b.size
        fun store => store.take site action) := by
  obtain ⟨above', habove', hchildren⟩ := h.children habove
  have hnew := store?_createChild_new habove' index rule hook
  have hgiven := store?_modify_self hnew fun store => store.take site action
  have hout : (a.remitUnder parent).Spares b ((b.createChild parent index rule hook).1.modify
      b.size fun store => store.take site action) :=
    (Remit.spares_createChild habove' (.inr rfl) ..).trans
      (Remit.spares_take h.spares.size_le fun _ => ⟨_, _, rfl⟩)
  have hin : (b.remitUnder parent).Spares b ((b.createChild parent index rule hook).1.modify
      b.size fun store => store.take site action) :=
    (Remit.spares_createChild habove' (.inr rfl) ..).trans
      (Remit.spares_take (Nat.le_refl b.size) fun _ => ⟨_, _, rfl⟩)
  refine ⟨h.spares.trans hout, fun {top} htop => ?_, fun id hid => ?_, ?_⟩
  · cases habove.symm.trans htop
    have hlt := lt_size_of_store? habove'
    refine ⟨above'.adopt index b.size, ?_, fun i => ?_⟩
    · rw [store?_modify, if_neg (Nat.ne_of_gt hlt), store?_createChild habove',
        if_neg (Nat.ne_of_lt hlt), if_pos rfl]
    · rw [Store.adopt]
      by_cases hi : i = index
      · subst hi
        rw [Slots.at_push_self, hchildren, if_pos rfl, if_pos rfl, List.append_assoc]
        rfl
      · rw [Slots.at_push_of_ne hi, hchildren, if_neg hi, if_neg hi]
  · rw [← List.cons_append] at hid
    rcases List.mem_append.mp hid with hold | hid
    · obtain ⟨hle, store, hstore, hrule, hpar⟩ := h.made id hold
      obtain ⟨new, hnew, hrespects⟩ := hin.stores hstore
      exact ⟨hle, new, hnew, hrespects.rule.trans hrule, hrespects.place.parent.trans hpar⟩
    · rw [List.mem_singleton.mp hid]
      exact ⟨h.spares.size_le, _, hgiven, rfl, rfl⟩
  · have hsame : (a.size :: siblings).map ((b.createChild parent index rule hook).1.modify
        b.size fun store => store.take site action).claimed? = claimsFor sites := by
      rw [← h.claims]
      refine List.map_congr_left fun id hid => ?_
      obtain ⟨-, store, hstore, -⟩ := h.made id hid
      exact claimed?_of_spares hin hstore (lt_size_of_store? hstore)
    rw [← List.cons_append, List.map_append, hsame, List.map_singleton, claimed?, hgiven,
      claimsFor_concat, if_neg hsites]
    rfl

end GivesOut

end Arena

namespace Scan

variable {scan : Scan} {s : ScanState} {a : Arena} {parent : StoreId} {index : Int}
  {ruleId : RuleId} {rule : Rule} {trace : Trace} {above : Store} {siblings : List StoreId}
  {sites : List Site}

variable (scan) in
/-- Whether a rule that is followed from a store is to claim a site: it matches, the site continues
the story, and no store on the way up from there has claimed it for the same rule. -/
def isFor (stores : Arena) (parent : StoreId) (ruleId : RuleId) (rule : Rule) (trace : Trace)
    (site : Site) : Bool :=
  rule.matcher.matches scan.unit site (rule.matchContext scan.config.matchSubtypes) &&
    trace.admits (scan.binding site) && !stores.isClaimedOnPath parent ruleId site

/-- What the rule takes does not depend on what was given out before. -/
theorem takes_eq_isFor (hlinked : a.Linked) (habove : a.store? parent = some above)
    (hshallow : above.level + 1 < scan.config.maxStoreDepth)
    (h : a.GivesOut parent index ruleId siblings sites s.stores) {store : Store}
    (hid : s.stores.store? a.size = some store) {site : Site} (hfresh : site ∉ sites) :
    scan.takes s a.size store rule trace site = scan.isFor a parent ruleId rule trace site := by
  obtain ⟨-, store', hid', hrule, hpar⟩ := h.made a.size List.mem_cons_self
  cases hid.symm.trans hid'
  have hlinked' := h.spares.linked hlinked
  obtain ⟨-, above', habove', hlevel, -⟩ := hlinked'.parent hid hpar
  obtain ⟨above'', habove'', hrespects⟩ := h.spares.stores habove
  cases habove'.symm.trans habove''
  have hself : s.stores.hasClaimed ruleId site a.size = false := by
    rw [Arena.hasClaimed, hid, Option.any_some, beq_eq_false_iff_ne.mpr (h.site_ne hid hfresh),
      Bool.and_false]
  have hpath : s.stores.isClaimedOnPath a.size ruleId site =
      a.isClaimedOnPath parent ruleId site := by
    rw [← h.spares.isClaimedOnPath_eq hlinked habove (Arena.lt_size_of_store? habove),
      Arena.isClaimedOnPath, hlinked'.ancestry_eq hid, hpar, List.any_cons, hself, Bool.false_or]
    rfl
  have hdepth : store.level < scan.config.maxStoreDepth := by
    rw [hlevel, hrespects.place.level]
    exact hshallow
  rw [takes, hrule, hpath, decide_eq_true hdepth, isFor, Bool.and_true, Bool.and_right_comm]

/-- The site goes to the next store. -/
theorem givesOut_grant (habove : a.store? parent = some above)
    (h : a.GivesOut parent index ruleId siblings sites s.stores) {site : Site}
    (hfresh : site ∉ sites) (rule : Rule) :
    ∃ siblings', a.GivesOut parent index ruleId siblings' (sites ++ [site])
        (scan.grant s a.size rule site).1.stores ∧
      (scan.grant s a.size rule site).2 ∈ a.size :: siblings' := by
  obtain ⟨-, store, hid, hrule, hpar⟩ := h.made a.size List.mem_cons_self
  cases hsite : store.site with
  | none =>
    obtain ⟨rfl, rfl⟩ := h.nil_of_unclaimed hid hsite
    rw [grant_of_unclaimed hid hsite]
    exact ⟨[], h.take_first hid (Nat.ne_of_lt (Arena.lt_size_of_store? habove)) _,
      List.mem_cons_self⟩
  | some other =>
    have hne : other ≠ site := fun heq => h.site_ne hid hfresh (hsite.trans (congrArg some heq))
    have hsites : sites ≠ [] := by
      rintro rfl
      exact absurd ((h.of_site_eq hid).symm.trans hsite) nofun
    rw [grant_of_claimed hid hsite hne hpar, hrule]
    exact ⟨siblings ++ [s.stores.size], h.take_next habove hsites store.hook _, by simp⟩

/-- One evaluation gives out its site if that is one to claim. -/
theorem givesOut_evaluate {evaluate : Evaluator} (he : KeepsRemits evaluate) (hlinked : a.Linked)
    (habove : a.store? parent = some above) (hrule : scan.catalog.rule? ruleId = some rule)
    (hshallow : above.level + 1 < scan.config.maxStoreDepth)
    (h : a.GivesOut parent index ruleId siblings sites s.stores) {site : Site}
    (hfresh : site ∉ sites) :
    ∃ siblings', a.GivesOut parent index ruleId siblings'
      (sites ++ [site].filter (scan.isFor a parent ruleId rule trace))
      (scan.evaluateBy evaluate s a.size trace site).stores := by
  obtain ⟨-, store, hid, hstore, -⟩ := h.made a.size List.mem_cons_self
  have htakes : scan.takes s a.size store rule trace site =
      scan.isFor a parent ruleId rule trace site :=
    takes_eq_isFor hlinked habove hshallow h hid hfresh
  simp only [evaluateBy, hid, hstore, hrule, htakes]
  split
  · next hfor =>
    rw [List.filter_cons_of_pos hfor, List.filter_nil, takeSite_eq_pursue]
    obtain ⟨siblings', hgiven, htarget⟩ := givesOut_grant habove h hfresh rule
    refine ⟨siblings', ?_⟩
    generalize scan.grant s a.size rule site = granted at hgiven htarget ⊢
    obtain ⟨hle, target, hlive, -⟩ := hgiven.made _ htarget
    have hlinked' := hgiven.spares.linked hlinked
    -- what follows works on the store that has the site, and on new ones
    let remit : Remit :=
      { mark := granted.1.stores.size
        adopts := (· = granted.2)
        files := fun id _ => id = granted.2 }
    have hout : (a.remitUnder parent).Confines granted.1
        (scan.pursue evaluate granted.2 ruleId rule site granted.1) :=
      pursue_confines he ⟨hlinked', hgiven.spares.size_le⟩ ⟨.inl hle, target, hlive⟩
        (fun _ => .inl hle) ruleId rule site
    have hin : remit.Confines granted.1
        (scan.pursue evaluate granted.2 ruleId rule site granted.1) :=
      pursue_confines he ⟨hlinked', Nat.le_refl _⟩ ⟨.inr rfl, target, hlive⟩ (fun _ => .inr rfl)
        ruleId rule site
    refine hgiven.spares_trans hout.spares hin.spares rfl ?_
    have hlt := Arena.lt_size_of_store? habove
    rintro (hmark | heq)
    · exact absurd (Nat.le_trans hgiven.spares.size_le hmark) (Nat.not_le_of_lt hlt)
    · exact absurd (heq ▸ hle) (Nat.not_le_of_lt hlt)
  · next hfor =>
    rw [List.filter_cons_of_neg hfor, List.filter_nil, List.append_nil]
    exact ⟨siblings, h⟩

/-- One evaluation after the other gives out those of the sites that are to be claimed. -/
theorem givesOut_foldl_evaluate {evaluate : Evaluator} (he : KeepsRemits evaluate)
    (hlinked : a.Linked) (habove : a.store? parent = some above)
    (hrule : scan.catalog.rule? ruleId = some rule)
    (hshallow : above.level + 1 < scan.config.maxStoreDepth)
    (h : a.GivesOut parent index ruleId siblings sites s.stores) {rest : List Site}
    (hnodup : (sites ++ rest).Nodup) :
    ∃ siblings', a.GivesOut parent index ruleId siblings'
      (sites ++ rest.filter (scan.isFor a parent ruleId rule trace))
      (rest.foldl (fun s site => scan.evaluateBy evaluate s a.size trace site) s).stores := by
  induction rest generalizing s siblings sites with
  | nil => exact ⟨siblings, by rwa [List.filter_nil, List.append_nil]⟩
  | cons site rest ih =>
    have hfresh : site ∉ sites := fun hmem =>
      (List.nodup_append.mp hnodup).2.2 site hmem site List.mem_cons_self rfl
    obtain ⟨siblings', hgiven⟩ : ∃ siblings', a.GivesOut parent index ruleId siblings'
        (sites ++ [site].filter (scan.isFor a parent ruleId rule trace))
        (scan.evaluateBy evaluate s a.size trace site).stores :=
      givesOut_evaluate he hlinked habove hrule hshallow h hfresh
    have hrest :
        (sites ++ [site].filter (scan.isFor a parent ruleId rule trace) ++ rest).Nodup := by
      refine hnodup.sublist ?_
      rw [List.append_assoc]
      exact (List.Sublist.refl sites).append (List.filter_sublist.append (.refl rest))
    obtain ⟨siblings'', hgiven'⟩ := ih hgiven hrest
    refine ⟨siblings'', ?_⟩
    rw [List.append_assoc, ← List.filter_append] at hgiven'
    exact hgiven'

/-- In a store that is too deep no rule takes a site. -/
theorem evaluateBy_of_deep {evaluate : Evaluator} {id : StoreId} {store : Store}
    (hid : s.stores.store? id = some store) (hdeep : ¬ store.level < scan.config.maxStoreDepth)
    (site : Site) : scan.evaluateBy evaluate s id trace site = s := by
  have hnone : ∀ rule, scan.takes s id store rule trace site = false := by
    intro rule
    rw [takes, decide_eq_false hdeep, Bool.and_false, Bool.false_and]
  simp only [evaluateBy, hid, hnone, Bool.false_eq_true, if_false]
  split <;> rfl

/-- **Following a rule through a scope claims each site that is to be claimed once, in order**, for
the store that is made for the rule and for siblings of it, unless that store is too deep; then
nothing is claimed.  The arena of every state of a scan is linked, and following a rule is done with
any positive number of steps. -/
theorem scope_is_given_out (hlinked : s.stores.Linked)
    (habove : s.stores.store? parent = some above)
    (hrule : scan.catalog.rule? ruleId = some rule) {steps : Nat} (hsteps : 0 < steps)
    (index : Int) (hook : Option HookOrigin) (trace : Trace) (scope : NodeId) :
    let sites := (scan.unit.sitesIn scope).filter (scan.isFor s.stores parent ruleId rule trace)
    let s' := follow (scan.evaluateIn (scan.evaluateWithin steps) trace scope) parent index hook s
      ruleId
    (above.level + 1 < scan.config.maxStoreDepth →
      (∃ siblings, s.stores.GivesOut parent index ruleId siblings sites s'.stores) ∧
        (s'.stores.claimed? s.stores.size = none ↔ sites = [])) ∧
    (¬ above.level + 1 < scan.config.maxStoreDepth →
      s'.stores = (s.stores.createChild parent index ruleId hook).1) := by
  intro sites s'
  obtain ⟨steps, rfl⟩ := Nat.exists_eq_add_one_of_ne_zero (Nat.ne_of_gt hsteps)
  let made := (s.withStores (s.stores.createChild parent index ruleId hook).1).plan.start
  have hs' : s' = (scan.unit.sitesIn scope).foldl
      (fun s'' site => scan.evaluateBy (scan.evaluateWithin steps) s'' s.stores.size trace site)
      made := rfl
  constructor
  · intro hshallow
    have hmade : s.stores.GivesOut parent index ruleId [] [] made.stores :=
      Arena.givesOut_createChild habove hook
    obtain ⟨siblings, hgiven⟩ : ∃ siblings, s.stores.GivesOut parent index ruleId siblings
        ([] ++ sites) s'.stores :=
      givesOut_foldl_evaluate (evaluateWithin_confines scan steps) hlinked habove hrule hshallow
        hmade (scan.unit.nodup_sitesIn scope)
    rw [List.nil_append] at hgiven
    refine ⟨⟨siblings, hgiven⟩, ?_⟩
    obtain ⟨-, store, hid, -⟩ := hgiven.made _ List.mem_cons_self
    rw [Arena.claimed?, hid, Option.bind_some, hgiven.of_site_eq hid]
    cases sites <;> simp [Arena.claimsFor]
  · intro hdeep
    have hnew := Arena.store?_createChild_new habove index ruleId hook
    have hsame : ∀ site, scan.evaluateBy (scan.evaluateWithin steps) made s.stores.size trace site =
        made := evaluateBy_of_deep hnew hdeep
    rw [hs', List.foldl_fixed' hsame]
    rfl

/-! ### Calls with others between them

Through a scope with three calls a rule is followed for two of them, and from each of these another
rule for the third one.

    a()
    b()
    a()
-/

namespace Between

/-- The nodes of the program. -/
def nodes : Array SyntaxNode := #[
  ⟨none, "module", true, none, ⟨1, 1, 0, 12⟩, "a()\nb()\na()\n"⟩,
  ⟨some 0, "expression_statement", true, none, ⟨1, 1, 0, 3⟩, "a()"⟩,
  ⟨some 1, "call", true, none, ⟨1, 1, 0, 3⟩, "a()"⟩,
  ⟨some 2, "identifier", true, some "function", ⟨1, 1, 0, 1⟩, "a"⟩,
  ⟨some 2, "argument_list", true, some "arguments", ⟨1, 2, 1, 3⟩, "()"⟩,
  ⟨some 4, "(", false, none, ⟨1, 2, 1, 2⟩, "("⟩,
  ⟨some 4, ")", false, none, ⟨1, 3, 2, 3⟩, ")"⟩,
  ⟨some 0, "expression_statement", true, none, ⟨2, 1, 4, 7⟩, "b()"⟩,
  ⟨some 7, "call", true, none, ⟨2, 1, 4, 7⟩, "b()"⟩,
  ⟨some 8, "identifier", true, some "function", ⟨2, 1, 4, 5⟩, "b"⟩,
  ⟨some 8, "argument_list", true, some "arguments", ⟨2, 2, 5, 7⟩, "()"⟩,
  ⟨some 10, "(", false, none, ⟨2, 2, 5, 6⟩, "("⟩,
  ⟨some 10, ")", false, none, ⟨2, 3, 6, 7⟩, ")"⟩,
  ⟨some 0, "expression_statement", true, none, ⟨3, 1, 8, 11⟩, "a()"⟩,
  ⟨some 13, "call", true, none, ⟨3, 1, 8, 11⟩, "a()"⟩,
  ⟨some 14, "identifier", true, some "function", ⟨3, 1, 8, 9⟩, "a"⟩,
  ⟨some 14, "argument_list", true, some "arguments", ⟨3, 2, 9, 11⟩, "()"⟩,
  ⟨some 16, "(", false, none, ⟨3, 2, 9, 10⟩, "("⟩,
  ⟨some 16, ")", false, none, ⟨3, 3, 10, 11⟩, ")"⟩]

/-- A rule for calls of a method. -/
def calling (method : String) (next : List RuleId) : Rule where
  kind := .methodOnly
  matcher := { objectTypes := .any, methodNames := .oneOf [method], parameterTypes := .any }
  parameters := []
  next
  action := none
  bundle := "Default"
  exactType := false

/-- The scan of the program for calls of `a`, from which those of `b` are followed. -/
def work : Scan where
  catalog := { rules := #[calling "b" [], calling "a" [0]], earlier := by decide +kernel }
  roots := [1]
  unit :=
    { language := .python
      filePath := "m.py"
      tree := { nodes, parent_lt := by decide +kernel } }

/-- A state with one store, for the rule of `b`. -/
def start : ScanState := ({} : ScanState).withStores (Arena.createRoot {} 0).1

end Between

set_option maxRecDepth 100000 in
/-- The calls of `a` go to the store that is made for the rule and to one sibling. -/
theorem calls_between_are_left_out :
    0 < Between.work.catalog.size ∧
    (Between.work.unit.sitesIn SyntaxTree.root).filter
        (Between.work.isFor Between.start.stores 0 1 (Between.calling "a" [0]) .start) =
      [.invocation 2, .invocation 14] ∧
    ∃ siblings, Between.start.stores.GivesOut 0 methodLevel 1 siblings
      [.invocation 2, .invocation 14]
      (follow (Between.work.evaluateIn Between.work.evaluate .start SyntaxTree.root) 0 methodLevel
        none Between.start 1).stores := by
  have hlinked : Between.start.stores.Linked := Arena.linked_empty.createRoot 0
  have hsites : (Between.work.unit.sitesIn SyntaxTree.root).filter
      (Between.work.isFor Between.start.stores 0 1 (Between.calling "a" [0]) .start) =
        [.invocation 2, .invocation 14] := by decide +kernel
  have habove : Between.start.stores.store? 0 = some (Arena.rootStore 0 0) := rfl
  have hrule : Between.work.catalog.rule? 1 = some (Between.calling "a" [0]) := rfl
  have hsteps : 0 < Between.work.catalog.size := by decide
  obtain ⟨hgiven, -⟩ := (scope_is_given_out hlinked habove hrule hsteps methodLevel none .start
    SyntaxTree.root).1 (by decide)
  rw [hsites] at hgiven
  exact ⟨hsteps, hsites, hgiven⟩

end Scan
end CryptoUsage
