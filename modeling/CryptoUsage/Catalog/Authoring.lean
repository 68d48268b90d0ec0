import CryptoUsage.Catalog.Rule

/-!
# Writing a rule down

A rule is written down clause by clause.  Candidates, parameters and next rules add up in the
order in which they are given; of several actions or bundles the last one counts.  What the
clauses add up to is a `RuleSpec`, and only `RuleSpec.build` says whether that is a rule.

## What is here

The clauses are the calls that an author makes on a rule builder, one constructor of `RuleClause`
for each, with the arguments of the call.  A call that gives a single object type, method name or
next rule is a clause with a list of one.  `RuleSpec.add` is the effect of one call on what the
builder holds, and `RuleSpec.ofClauses` that of a sequence of calls from the empty builder on.

Nothing is checked while clauses are added.  So the order of the clauses matters in two ways only:
lists are in the order of the calls, and a later action or bundle takes the place of an earlier
one.  Which clauses lead to a rule, and what that rule is, is proved in the file on well-formed
rules, for every sequence of clauses.
-/

set_option autoImplicit false

namespace CryptoUsage

/-- One thing that the author of a rule says. -/
inductive RuleClause where
  /-- More candidates for the type that a call acts on. -/
  | objectTypes (names : List String)
  /-- More candidates for the name of the method. -/
  | methodNames (names : List String)
  /-- Constructions are candidates, too. -/
  | construction
  /-- One more parameter. -/
  | parameter (parameter : Parameter)
  /-- Arguments are to be ignored. -/
  | anyParameters
  /-- More rules to follow from a matched call. -/
  | next (rules : List RuleId)
  /-- What a matched call does. -/
  | action (factory : ActionFactory)
  /-- The bundle of the rule. -/
  | bundle (name : String)
  /-- The type that a call acts on has to be a candidate itself. -/
  | exactType

namespace RuleSpec

/-- A specification with one more clause. -/
def add (spec : RuleSpec) : RuleClause → RuleSpec
  | .objectTypes names => { spec with objectTypes := spec.objectTypes ++ names }
  | .methodNames names => { spec with methodNames := spec.methodNames ++ names }
  | .construction => { spec with methodNames := spec.methodNames ++ [constructorName] }
  | .parameter p => { spec with parameters := spec.parameters ++ [p] }
  | .anyParameters => { spec with anyParameters := true }
  | .next rules => { spec with next := spec.next ++ rules }
  | .action factory => { spec with action := some factory }
  | .bundle name => { spec with bundle := some name }
  | .exactType => { spec with exactType := true }

/-- What clauses add up to. -/
def ofClauses (clauses : List RuleClause) : RuleSpec := clauses.foldl add {}

end RuleSpec

end CryptoUsage
