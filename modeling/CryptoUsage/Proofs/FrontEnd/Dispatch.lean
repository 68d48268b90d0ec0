import CryptoUsage.Detection.Matching
import CryptoUsage.Proofs.FrontEnd.JavaVariables

/-!
# Dispatch and matching

Where a method of the unit is called is found in two ways.  A call is dispatched: from the call,
the types above it or the type of its receiver are searched for a method (`methodDefinition?`).
And a method is waited for: from the method, a matcher is made of its owner, its name and the
types of its parameters, and calls are compared with it (`methodMatcher?`).

A call that is dispatched to a method matches the matcher of the method exactly if it gives every
parameter (`CompilationUnit.dispatched_calls_match`), so whoever waits for the method hears of
such a call.  In Java dispatch itself asks for that.  In Python it only asks for the parameters
without default values; a call that leaves another one out is dispatched to a function whose
matcher does not match it (`CompilationUnit.not_all_dispatched_calls_match`).

## How it goes

* Matching on behalf of a hook.  A matcher that was made of a definition matches calls with the
  name, on the type, with arguments that agree (`MethodMatcher.matches_ofDefinition`); and
  whatever it matches has as many arguments as it asks for (`MethodMatcher.length_eq_of_matches`).
* Java.  The method is a member of a type (`exists_owner_of_methodDefinition?`), and that type is
  the nearest one above it (`enclosingType?_of_mem_typeMembers`), so the matcher asks for the
  owner at which dispatch looked.
* Python.  A call by name goes to a function in no class, and acts on the module; a call on an
  object goes to a function in the class of the object (`exists_callee_of_methodDefinition?`).

`IsDirect` and `ArgumentsFit` are the hypotheses for a match: that nothing nearer has a claim to
the name, and that known types of arguments are those of the parameters.
-/

set_option autoImplicit false

namespace CryptoUsage

variable {u : CompilationUnit} {n m owner : NodeId} {name : String}

/-! ## Matching on behalf of a hook -/

/-- The arguments of a call agree with types when each agrees with the type at its place. -/
theorem argumentsAgreeFrom_of_forall₂ {types : List String} {arguments : List (Option ObjectType)}
    (h : List.Forall₂ (fun wanted found => argumentAgrees wanted found true = true) types arguments)
    (index : Nat) : argumentsAgreeFrom .forHook index types arguments = true := by
  induction h generalizing index with
  | nil => rfl
  | cons hagrees _ ih => exact Bool.and_eq_true_iff.mpr ⟨hagrees, ih (index + 1)⟩

/-- Arguments that agree with types are as many. -/
theorem length_eq_of_argumentsAgreeFrom {context : MatchContext} {index : Nat}
    {types : List String} {arguments : List (Option ObjectType)}
    (h : argumentsAgreeFrom context index types arguments = true) :
    arguments.length = types.length := by
  fun_induction argumentsAgreeFrom context index types arguments with
  | case1 => rfl
  | case2 index wanted types found arguments ih =>
    rw [List.length_cons, List.length_cons, ih (Bool.and_eq_true_iff.mp h).2]
  | case3 => cases h

/-- A matcher that asks for a number of arguments matches only calls with that number of arguments,
however loosely types are compared. -/
theorem MethodMatcher.length_eq_of_matches {matcher : MethodMatcher} {site : Site} {arity : Nat}
    {context : MatchContext} (h : matcher.matches u site context = true)
    (harity : matcher.arity? = some arity) : (u.parameterTypes site).length = arity := by
  have hagree : matcher.parameterTypes.agree (u.parameterTypes site) context = true := by
    simp only [MethodMatcher.matches, Bool.and_eq_true] at h
    exact h.2.2.2
  rw [MethodMatcher.arity?] at harity
  split at harity
  · cases harity
  · next types htypes =>
    cases harity
    rw [htypes] at hagree
    exact length_eq_of_argumentsAgreeFrom hagree

/-- The matcher of a definition matches the calls of its name that act on its owner with arguments
of its types. -/
theorem MethodMatcher.matches_ofDefinition {type : ObjectType} {types : List String}
    (hname : u.methodName? (.invocation n) = some name)
    (htype : u.invokedObjectType? (.invocation n) = some type)
    (harguments : List.Forall₂ (fun wanted found => argumentAgrees wanted found true = true) types
      (u.parameterTypes (.invocation n))) :
    (ofDefinition type.name name types).matches u (.invocation n) .forHook = true := by
  have hself : type.isA type.name true = true := by simp [ObjectType.isA, Text.namesAgree]
  have hagree := argumentsAgreeFrom_of_forall₂ harguments 0
  simp only [MethodMatcher.matches, ofDefinition, Site.isEnumSelection, Bool.not_false,
    Bool.true_and, hname, htype, Option.any_some, Selector.selects, List.contains_cons, BEq.rfl,
    Bool.true_or, Selector.selectsType, List.any_cons, MatchContext.forHook, hself,
    ParameterTypes.agree]
  exact hagree

/-! ## Declarations of a unit -/

/-- A declaration of a unit is listed under the text in its slot `name`. -/
theorem CompilationUnit.of_mem_declarations (h : (name, n) ∈ u.declarations) :
    (declarationKinds u.language).contains (u.tree.kind n) = true ∧
      ∃ c, u.tree.child? n "name" = some c ∧ u.tree.text c = name := by
  rw [u.declarations_eq] at h
  obtain ⟨declaration, -, h⟩ := List.mem_filterMap.mp h
  split at h
  · next hkind =>
    obtain ⟨c, hc, heq⟩ := Option.map_eq_some_iff.mp h
    cases heq
    exact ⟨hkind, c, hc, rfl⟩
  · cases h

namespace CompilationUnit

variable (u) in
/-- The arguments of a call whose types are known have the types that the parameters at their places
are declared with. -/
def ArgumentsFit (site : Site) (method : NodeId) : Prop :=
  ∀ place ∈ (u.methodParameters method).zip (u.parameterTypes site),
    ∀ declared ∈ u.declaredType? place.1, ∀ type ∈ place.2, type.name = declared.name

variable (u) in
/-- A call gives a method every parameter, and leaves none to its default value. -/
def GivesAll (site : Site) (method : NodeId) : Prop :=
  (u.arguments site).length = (u.methodParameters method).length

theorem length_parameterTypes (u : CompilationUnit) (site : Site) :
    (u.parameterTypes site).length = (u.arguments site).length := by
  rw [parameterTypes, arguments]
  cases u.language with
  | java => simp [Java.parameterTypes, Java.parameterTypesOf]
  | python => simp [Python.parameterTypes, Python.parameterTypesOf]

/-- The matcher of a method asks for as many arguments as the method has parameters. -/
theorem arity?_of_methodMatcher? {matcher : MethodMatcher} (h : u.methodMatcher? m = some matcher) :
    matcher.arity? = some (u.methodParameters m).length := by
  cases hlanguage : u.language with
  | java =>
    simp only [methodMatcher?, methodParameters, hlanguage] at h ⊢
    obtain ⟨owner, -, h⟩ := Option.bind_eq_some_iff.mp h
    dsimp only at h
    split at h <;>
    · obtain ⟨name, -, h⟩ := Option.bind_eq_some_iff.mp h
      cases h
      exact congrArg some (List.length_map _)
  | python =>
    simp only [methodMatcher?, methodParameters, hlanguage] at h ⊢
    obtain ⟨name, -, h⟩ := Option.bind_eq_some_iff.mp h
    dsimp only at h
    split at h <;>
    · obtain ⟨owner, -, h⟩ := Option.bind_eq_some_iff.mp h
      cases h
      exact congrArg some (List.length_map _)

/-- **Whatever matches the matcher of a method gives the method every parameter.** -/
theorem givesAll_of_matches {matcher : MethodMatcher} {site : Site} {context : MatchContext}
    (hmatcher : u.methodMatcher? m = some matcher)
    (h : matcher.matches u site context = true) : u.GivesAll site m :=
  (u.length_parameterTypes site).symm.trans
    (MethodMatcher.length_eq_of_matches h (arity?_of_methodMatcher? hmatcher))

end CompilationUnit

/-! ## Java -/

namespace Java

theorem isIn_of_typeNamed? (hlanguage : u.language = .java) (h : typeNamed? u name = some owner) :
    isIn u .typeDeclaration owner = true := by
  obtain ⟨before, after, heq, -⟩ := List.lookup_eq_some_iff.mp h
  have hmem : (Text.simpleName name, owner) ∈ u.declarations := by simp [heq]
  have hkind := (CompilationUnit.of_mem_declarations hmem).1
  rwa [hlanguage] at hkind

theorem IsUnder.enclosingType?_eq (h : IsUnder u owner n)
    (howner : isIn u .typeDeclaration owner = true) : enclosingType? u n = some owner := by
  obtain ⟨between, heq, hbetween⟩ := h
  exact SyntaxTree.find?_ancestors heq
    (fun a ha => (Bool.or_eq_false_iff.mp (hbetween a ha)).2) howner

/-- The type that has a member is the nearest one above it. -/
theorem enclosingType?_of_mem_typeMembers (hg : Grammatical u.tree)
    (howner : isIn u .typeDeclaration owner = true) (h : m ∈ typeMembers u owner) :
    enclosingType? u m = some owner := by
  refine IsUnder.enclosingType?_eq ?_ howner
  rw [typeMembers] at h
  split at h
  · cases h
  · next body hbody =>
    have hparent := (SyntaxTree.parent?_of_child? hbody).1
    have hplain := opensScope_of_not_declaration (hg.of_body hbody howner)
    split at h
    · -- the members of an enum are listed apart from its constants
      obtain ⟨members, hmem, h⟩ := List.mem_flatMap.mp h
      obtain ⟨hmem, hkind⟩ := List.mem_filter.mp hmem
      have hmembers : opensScope (u.tree.kind members) = false := by
        rw [beq_iff_eq.mp hkind]
        decide
      exact ((isUnder_of_parent? (SyntaxTree.parent?_of_mem_namedChildren h)).lift
        (SyntaxTree.parent?_of_mem_namedChildren hmem) hmembers).lift hparent hplain
    · exact (isUnder_of_parent? (SyntaxTree.parent?_of_mem_namedChildren h)).lift hparent hplain

/-- What dispatch needs a method of a type to be. -/
theorem of_methodInType? {arity : Nat} (h : methodInType? u name arity owner = some m) :
    m ∈ typeMembers u owner ∧ u.tree.kind m = "method_declaration" ∧
      (u.tree.child? m "name").map u.tree.text = some name ∧
      (methodParameters u m).length = arity := by
  have hfound := List.find?_some h
  simp only [Bool.and_eq_true, beq_iff_eq] at hfound
  obtain ⟨⟨hkind, hnamed⟩, harity⟩ := hfound
  obtain ⟨c, hc, htext⟩ := exists_of_isNamedAs hnamed
  exact ⟨List.mem_of_find?_eq_some h, hkind, by rw [hc, Option.map_some, htext], harity⟩

/-- A call is dispatched to a method of a type; and if it has a receiver, that is the type on which
the call acts. -/
theorem exists_owner_of_methodDefinition? (hlanguage : u.language = .java)
    (hsite : u.tree.kind n = "method_invocation")
    (h : methodDefinition? u (.invocation n) = some m) :
    ∃ owner name, isIn u .typeDeclaration owner = true ∧
      methodName? u (.invocation n) = some name ∧
      methodInType? u name (arguments u (.invocation n)).length owner = some m ∧
      (u.tree.child? n "object" ≠ none → ∃ type, invokedObjectType? u (.invocation n) = some type ∧
        type.name = (declaredObjectType u owner).name) := by
  simp only [methodDefinition?, methodDefinitionOf, methodDefinitionBy, Answer.bind_eq_bind,
    Answer.liftM_eq_ofOption, Answer.toOption_bind, Answer.toOption_ofOption] at h
  obtain ⟨name, hname, h⟩ := Option.bind_eq_some_iff.mp h
  split at h
  · next hobject =>
    rw [Answer.toOption_ofOption] at h
    obtain ⟨owner, hmem, hmethod⟩ := List.exists_of_findSome?_eq_some h
    exact ⟨owner, name, (List.mem_filter.mp hmem).2, hname, hmethod, fun hne => absurd hobject hne⟩
  · next object hobject =>
    split at h
    · next hthis =>
      rw [Answer.toOption_ofOption] at h
      obtain ⟨owner, howner, hmethod⟩ := Option.bind_eq_some_iff.mp h
      refine ⟨owner, name, isIn_of_enclosingType? howner, hname, hmethod, fun _ =>
        ⟨declaredObjectType u owner, ?_, rfl⟩⟩
      -- the call lies between `this` and the type
      have hcall : isIn u .typeDeclaration n = false := by
        rw [isIn, hsite]
        decide
      have hsame : enclosingType? u object = enclosingType? u n := by
        have hup := SyntaxTree.ancestors_of_parent? (SyntaxTree.parent?_of_child? hobject).1
        rw [enclosingType?, hup, List.find?_cons_of_neg (Bool.eq_false_iff.mp hcall),
          enclosingType?]
      simp [invokedObjectType?, invokedObjectTypeOf, hobject, receiverTypeBy, hthis, hsame, howner]
    · simp only [Answer.toOption_bind, Answer.toOption_ofOption] at h
      obtain ⟨type, htype, h⟩ := Option.bind_eq_some_iff.mp h
      obtain ⟨owner, howner, h⟩ := Option.bind_eq_some_iff.mp h
      split at h
      · next hguard =>
        refine ⟨owner, name, isIn_of_typeNamed? hlanguage howner, hname, ?_, fun _ =>
          ⟨type, ?_, hguard.symm⟩⟩
        · simpa using h
        · simpa [invokedObjectType?, invokedObjectTypeOf, hobject] using htype
      · cases h

variable (u) in
/-- A call without a receiver is of a method of the nearest type above it, not of one outside
that. -/
def IsDirect (n m : NodeId) : Prop :=
  u.tree.child? n "object" = none → enclosingType? u m = enclosingType? u n

/-- Arguments that fit agree with the types that the matcher of a method asks for. -/
theorem forall₂_argumentAgrees (hlanguage : u.language = .java) {site : Site}
    (hall : u.GivesAll site m) (hfit : u.ArgumentsFit site m) :
    List.Forall₂ (fun wanted found => argumentAgrees wanted found true = true)
      ((methodParameters u m).map fun p => ((declaredType? u p).map (·.name)).getD anything)
      (u.parameterTypes site) := by
  rw [CompilationUnit.GivesAll, ← u.length_parameterTypes] at hall
  simp only [CompilationUnit.ArgumentsFit, CompilationUnit.methodParameters,
    CompilationUnit.declaredType?, hlanguage] at hall hfit
  rw [List.forall₂_map_left_iff, List.forall₂_iff_zip]
  refine ⟨hall.symm, fun {p found} hplace => ?_⟩
  rw [argumentAgrees]
  cases hdeclared : declaredType? u p with
  | none => rfl
  | some declared =>
    cases found with
    | none => simp
    | some argument =>
      have hsame := hfit _ hplace declared hdeclared argument rfl
      simp [ObjectType.isA, Text.namesAgree, hsame]

/-- **A Java call matches the method that it is dispatched to**, and gives it every parameter. -/
theorem exists_methodMatcher? (hlanguage : u.language = .java) (hg : Grammatical u.tree)
    (hsite : u.tree.kind n = "method_invocation")
    (h : methodDefinition? u (.invocation n) = some m) :
    u.GivesAll (.invocation n) m ∧ ∃ matcher, methodMatcher? u m = some matcher ∧
      (u.ArgumentsFit (.invocation n) m → IsDirect u n m →
        matcher.matches u (.invocation n) .forHook = true) := by
  obtain ⟨owner, name, howner, hname, hmethod, hreceiver⟩ :=
    exists_owner_of_methodDefinition? hlanguage hsite h
  obtain ⟨hmember, hkind, hnamed, harity⟩ := of_methodInType? hmethod
  have henclosing := enclosingType?_of_mem_typeMembers hg howner hmember
  let types := (methodParameters u m).map fun p =>
    ((declaredType? u p).map (·.name)).getD anything
  have hmatcher : methodMatcher? u m =
      some (.ofDefinition (declaredObjectType u owner).name name types) := by
    simp only [methodMatcher?, henclosing, hkind, hnamed, Option.bind_eq_bind, Option.bind_some,
      Option.pure_def, types]
    rfl
  have hall : u.GivesAll (.invocation n) m := by
    simpa only [CompilationUnit.GivesAll, CompilationUnit.arguments,
      CompilationUnit.methodParameters, hlanguage] using harity.symm
  refine ⟨hall, _, hmatcher, fun hfit hdirect => ?_⟩
  obtain ⟨type, htype, htypename⟩ : ∃ type, invokedObjectType? u (.invocation n) = some type ∧
      type.name = (declaredObjectType u owner).name := by
    cases hobject : u.tree.child? n "object" with
    | some object => exact hreceiver (by rw [hobject]; nofun)
    | none =>
      refine ⟨declaredObjectType u owner, ?_, rfl⟩
      simp [invokedObjectType?, invokedObjectTypeOf, hobject, ← hdirect hobject, henclosing]
  rw [← htypename]
  refine MethodMatcher.matches_ofDefinition ?_ ?_ (forall₂_argumentAgrees hlanguage hall hfit)
  · simpa only [CompilationUnit.methodName?, hlanguage] using hname
  · simpa only [CompilationUnit.invokedObjectType?, hlanguage] using htype

end Java

/-! ## Python -/

namespace Python

/-- What is found as the definition of a name. -/
theorem of_definitionNamed? {kind : String} {holder : Option NodeId}
    (h : definitionNamed? u name kind holder = some n) :
    u.tree.kind n = kind ∧ enclosingClass? u n = holder ∧
      (u.tree.child? n "name").map u.tree.text = some name := by
  obtain ⟨⟨declared, declaration⟩, hfound, rfl⟩ := Option.map_eq_some_iff.mp h
  have hmem := List.mem_of_find?_eq_some hfound
  have hfound := List.find?_some hfound
  simp only [Bool.and_eq_true, beq_iff_eq] at hfound
  obtain ⟨⟨rfl, hkind⟩, hholder⟩ := hfound
  obtain ⟨c, hc, htext⟩ := (CompilationUnit.of_mem_declarations hmem).2
  exact ⟨hkind, hholder, by rw [hc, Option.map_some, htext]⟩

/-- A method is inside a class. -/
theorem exists_enclosingClass?_of_isMethod (h : isMethod u m = true) :
    ∃ owner, enclosingClass? u m = some owner := by
  obtain ⟨c, hmem, hkind⟩ : ∃ c ∈ u.tree.ancestors m, u.tree.kind c = "class_definition" := by
    obtain ⟨c, hc, hkind⟩ := Option.map_eq_some_iff.mp (beq_iff_eq.mp h)
    obtain ⟨holder, hholder, hc⟩ := Option.bind_eq_some_iff.mp hc
    refine ⟨c, ?_, hkind⟩
    split at hholder
    · -- with decorators
      obtain ⟨decorated, hdecorated, hholder⟩ := Option.bind_eq_some_iff.mp hholder
      simp [SyntaxTree.ancestors_of_parent? hdecorated, SyntaxTree.ancestors_of_parent? hholder,
        SyntaxTree.ancestors_of_parent? hc]
    · simp [SyntaxTree.ancestors_of_parent? hholder, SyntaxTree.ancestors_of_parent? hc]
  exact Option.isSome_iff_exists.mp (List.find?_isSome.mpr ⟨c, hmem, beq_iff_eq.mpr hkind⟩)

/-- A call by a name is dispatched to the function of that name that is in no class; a call on an
object is dispatched to a function in the class of the object. -/
theorem exists_callee_of_methodDefinition? (h : methodDefinition? u (.invocation n) = some m) :
    ∃ name callee, methodName? u (.invocation n) = some name ∧
      u.tree.child? n "function" = some callee ∧
      (u.tree.child? m "name").map u.tree.text = some name ∧
      (u.tree.kind callee = "identifier" ∧ u.imports.binds name = false ∧
          definitionNamed? u name "function_definition" none = some m ∨
        u.tree.kind callee = "attribute" ∧ ∃ object owner,
          u.tree.child? callee "object" = some object ∧ ownerClass? u n object = some owner ∧
          enclosingClass? u m = some owner) := by
  obtain ⟨name, hname, h⟩ := Option.bind_eq_some_iff.mp h
  obtain ⟨callee, hcallee, h⟩ := Option.bind_eq_some_iff.mp h
  have haccepted {definition : NodeId}
      (h : (do guard (acceptsArity u definition (arguments u (.invocation n)).length)
               return definition) = some m) : definition = m := by
    obtain ⟨_, -, h⟩ := Option.bind_eq_some_iff.mp h
    exact Option.some.inj h
  dsimp only at h
  split at h
  · next hkind =>
    split at h
    · cases h
    · next hbinds =>
      obtain ⟨definition, hdefinition, h⟩ := Option.bind_eq_some_iff.mp h
      obtain rfl := haccepted h
      exact ⟨name, callee, hname, hcallee, (of_definitionNamed? hdefinition).2.2,
        .inl ⟨hkind, Bool.eq_false_iff.mpr hbinds, hdefinition⟩⟩
  · next hkind =>
    obtain ⟨object, hobject, h⟩ := Option.bind_eq_some_iff.mp h
    obtain ⟨owner, howner, h⟩ := Option.bind_eq_some_iff.mp h
    obtain ⟨definition, hdefinition, h⟩ := Option.bind_eq_some_iff.mp h
    obtain rfl := haccepted h
    obtain ⟨-, hclass, hnamed⟩ := of_definitionNamed? hdefinition
    exact ⟨name, callee, hname, hcallee, hnamed,
      .inr ⟨hkind, object, owner, hobject, howner, hclass⟩⟩
  · cases h

/-- A call by the name of a function acts on the module, unless a variable has the name. -/
theorem invokedObjectType?_of_name (hg : Grammatical u.tree) {callee : NodeId}
    (hcallee : u.tree.child? n "function" = some callee)
    (hkind : u.tree.kind callee = "identifier") (hvisible : resolveIdentifier? u callee = none)
    (himport : u.imports.binds (u.tree.text callee) = false)
    (hdefinition : definitionNamed? u (u.tree.text callee) "function_definition" none = some m) :
    invokedObjectType? u (.invocation n) = some { name := u.moduleName } := by
  have hlt : callee < u.tree.size := u.tree.lt_size_of_kind_ne (by rw [hkind]; decide)
  have hpath : dottedPath? u callee = some (u.moduleName ++ "." ++ u.tree.text callee) := by
    obtain ⟨height, hheight⟩ : ∃ height, u.tree.size = height + 1 :=
      Nat.exists_eq_add_one_of_ne_zero (Nat.ne_zero_of_lt hlt)
    have hget : u.imports.get? (u.tree.text callee) = none := by
      simpa [Imports.binds] using himport
    simp [dottedPath?, hheight, dottedPathWithin?, hkind, hvisible, hget, hdefinition]
  have hsplit : Text.splitQualified? (u.moduleName ++ "." ++ u.tree.text callee) =
      some (u.moduleName, u.tree.text callee) := by
    have hlast : Text.splitLast? '.' (u.moduleName ++ "." ++ u.tree.text callee).toList =
        some (u.moduleName.toList, (u.tree.text callee).toList) :=
      Text.splitLast?_eq_some_iff.mpr ⟨by simp, hg.identifier callee hlt hkind⟩
    simp only [Text.splitQualified?, hlast, Option.map_some, String.ofList_toList]
  simp [invokedObjectType?, invokedObjectTypeOf, invokedObjectTypeBy, hcallee, hkind, hpath, hsplit]

/-- A call on an object acts on the class in which dispatch looks for the function. -/
theorem invokedObjectType?_of_ownerClass? {callee object : NodeId}
    (hcallee : u.tree.child? n "function" = some callee)
    (hkind : u.tree.kind callee = "attribute")
    (hobject : u.tree.child? callee "object" = some object)
    (howner : ownerClass? u n object = some owner) :
    ∃ type, invokedObjectType? u (.invocation n) = some type ∧
      type.name = (classType u owner).name := by
  rw [ownerClass?] at howner
  split at howner
  · next hself =>
    refine ⟨classType u owner, ?_, rfl⟩
    simp [invokedObjectType?, invokedObjectTypeOf, invokedObjectTypeBy, hcallee, hkind, hobject,
      receiverTypeBy, hself.1, hself.2, howner]
  · obtain ⟨type, htype, howner⟩ := Option.bind_eq_some_iff.mp howner
    obtain ⟨rest, hrest, howner⟩ := Option.bind_eq_some_iff.mp howner
    obtain ⟨-, -, hnamed⟩ := of_definitionNamed? howner
    refine ⟨type, htype, String.toList_inj.mp ?_⟩
    rw [Text.dropPrefix?_eq_some_iff.mp hrest]
    simp [classType, hnamed]

variable (u) in
/-- A call means the function that it looks to mean. -/
structure IsDirect (n m : NodeId) : Prop where
  /-- No variable has the name by which the function is called. -/
  visible : ∀ callee, u.tree.child? n "function" = some callee →
    u.tree.kind callee = "identifier" → resolveIdentifier? u callee = none
  /-- What is called on an object stands directly in the body of a class. -/
  method : ∀ callee, u.tree.child? n "function" = some callee →
    u.tree.kind callee = "attribute" → isMethod u m = true

/-- The matcher of a function asks for its name, its class or module, and any arguments. -/
theorem methodMatcher?_eq {holder : String}
    (hname : (u.tree.child? m "name").map u.tree.text = some name)
    (hholder : (if isMethod u m then (enclosingClass? u m).map fun c => (classType u c).name
      else some u.moduleName) = some holder) :
    methodMatcher? u m =
      some (.ofDefinition holder name ((methodParameters u m).map fun _ => anything)) := by
  rw [methodMatcher?, hname]
  split at hholder
  · next hmethod =>
    simp only [hmethod, if_true, hholder, Option.bind_eq_bind, Option.bind_some, Option.pure_def]
  · next hmethod =>
    cases hholder
    simp only [hmethod, Option.bind_eq_bind, Option.bind_some, Option.pure_def]
    rfl

/-- **A Python call that gives every parameter matches the function that it is dispatched to.** -/
theorem exists_methodMatcher? (hlanguage : u.language = .python) (hg : Grammatical u.tree)
    (h : methodDefinition? u (.invocation n) = some m) :
    ∃ matcher, methodMatcher? u m = some matcher ∧
      (u.GivesAll (.invocation n) m → IsDirect u n m →
        matcher.matches u (.invocation n) .forHook = true) := by
  obtain ⟨name, callee, hname, hcallee, hnamed, hcase⟩ := exists_callee_of_methodDefinition? h
  obtain ⟨holder, hholder⟩ : ∃ holder,
      (if isMethod u m then (enclosingClass? u m).map fun c => (classType u c).name
        else some u.moduleName) = some holder := by
    split
    · next hmethod =>
      obtain ⟨owner, howner⟩ := exists_enclosingClass?_of_isMethod hmethod
      exact ⟨_, by rw [howner, Option.map_some]⟩
    · exact ⟨_, rfl⟩
  refine ⟨_, methodMatcher?_eq hnamed hholder, fun hall hdirect => ?_⟩
  obtain ⟨type, htype, rfl⟩ : ∃ type, invokedObjectType? u (.invocation n) = some type ∧
      type.name = holder := by
    rcases hcase with
      ⟨hkind, himport, hdefinition⟩ | ⟨hkind, object, owner, hobject, howner, hclass⟩
    · obtain rfl : u.tree.text callee = name := by
        simpa [methodName?, hcallee, hkind] using hname
      refine ⟨_, invokedObjectType?_of_name hg hcallee hkind (hdirect.visible callee hcallee hkind)
        himport hdefinition, ?_⟩
      have hfunction : isMethod u m = false := Bool.eq_false_iff.mpr fun hmethod => by
        obtain ⟨owner, howner⟩ := exists_enclosingClass?_of_isMethod hmethod
        rw [(of_definitionNamed? hdefinition).2.1] at howner
        cases howner
      simpa [hfunction] using hholder
    · obtain ⟨type, htype, htypename⟩ :=
        invokedObjectType?_of_ownerClass? hcallee hkind hobject howner
      refine ⟨type, htype, htypename.trans ?_⟩
      simpa [hdirect.method callee hcallee hkind, hclass] using hholder
  refine MethodMatcher.matches_ofDefinition ?_ ?_ ?_
  · simpa only [CompilationUnit.methodName?, hlanguage] using hname
  · simpa only [CompilationUnit.invokedObjectType?, hlanguage] using htype
  · rw [CompilationUnit.GivesAll, ← u.length_parameterTypes] at hall
    simp only [CompilationUnit.methodParameters, hlanguage] at hall
    rw [List.forall₂_map_left_iff, List.forall₂_iff_zip]
    exact ⟨hall.symm, fun _ => by simp [argumentAgrees]⟩

end Python

/-! ## Both languages -/

namespace CompilationUnit

variable (u) in
/-- A call means the method that it looks to mean: nothing nearer to it has a claim to the name. -/
def IsDirect (n m : NodeId) : Prop :=
  match u.language with
  | .java => Java.IsDirect u n m
  | .python => Python.IsDirect u n m

/-- **A call that gives every parameter matches the method that it is dispatched to.**  In Java
every call gives every parameter of the method that it is dispatched to.  The method has a matcher;
and if the call is a direct one, and the types of its arguments, where both they and those of the
parameters are known, are those of the parameters, then the matcher matches it, in the strict way
that hooks ask for, exactly if it gives every parameter. -/
theorem dispatched_calls_match (hg : u.Grammatical) {n m : NodeId}
    (hsite : u.site? n = some (.invocation n))
    (h : u.methodDefinition? (.invocation n) = some m) :
    (u.language = .java → u.GivesAll (.invocation n) m) ∧
      ∃ matcher, u.methodMatcher? m = some matcher ∧
        ((u.language = .java → u.ArgumentsFit (.invocation n) m) → u.IsDirect n m →
          (matcher.matches u (.invocation n) .forHook = true ↔ u.GivesAll (.invocation n) m)) := by
  cases hlanguage : u.language with
  | java =>
    have hmethod : Java.methodDefinition? u (.invocation n) = some m := by
      simpa only [methodDefinition?, hlanguage] using h
    simp only [Grammatical, site?, hlanguage] at hg hsite
    have hkind : u.tree.kind n = "method_invocation" := by
      rw [Java.site?] at hsite
      split at hsite
      · next hkind => exact hkind
      · cases hsite
      · obtain ⟨_, -, heq⟩ := Option.map_eq_some_iff.mp hsite
        cases heq
      · cases hsite
    obtain ⟨hall, matcher, hmatcher, hmatches⟩ :=
      Java.exists_methodMatcher? hlanguage hg hkind hmethod
    have hmatcher' : u.methodMatcher? m = some matcher := by
      simpa only [methodMatcher?, hlanguage] using hmatcher
    refine ⟨fun _ => hall, matcher, hmatcher', fun hfit hdirect =>
      ⟨givesAll_of_matches hmatcher', fun _ => hmatches (hfit rfl) ?_⟩⟩
    simpa only [IsDirect, hlanguage] using hdirect
  | python =>
    have hmethod : Python.methodDefinition? u (.invocation n) = some m := by
      simpa only [methodDefinition?, hlanguage] using h
    simp only [Grammatical, hlanguage] at hg
    obtain ⟨matcher, hmatcher, hmatches⟩ := Python.exists_methodMatcher? hlanguage hg hmethod
    have hmatcher' : u.methodMatcher? m = some matcher := by
      simpa only [methodMatcher?, hlanguage] using hmatcher
    refine ⟨nofun, matcher, hmatcher', fun _ hdirect =>
      ⟨givesAll_of_matches hmatcher', fun hall => hmatches hall ?_⟩⟩
    simpa only [IsDirect, hlanguage] using hdirect

end CompilationUnit

/-! ### A parameter with a default value

The first call leaves it out, the second one gives it.

    def f(a, b=1):
        g(a)
    f(2)
    f(2, 3)
-/

namespace Defaulted

/-- The nodes of the program. -/
def nodes : Array SyntaxNode := #[
  ⟨none, "module", true, none, ⟨1, 1, 0, 37⟩, "def f(a, b=1):\n    g(a)\nf(2)\nf(2, 3)\n"⟩,
  ⟨some 0, "function_definition", true, none, ⟨1, 1, 0, 23⟩, "def f(a, b=1):\n    g(a)"⟩,
  ⟨some 1, "def", false, none, ⟨1, 1, 0, 3⟩, "def"⟩,
  ⟨some 1, "identifier", true, some "name", ⟨1, 5, 4, 5⟩, "f"⟩,
  ⟨some 1, "parameters", true, some "parameters", ⟨1, 6, 5, 13⟩, "(a, b=1)"⟩,
  ⟨some 4, "(", false, none, ⟨1, 6, 5, 6⟩, "("⟩,
  ⟨some 4, "identifier", true, none, ⟨1, 7, 6, 7⟩, "a"⟩,
  ⟨some 4, ",", false, none, ⟨1, 8, 7, 8⟩, ","⟩,
  ⟨some 4, "default_parameter", true, none, ⟨1, 10, 9, 12⟩, "b=1"⟩,
  ⟨some 8, "identifier", true, some "name", ⟨1, 10, 9, 10⟩, "b"⟩,
  ⟨some 8, "=", false, none, ⟨1, 11, 10, 11⟩, "="⟩,
  ⟨some 8, "integer", true, some "value", ⟨1, 12, 11, 12⟩, "1"⟩,
  ⟨some 4, ")", false, none, ⟨1, 13, 12, 13⟩, ")"⟩,
  ⟨some 1, ":", false, none, ⟨1, 14, 13, 14⟩, ":"⟩,
  ⟨some 1, "block", true, some "body", ⟨2, 5, 19, 23⟩, "g(a)"⟩,
  ⟨some 14, "expression_statement", true, none, ⟨2, 5, 19, 23⟩, "g(a)"⟩,
  ⟨some 15, "call", true, none, ⟨2, 5, 19, 23⟩, "g(a)"⟩,
  ⟨some 16, "identifier", true, some "function", ⟨2, 5, 19, 20⟩, "g"⟩,
  ⟨some 16, "argument_list", true, some "arguments", ⟨2, 6, 20, 23⟩, "(a)"⟩,
  ⟨some 18, "(", false, none, ⟨2, 6, 20, 21⟩, "("⟩,
  ⟨some 18, "identifier", true, none, ⟨2, 7, 21, 22⟩, "a"⟩,
  ⟨some 18, ")", false, none, ⟨2, 8, 22, 23⟩, ")"⟩,
  ⟨some 0, "expression_statement", true, none, ⟨3, 1, 24, 28⟩, "f(2)"⟩,
  ⟨some 22, "call", true, none, ⟨3, 1, 24, 28⟩, "f(2)"⟩,
  ⟨some 23, "identifier", true, some "function", ⟨3, 1, 24, 25⟩, "f"⟩,
  ⟨some 23, "argument_list", true, some "arguments", ⟨3, 2, 25, 28⟩, "(2)"⟩,
  ⟨some 25, "(", false, none, ⟨3, 2, 25, 26⟩, "("⟩,
  ⟨some 25, "integer", true, none, ⟨3, 3, 26, 27⟩, "2"⟩,
  ⟨some 25, ")", false, none, ⟨3, 4, 27, 28⟩, ")"⟩,
  ⟨some 0, "expression_statement", true, none, ⟨4, 1, 29, 36⟩, "f(2, 3)"⟩,
  ⟨some 29, "call", true, none, ⟨4, 1, 29, 36⟩, "f(2, 3)"⟩,
  ⟨some 30, "identifier", true, some "function", ⟨4, 1, 29, 30⟩, "f"⟩,
  ⟨some 30, "argument_list", true, some "arguments", ⟨4, 2, 30, 36⟩, "(2, 3)"⟩,
  ⟨some 32, "(", false, none, ⟨4, 2, 30, 31⟩, "("⟩,
  ⟨some 32, "integer", true, none, ⟨4, 3, 31, 32⟩, "2"⟩,
  ⟨some 32, ",", false, none, ⟨4, 4, 32, 33⟩, ","⟩,
  ⟨some 32, "integer", true, none, ⟨4, 6, 34, 35⟩, "3"⟩,
  ⟨some 32, ")", false, none, ⟨4, 7, 35, 36⟩, ")"⟩]

/-- The unit with the program. -/
def unit : CompilationUnit where
  language := .python
  filePath := "m.py"
  tree := { nodes, parent_lt := by decide +kernel }

/-- The function. -/
def f : NodeId := 1

/-- The call that leaves the second parameter to its default value. -/
def short : NodeId := 23

/-- The call that gives both parameters. -/
def full : NodeId := 30

end Defaulted

namespace CompilationUnit

set_option maxRecDepth 100000 in
/-- The call that gives both parameters matches the function. -/
theorem full_call_matches :
    Defaulted.unit.Grammatical ∧
      Defaulted.unit.site? Defaulted.full = some (.invocation Defaulted.full) ∧
      Defaulted.unit.methodDefinition? (.invocation Defaulted.full) = some Defaulted.f ∧
      Defaulted.unit.GivesAll (.invocation Defaulted.full) Defaulted.f ∧
      Defaulted.unit.IsDirect Defaulted.full Defaulted.f ∧
      ∃ matcher, Defaulted.unit.methodMatcher? Defaulted.f = some matcher ∧
        matcher.matches Defaulted.unit (.invocation Defaulted.full) .forHook = true := by
  have hg : Defaulted.unit.Grammatical := by decide +kernel
  have hsite : Defaulted.unit.site? Defaulted.full = some (.invocation Defaulted.full) := by
    decide +kernel
  have hdefinition : Defaulted.unit.methodDefinition? (.invocation Defaulted.full) =
      some Defaulted.f := by decide +kernel
  have hall : Defaulted.unit.GivesAll (.invocation Defaulted.full) Defaulted.f := by
    rw [GivesAll]
    decide +kernel
  have hcallee : Defaulted.unit.tree.child? Defaulted.full "function" = some 31 := by
    decide +kernel
  have hdirect : Defaulted.unit.IsDirect Defaulted.full Defaulted.f := by
    refine ⟨fun callee h _ => ?_, fun callee h hkind => ?_⟩
    · cases hcallee.symm.trans h
      decide +kernel
    · cases hcallee.symm.trans h
      exact absurd hkind (by decide +kernel)
  obtain ⟨-, matcher, hmatcher, hmatches⟩ := dispatched_calls_match hg hsite hdefinition
  exact ⟨hg, hsite, hdefinition, hall, hdirect, matcher, hmatcher,
    (hmatches nofun hdirect).mpr hall⟩

set_option maxRecDepth 100000 in
/-- The call that leaves a parameter to its default value is dispatched to the function and does not
match it. -/
theorem not_all_dispatched_calls_match :
    ¬ ∀ u : CompilationUnit, u.Grammatical → ∀ n m, u.site? n = some (.invocation n) →
      u.methodDefinition? (.invocation n) = some m →
      (u.language = .java → u.ArgumentsFit (.invocation n) m) →
      ∃ matcher, u.methodMatcher? m = some matcher ∧
        matcher.matches u (.invocation n) .forHook = true := by
  intro h
  obtain ⟨matcher, hmatcher, hmatches⟩ := h Defaulted.unit (by decide +kernel) Defaulted.short
    Defaulted.f (by decide +kernel) (by decide +kernel) nofun
  have hall := givesAll_of_matches hmatcher hmatches
  rw [GivesAll] at hall
  exact absurd hall (by decide +kernel)

end CompilationUnit

end CryptoUsage
