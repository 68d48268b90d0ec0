import CryptoUsage.FrontEnd.JavaTypes
import CryptoUsage.FrontEnd.PythonTypes

/-!
# What can be asked of a unit

The analysis knows nothing of grammars.  It asks a unit for sites, names, types, variables and
definitions, and the unit answers by the rules of its language.  This file is the whole list of
questions.

## What is here

Each question is one definition that hands on to the adapter of the language of the unit.  So a
question has two answers to it, one for each language, and everything after this file is written
once.

* Sites: which nodes are sites, their arguments, receivers and names, the type on which they act
  and the types of their arguments.  For types there is both the answer to the question and what
  is known in the end.
* Expressions and variables: shapes, the variable that takes the value of an expression, what a
  variable is initialized with and assigned, its declared type and its scope.
* Methods: the method around a node, its parameters and what it returns, the definition that a
  site invokes, the matcher for the calls of a method, and the position of a parameter.
* Enums: those that the unit declares, the arguments of their constants and the parameters of
  their constructors.  Python has none.
-/

set_option autoImplicit false

namespace CryptoUsage
namespace CompilationUnit

variable (u : CompilationUnit)

/-! ## Sites -/

/-- The site that a node is. -/
def site? (n : NodeId) : Option Site :=
  match u.language with
  | .java => Java.site? u n
  | .python => Python.site? u n

/-- Every site of a subtree, in pre-order. -/
def sitesIn (scope : NodeId) : List Site := (u.tree.preorder scope).filterMap u.site?

/-- The arguments of a site. -/
def arguments (site : Site) : List NodeId :=
  match u.language with
  | .java => Java.arguments u site
  | .python => Python.arguments u site

/-- What a method is invoked on. -/
def receiver? (site : Site) : Option NodeId :=
  match u.language with
  | .java => Java.receiver? u site
  | .python => Python.receiver? u site

/-- The name of the method that a site invokes; constructors are called `constructorName`. -/
def methodName? (site : Site) : Option String :=
  match u.language with
  | .java => Java.methodName? u site
  | .python => Python.methodName? u site

/-- The answer to the question for the type on which a site acts. -/
def invokedObjectTypeOf (site : Site) : Answer ObjectType :=
  match u.language with
  | .java => Java.invokedObjectTypeOf u site
  | .python => Python.invokedObjectTypeOf u site

/-- The answers to the questions for the types of the arguments of a site. -/
def parameterTypesOf (site : Site) : List (Answer ObjectType) :=
  match u.language with
  | .java => Java.parameterTypesOf u site
  | .python => Python.parameterTypesOf u site

/-- The type on which a site acts, where it is known. -/
def invokedObjectType? (site : Site) : Option ObjectType :=
  match u.language with
  | .java => Java.invokedObjectType? u site
  | .python => Python.invokedObjectType? u site

/-- The types of the arguments of a site, where they are known. -/
def parameterTypes (site : Site) : List (Option ObjectType) :=
  match u.language with
  | .java => Java.parameterTypes u site
  | .python => Python.parameterTypes u site

/-- The full name of the enum of which a site selects a constant. -/
def enumClassName? (site : Site) : Option String :=
  match u.language with
  | .java => Java.enumClassName? u site
  | .python => none

/-- The name of the constant that a site selects. -/
def enumConstantName? (site : Site) : Option String :=
  match u.language with
  | .java => Java.enumConstantName? u site
  | .python => none

/-! ## Expressions and variables -/

/-- The shape of an expression. -/
def expression (n : NodeId) : Expression :=
  match u.language with
  | .java => Java.expression u n
  | .python => Python.expression u n

/-- The name that an expression ends in. -/
def identifierText? (n : NodeId) : Option String :=
  match u.language with
  | .java => Java.identifierText? u n
  | .python => Python.identifierText? u n

/-- The variable that takes the value of an expression. -/
def assignedSymbol? (n : NodeId) : Option Symbol :=
  match u.language with
  | .java => Java.assignedSymbol? u n
  | .python => Python.assignedSymbol? u n

/-- The expression that a variable is declared with. -/
def initializer? (s : Symbol) : Option NodeId :=
  match u.language with
  | .java => Java.initializer? u s
  | .python => Python.initializer? u s

/-- The values that later plain assignments give to a variable, in order. -/
def assignments (s : Symbol) : List NodeId :=
  match u.language with
  | .java => Java.assignments u s
  | .python => Python.assignments u s

/-- The declared type of a variable. -/
def declaredType? (s : Symbol) : Option ObjectType :=
  match u.language with
  | .java => Java.declaredType? u s
  | .python => Python.declaredType? u s

/-- The subtree in which a variable can be used. -/
def symbolScope (s : Symbol) : NodeId :=
  match u.language with
  | .java => Java.symbolScope u s
  | .python => Python.symbolScope u s

/-! ## Methods -/

/-- The nearest method above a node. -/
def enclosingMethod? (n : NodeId) : Option NodeId :=
  match u.language with
  | .java => Java.enclosingMethod? u n
  | .python => Python.enclosingMethod? u n

/-- The nearest method above a node, or else the nearest type, or else the whole unit. -/
def enclosingScope (n : NodeId) : NodeId :=
  match u.language with
  | .java => Java.enclosingScope u n
  | .python => Python.enclosingScope u n

/-- The parameters of a method that its callers give, in order. -/
def methodParameters (method : NodeId) : List Symbol :=
  match u.language with
  | .java => Java.methodParameters u method
  | .python => Python.methodParameters u method

/-- The expressions that a method returns. -/
def methodReturns (method : NodeId) : List NodeId :=
  match u.language with
  | .java => Java.methodReturns u method
  | .python => Python.methodReturns u method

/-- The method of the unit that a site invokes. -/
def methodDefinition? (site : Site) : Option NodeId :=
  match u.language with
  | .java => Java.methodDefinition? u site
  | .python => Python.methodDefinition? u site

/-- The matcher for the calls of a method. -/
def methodMatcher? (method : NodeId) : Option MethodMatcher :=
  match u.language with
  | .java => Java.methodMatcher? u method
  | .python => Python.methodMatcher? u method

/-- The method that declares a parameter, and the position of the parameter. -/
def parameterPosition? (s : Symbol) : Option (NodeId × Nat) := do
  let method ← u.enclosingMethod? s.declaration
  let position ← (u.methodParameters method).findIdx? fun p => p.same s
  return (method, position)

/-! ## Enums -/

/-- The enum that the unit declares under a name. -/
def enumNamed? (name : String) : Option NodeId :=
  match u.language with
  | .java => Java.enumNamed? u name
  | .python => none

/-- The arguments that an enum constant passes to its constructor. -/
def enumConstantArguments (constant : NodeId) : List NodeId :=
  match u.language with
  | .java => Java.enumConstantArguments u constant
  | .python => []

/-- The names of the parameters of each constructor of an enum. -/
def enumConstructorParameters (declaration : NodeId) : List (List String) :=
  match u.language with
  | .java => Java.enumConstructorParameters u declaration
  | .python => []

/-- The name of an enum constant. -/
def constantName (constant : NodeId) : String :=
  match u.language with
  | .java => Java.constantName u constant
  | .python => u.tree.text constant

end CompilationUnit
end CryptoUsage
