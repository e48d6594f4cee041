import ByteScan.Condition.Basic
import ByteScan.Pattern.Basic
import ByteScan.RuleSet.External

/-!
# Rule declarations

What a rule set is compiled from: rules with their strings and conditions by name, in the order in
which they are declared, and the defaults of external variables.
-/

namespace ByteScan

inductive PatternDecl where
  | text (text : String)
  | hex (source : String)
  | regex (source : String)
  deriving DecidableEq, Repr, Inhabited

structure StringDecl where
  identifier : String
  pattern : PatternDecl
  modifiers : Modifiers
  deriving DecidableEq, Repr, Inhabited

structure RuleDecl where
  name : String
  /-- The name of its namespace, if it is not the one in force. -/
  space : Option String
  isPrivate : Bool
  /-- Every rule of its namespace is void where it does not match. -/
  isGlobal : Bool
  tags : List String
  strings : List StringDecl
  condition : Condition
  deriving DecidableEq, Repr, Inhabited

inductive ExternalDefault where
  | boolean (value : Bool)
  | integer (value : Int64)
  | float (value : Binary64)
  | text (value : String)
  deriving DecidableEq, Repr, Inhabited

def ExternalDefault.value : ExternalDefault → ExternalValue
  | .boolean value => .boolean value
  | .integer value => .integer value
  | .float value => .float value
  | .text written => .string written.toUTF8.toList false

structure ExternalDecl where
  name : String
  value : ExternalDefault
  deriving DecidableEq, Repr, Inhabited

def ExternalDecl.external (decl : ExternalDecl) : External := ⟨decl.name, decl.value.value⟩

structure RuleSetDecl where
  externals : List ExternalDecl
  rules : List RuleDecl
  deriving DecidableEq, Repr, Inhabited

def defaultSpace : String := "default"

/-- What is to be compiled: external variables, and rules with the names of their namespaces. -/
structure Collection where
  space : String := defaultSpace
  externals : List External := []
  rules : List (String × RuleDecl) := []
  deriving DecidableEq, Repr, Inhabited

namespace Collection

def enter (collection : Collection) (space : String) : Collection := { collection with space }

def define (collection : Collection) (name : String) (value : ExternalValue) : Collection :=
  { collection with externals := collection.externals ++ [⟨name, value⟩] }

/-- Adds a rule to the namespace that it names, or to the one in force. -/
def add (collection : Collection) (rule : RuleDecl) : Collection :=
  { collection with rules := collection.rules ++ [(rule.space.getD collection.space, rule)] }

def ofDecl (decl : RuleSetDecl) : Collection where
  externals := decl.externals.map ExternalDecl.external
  rules := decl.rules.map fun rule => (rule.space.getD defaultSpace, rule)

end Collection

end ByteScan
