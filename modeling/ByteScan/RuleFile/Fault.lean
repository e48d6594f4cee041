import ByteScan.Regex.Syntax

/-!
# Faults of compiled rule files

A compiled rule file that is cut off, damaged or made up is refused with the first thing that is
wrong with it.
-/

namespace ByteScan.RuleFile

inductive Part where
  | header
  | spaces | spaceName
  | rules | ruleIdentifier | ruleSpace | ruleFlags | ruleStrings | ruleString | ruleTags | ruleTag
  | strings | stringIdentifier | stringRule | stringModifiers | stringKind
  | textBytes | hexBytes | hexMask | regexSource
  | externals | externalIdentifier | externalKind | externalValue
  | cells | heads | candidates
  | code
  deriving DecidableEq, Repr

def Part.name : Part → String
  | .header => "header"
  | .spaces => "namespace"
  | .spaceName => "namespace name"
  | .rules => "rule"
  | .ruleIdentifier => "rule identifier"
  | .ruleSpace => "rule namespace"
  | .ruleFlags => "rule flags"
  | .ruleStrings => "rule strings"
  | .ruleString => "rule string"
  | .ruleTags => "rule tags"
  | .ruleTag => "rule tag"
  | .strings => "string"
  | .stringIdentifier => "string identifier"
  | .stringRule => "string rule"
  | .stringModifiers => "string modifiers"
  | .stringKind => "string kind"
  | .textBytes => "text string"
  | .hexBytes => "hex string"
  | .hexMask => "hex mask"
  | .regexSource => "regex source"
  | .externals => "external"
  | .externalIdentifier => "external identifier"
  | .externalKind => "external kind"
  | .externalValue => "external value"
  | .cells => "transition table"
  | .heads => "match table"
  | .candidates => "ac match"
  | .code => "code"

inductive Fault where
  | truncated (part : Part)
  | countExceeds (part : Part) (count : Nat)
  | notUtf8 (part : Part)
  | unknownSpace (rule : String)
  | unknownFlags (rule : String)
  | unknownString (rule : String)
  | unknownRule (string : String)
  | unknownModifiers (string : String)
  | mismatchedMask (string : String)
  | invalidRegex (string : String) (fault : Regex.Fault)
  | unknownStringKind (kind : UInt8)
  | unknownExternalKind (kind : UInt8)
  | trailingData
  | codeStart
  | stateCount
  deriving DecidableEq, Repr

def Fault.message : Fault → String
  | .truncated part => "truncated " ++ part.name
  | .countExceeds part count => part.name ++ " count " ++ toString count ++ " exceeds the data"
  | .notUtf8 part => part.name ++ " is not UTF-8"
  | .unknownSpace rule => "rule " ++ rule ++ " has unknown namespace"
  | .unknownFlags rule => "rule " ++ rule ++ " has unknown flags"
  | .unknownString rule => "rule " ++ rule ++ " has unknown string"
  | .unknownRule string => "string " ++ string ++ " has unknown rule"
  | .unknownModifiers string => "string " ++ string ++ " has unknown modifiers"
  | .mismatchedMask string => "string " ++ string ++ " has a mismatched mask"
  | .invalidRegex string fault => "string " ++ string ++ " has an invalid regex: " ++ fault.message
  | .unknownStringKind kind => "unknown string kind " ++ toString kind.toNat
  | .unknownExternalKind kind => "unknown external kind " ++ toString kind.toNat
  | .trailingData => "trailing data after code"
  | .codeStart => "code start outside the code section"
  | .stateCount => "state count does not match the header"

end ByteScan.RuleFile
