import ByteScan.Pattern.Occurrence
import ByteScan.Scan.Context

/-!
# Confirming candidates

A candidate says that a string may occur at an offset of a block. It is confirmed by looking at the
data there, and an occurrence is recorded unless it has been recorded before. Candidates for one
offset come one right after another, so it suffices to compare with the last match; only where the
candidates of a string lie at different distances from its start is every offset remembered.
-/

namespace ByteScan.Scan

/-- The occurrence of a string at an offset of a block has been recorded. -/
def isKnown (rules : RuleSet) (context : Context) (string : Nat) (block : Block) (offset : Nat) :
    Bool :=
  if rules.hasMixedBacktrack string then context.isRecorded string block.base offset
  else
    match context.lastMatch? string with
    | some last => last.base == block.base && last.offset == offset
    | none => false

def isSettled (context : Context) (string : Nat) : Bool :=
  context.flags.fastMode && 0 < context.matchCount string

/-- Remembers an offset where that is needed to know it again. -/
def remember (rules : RuleSet) (string : Nat) (block : Block) (offset : Nat) (context : Context) :
    Context :=
  if rules.hasMixedBacktrack string then context.markRecorded string block.base offset else context

/-- Looks at the data for a string at an offset, and records the occurrence if there is one. -/
def confirm (rules : RuleSet) (number : Nat) (block : Block) (offset : Nat) : ScanM Unit :=
  fun context =>
    match rules.strings[number]? with
    | none => .error (.corrupt (.unknownString number)) context
    | some string =>
      if isSettled context number || isKnown rules context number block offset then .ok () context
      else
        match string.matchLength? block.data offset with
        | none => .ok () context
        | some length =>
          Context.addMatch number (.ofBlock block offset length)
            (remember rules number block offset context)

def verify (rules : RuleSet) (string : Nat) (block : Block) (offset : Nat) : ScanM Unit :=
  fun context =>
    if context.flags.profile then
      let (begun, clock) := context.clock.look
      let charge (context : Context) : Context :=
        let (ended, clock) := context.clock.look
        { context with clock }.addStringTime string (ended - begun)
      match confirm rules string block offset { context with clock } with
      | .ok () context => .ok () (charge context)
      | .error error context => .error error (charge context)
    else confirm rules string block offset context

end ByteScan.Scan
