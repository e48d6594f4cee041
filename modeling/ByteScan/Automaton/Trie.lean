import Std.Data.HashMap

/-!
# Tries of words

The nodes of a trie are the words that begin one of some given words; the empty word is one of them
in any case. They are listed level by level and in lexicographic order within a level, so a word
comes after everything that begins it. The failure node of a word is the longest node that ends it
and is shorter.
-/

namespace ByteScan

abbrev Word := List UInt8

namespace Word

/-- A word comes before another: it is shorter, or as long and not greater byte by byte. -/
def precedes (first second : Word) : Bool :=
  first.length < second.length || (first.length == second.length && decide (first ≤ second))

def beginnings (word : Word) : List Word := (List.range (word.length + 1)).map word.take

def dropRepeated : List Word → List Word
  | first :: second :: words =>
    if first = second then dropRepeated (second :: words)
    else first :: dropRepeated (second :: words)
  | words => words

end Word

structure TrieNode where
  word : Word
  /-- The bytes with which nodes go on from this one, in increasing order. -/
  children : List UInt8
  deriving DecidableEq, Repr, Inhabited

namespace Trie

def words (given : List Word) : List Word :=
  Word.dropRepeated (([] :: given.flatMap Word.beginnings).mergeSort Word.precedes)

def allBytes : List UInt8 := (List.range 256).map UInt8.ofNat

def index (words : List Word) : Std.HashMap Word Unit :=
  words.foldl (fun known word => known.insert word ()) ∅

def nodes (given : List Word) : List TrieNode :=
  let words := words given
  let known := index words
  words.map fun word => ⟨word, allBytes.filter fun byte => known.contains (word ++ [byte])⟩

/-- The longest of some words that ends a word and is shorter; the empty word if there is none. -/
def failureWord (isNode : Word → Bool) : Word → Word
  | [] => []
  | _ :: rest => if isNode rest then rest else failureWord isNode rest

end Trie

end ByteScan
