import RuleLexer.Text.Offset

/-!
# Vocabularies

A vocabulary is a set of words that one pattern matches. In the pattern longer words come before
shorter ones, because an alternation commits to the first branch that matches: a word listed before
a longer one that starts with it would cut the longer one short. Words of one length are in the
order of their characters, and a word that is listed twice appears once, so that the pattern depends
only on the set.
-/
namespace RuleLexer

structure Vocabulary where
  words : List String
  /-- A piece of pattern before the words. -/
  lead : String := ""
  /-- A piece of pattern after the words. -/
  tail : String := ""
deriving DecidableEq, Repr

namespace Vocabulary

/-- The characters that have a meaning in a pattern. -/
def specialChars : List Char :=
  ['\\', '.', '+', '*', '?', '(', ')', '|', '[', ']', '\x7b', '\x7d', '^', '$', '#', '&', '-', '~']

/-- The pattern that matches exactly a word. -/
def escapeWord (word : List Char) : List Char :=
  word.flatMap fun char => if char ∈ specialChars then ['\\', char] else [char]

/-- Whether a word is listed before another: it is longer, or as long and earlier in the order of
characters. -/
def precedes (left right : List Char) : Bool :=
  Text.byteLength right < Text.byteLength left ||
    (Text.byteLength left == Text.byteLength right && decide (left < right))

/-- Puts a word into its place in a list, unless it is there already. -/
def insertWord (word : List Char) : List (List Char) → List (List Char)
  | [] => [word]
  | head :: rest =>
    if word = head then head :: rest
    else if precedes word head then word :: head :: rest
    else head :: insertWord word rest

/-- The words, each one once, in the order in which the pattern lists them. -/
def sortedWords (vocabulary : Vocabulary) : List (List Char) :=
  (vocabulary.words.map String.toList).foldr insertWord []

/-- The words as alternatives. -/
def alternatives : List (List Char) → List Char
  | [] => []
  | [word] => escapeWord word
  | word :: rest => escapeWord word ++ '|' :: alternatives rest

/-- The pattern of a vocabulary. -/
def pattern (vocabulary : Vocabulary) : String :=
  vocabulary.lead ++ "(?:" ++ String.ofList (alternatives vocabulary.sortedWords) ++ ")" ++
    vocabulary.tail

end Vocabulary

end RuleLexer
