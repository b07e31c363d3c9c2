/-!
# Phrases of a query

A query that has been read is a tree. Its leaves are lexemes in their canonical spelling, its nodes
are phrases with the text that stands between their parts, and its text is the leaves in order.
-/

namespace TriplesSql.Select

inductive Phrase where
  | keyword
  | sign
  | name
  | wildcard
  | literal
  | binary
  | operation
  | group
  | list
  | call
  | choice
  | aliased
  | clause
  | table
  | join
  | nestedJoin
  | select
  | rows
  | combination
  | change
  | query
  | subquery
  deriving DecidableEq, Repr

/-- A phrase: one spelled lexeme, or parts with a text between each two of them. -/
inductive Tree where
  | leaf (phrase : Phrase) (text : String)
  | node (phrase : Phrase) (between : String) (parts : List Tree)
  deriving Repr

namespace Tree

mutual

def text : Tree → String
  | .leaf _ s => s
  | .node _ between parts => textOfParts between parts

def textOfParts (between : String) : List Tree → String
  | [] => ""
  | [t] => t.text
  | t :: u :: ts => t.text ++ between ++ textOfParts between (u :: ts)

end

def word (s : String) : Tree := .leaf .keyword s

def sign (s : String) : Tree := .leaf .sign s

def spaced (phrase : Phrase) (parts : List Tree) : Tree := .node phrase " " parts

def tight (phrase : Phrase) (parts : List Tree) : Tree := .node phrase "" parts

def listed (items : List Tree) : Tree := .node .list ", " items

def parenthesized (phrase : Phrase) (t : Tree) : Tree := tight phrase [sign "(", t, sign ")"]

def parenthesizedList (items : List Tree) : Tree := parenthesized .list (listed items)

def infixed (l : Tree) (operator : String) (r : Tree) : Tree :=
  spaced .binary [l, sign operator, r]

def keywordCall (key : String) (parts : List Tree) : Tree :=
  tight .call [word key, parenthesized .clause (spaced .clause parts)]

def aliased (t : Tree) : Option Tree → Tree
  | none => t
  | some n => spaced .aliased [t, word "AS", n]

def phrase : Tree → Phrase
  | .leaf p _ => p
  | .node p _ _ => p

end Tree

end TriplesSql.Select
