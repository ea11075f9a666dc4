/-!
# Kinds of Errors

Every error that a closure, a context or this library raises is of one kind. The kinds form a
hierarchy: who handles a kind handles all kinds below it.
-/

namespace OrderedScope

/-- The **kinds** of errors. `failure` is above all kinds that ordinary handlers handle; an
`interrupt`, an `exit` and a `generatorExit` are not below it. -/
inductive Kind where
  | failure
  | attr
  | type
  | value
  | unicode
  | lookup
  | key
  | index
  | notImplemented
  | runtime
  | recursion
  | os
  | fileNotFound
  | permission
  | timeout
  | importing
  | moduleNotFound
  | stopIteration
  | arithmetic
  | zeroDivision
  | overflow
  | assertion
  | naming
  | memory
  | endOfInput
  | buffer
  | reference
  | system
  | document
  | library
  | unresolved
  | missingClosure
  | direction
  | interrupt
  | exit
  | generatorExit
  | other (name : String)
deriving DecidableEq, Repr

namespace Kind

/-- The kinds directly above a kind. -/
def parents : Kind → List Kind
  | unicode => [value]
  | key => [lookup]
  | index => [lookup]
  | notImplemented => [runtime]
  | recursion => [runtime]
  | fileNotFound => [os]
  | permission => [os]
  | timeout => [os]
  | moduleNotFound => [importing]
  | zeroDivision => [arithmetic]
  | overflow => [arithmetic]
  | document => [value]
  | unresolved => [library, attr]
  | missingClosure => [library, value]
  | direction => [library, value]
  | failure => []
  | interrupt => []
  | exit => []
  | generatorExit => []
  | _ => [failure]

/-- A kind with all kinds above it; no kind has more than two levels between it and the top. -/
def ancestors (k : Kind) : List Kind :=
  k :: k.parents ++ k.parents.flatMap fun p => p.parents ++ p.parents.flatMap parents

/-- Whether a handler of `handled` handles an error of kind `k`. -/
def isA (k handled : Kind) : Bool := k.ancestors.contains handled

/-- Whether a handler of any of the given kinds handles an error of kind `k`. -/
def isAny (k : Kind) (handled : List Kind) : Bool := handled.any k.isA

/-- The kinds by which a context says that its attribute protocol cannot be used for look-ups. -/
def refusals : List Kind := [type, lookup, notImplemented]

end Kind

end OrderedScope
