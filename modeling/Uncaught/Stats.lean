import Uncaught.Abstention

/-!
What a check has looked at, and how often it gave up.

Statistics of parts add up to those of the whole: `merge` adds every counter and every count of
abstentions.
-/
namespace Uncaught

/-- How often each reason was given. A reason has an entry from the first time it was given. -/
structure AbstentionCounts where
  notFound : Option Nat
  ambiguous : Option Nat
  deferred : Option Nat
  unresolvable : Option Nat
deriving DecidableEq, Repr

namespace AbstentionCounts

/-- No entries. -/
def zero : AbstentionCounts := ⟨none, none, none, none⟩

def entry? (counts : AbstentionCounts) : Abstention → Option Nat
  | .notFound => counts.notFound
  | .ambiguous => counts.ambiguous
  | .deferred => counts.deferred
  | .unresolvable => counts.unresolvable

/-- How often a reason was given: never if it has no entry. -/
def get (counts : AbstentionCounts) (reason : Abstention) : Nat := (counts.entry? reason).getD 0

/-- The counts when a reason has been given once more. -/
def record (counts : AbstentionCounts) : Abstention → AbstentionCounts
  | .notFound => { counts with notFound := some (counts.get .notFound + 1) }
  | .ambiguous => { counts with ambiguous := some (counts.get .ambiguous + 1) }
  | .deferred => { counts with deferred := some (counts.get .deferred + 1) }
  | .unresolvable => { counts with unresolvable := some (counts.get .unresolvable + 1) }

/-- The counts of two parts: a reason has an entry if it has one in either part. -/
def merge (a b : AbstentionCounts) : AbstentionCounts where
  notFound := a.notFound.merge (· + ·) b.notFound
  ambiguous := a.ambiguous.merge (· + ·) b.ambiguous
  deferred := a.deferred.merge (· + ·) b.deferred
  unresolvable := a.unresolvable.merge (· + ·) b.unresolvable

def total (counts : AbstentionCounts) : Nat :=
  counts.get .notFound + counts.get .ambiguous + counts.get .deferred + counts.get .unresolvable

end AbstentionCounts

inductive Counter where
  | filesChecked
  | functionsVisited
  | throwSites
  | callSites
  | diagnostics
  /-- Throws of an expression whose types are not known. -/
  | unknownTypes
deriving DecidableEq, Repr

/-- The counters of a check. -/
structure Stats where
  filesChecked : Nat
  functionsVisited : Nat
  throwSites : Nat
  callSites : Nat
  diagnostics : Nat
  unknownTypes : Nat
  abstentions : AbstentionCounts
deriving DecidableEq, Repr

namespace Stats

def zero : Stats := ⟨0, 0, 0, 0, 0, 0, AbstentionCounts.zero⟩

def get (s : Stats) : Counter → Nat
  | .filesChecked => s.filesChecked
  | .functionsVisited => s.functionsVisited
  | .throwSites => s.throwSites
  | .callSites => s.callSites
  | .diagnostics => s.diagnostics
  | .unknownTypes => s.unknownTypes

/-- The statistics with an amount added to a counter. -/
def add (s : Stats) (counter : Counter) (amount : Nat) : Stats :=
  match counter with
  | .filesChecked => { s with filesChecked := s.filesChecked + amount }
  | .functionsVisited => { s with functionsVisited := s.functionsVisited + amount }
  | .throwSites => { s with throwSites := s.throwSites + amount }
  | .callSites => { s with callSites := s.callSites + amount }
  | .diagnostics => { s with diagnostics := s.diagnostics + amount }
  | .unknownTypes => { s with unknownTypes := s.unknownTypes + amount }

/-- The statistics with one more abstention. -/
def addAbstention (s : Stats) (reason : Abstention) : Stats :=
  { s with abstentions := s.abstentions.record reason }

/-- The number of sites that were not judged. -/
def totalAbstentions (s : Stats) : Nat := s.abstentions.total + s.unknownTypes

def merge (a b : Stats) : Stats where
  filesChecked := a.filesChecked + b.filesChecked
  functionsVisited := a.functionsVisited + b.functionsVisited
  throwSites := a.throwSites + b.throwSites
  callSites := a.callSites + b.callSites
  diagnostics := a.diagnostics + b.diagnostics
  unknownTypes := a.unknownTypes + b.unknownTypes
  abstentions := a.abstentions.merge b.abstentions

end Stats

end Uncaught
