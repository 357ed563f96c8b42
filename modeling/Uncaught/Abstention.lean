/-!
Reasons not to judge a site.

Giving up is no failure: it means that a site is skipped, and it is counted. Every reason has a
short name, a sentence and a stable code that tools can match on.
-/
namespace Uncaught

def tagged (code message : String) : String := "[" ++ code ++ "] " ++ message

/-- Why the target of a call is not known. -/
inductive Abstention where
  /-- No such callable is declared. -/
  | notFound
  /-- Several targets fit, and the look-up does not choose among them. -/
  | ambiguous
  /-- The call is at fault in a way that is reported elsewhere. -/
  | deferred
  /-- The type of an expression is not known. -/
  | unresolvable
deriving DecidableEq, Repr

namespace Abstention

def all : List Abstention := [notFound, ambiguous, deferred, unresolvable]

def name : Abstention → String
  | notFound => "not_found"
  | ambiguous => "ambiguous"
  | deferred => "deferred_to_other_pass"
  | unresolvable => "unresolvable"

def code : Abstention → String
  | notFound => "CALLABLE_NOT_FOUND"
  | ambiguous => "AMBIGUOUS_TARGET"
  | deferred => "DEFERRED_TO_OTHER_PASS"
  | unresolvable => "UNRESOLVABLE_EXPRESSION"

def message : Abstention → String
  | notFound => "callable not found in codebase"
  | ambiguous => "call target is ambiguous"
  | deferred => "condition is reported by another analysis pass"
  | unresolvable => "expression cannot be resolved"

def ofName? (text : String) : Option Abstention := all.find? (·.name == text)

/-- The place of a reason in their order. -/
def rank : Abstention → Nat
  | notFound => 0
  | ambiguous => 1
  | deferred => 2
  | unresolvable => 3

instance : Ord Abstention := ⟨fun a b => compare a.rank b.rank⟩

end Abstention

end Uncaught
