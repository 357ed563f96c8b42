import Uncaught.Diagnostic.Basic
import Uncaught.Logged
import Uncaught.Stats

/-!
What checking leaves behind.

A report holds the diagnostics in the order in which they were found, the statistics, the names that
were spelled out, and whether the ignored types were asked for. Reports of consecutive parts are put
one after the other. A check is a computation that writes a report.
-/
namespace Uncaught

/-- What checking some part of a program has brought about. -/
structure Report where
  diagnostics : List Diagnostic
  stats : Stats
  mentions : List Mention
  /-- Whether the ignored types were asked for. -/
  askedIgnored : Bool
deriving DecidableEq, Repr

namespace Report

def empty : Report := ⟨[], Stats.zero, [], false⟩

/-- The report of one part and then another. -/
def append (a b : Report) : Report where
  diagnostics := a.diagnostics ++ b.diagnostics
  stats := a.stats.merge b.stats
  mentions := a.mentions ++ b.mentions
  askedIgnored := a.askedIgnored || b.askedIgnored

instance : EmptyCollection Report := ⟨empty⟩

instance : Append Report := ⟨append⟩

end Report

/-- A computation that writes a report. -/
abbrev Check := Logged Report

namespace Check

instance : MonadLift Noted Check :=
  ⟨fun answer => ⟨answer.value, { Report.empty with mentions := answer.log }⟩⟩

def count (counter : Counter) : Check Unit :=
  Logged.write { Report.empty with stats := Stats.zero.add counter 1 }

def emit (d : Diagnostic) : Check Unit :=
  Logged.write { Report.empty with
    diagnostics := [d]
    stats := Stats.zero.add .diagnostics 1 }

def abstain (reason : Abstention) : Check Unit :=
  Logged.write { Report.empty with stats := Stats.zero.addAbstention reason }

def unknownType : Check Unit := count .unknownTypes

end Check

end Uncaught
