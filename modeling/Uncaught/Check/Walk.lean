import Uncaught.Check.Site

/-!
The walk over a source file.

Nodes are visited children first: the arguments of a call before the call, and of a try statement
the protected body, the clauses in their order and then the part that always runs. On the way down
every routine and every part of a try statement adds a step to the path.
-/
namespace Uncaught

/-- The report of a site: that of the handler for its kind. A site outside every routine has
no contract to be judged by and is passed over. -/
def reportSite (input : CheckInput) (handlers : Handlers) (file : String) (scopes : ScopePath)
    (position : Position) (action : Action) : Report :=
  match handlers.handler? action.kind, ScopePath.routine? scopes with
  | some handler, some routine => (handler input ⟨action, scopes, file, routine, position⟩).log
  | _, _ => ∅

/-- The report that a routine has been entered. -/
def Report.routineEntered : Report :=
  { Report.empty with stats := Stats.zero.add .functionsVisited 1 }

mutual

/-- The report of a node and of the nodes inside it. -/
def reportNode (input : CheckInput) (handlers : Handlers) (file : String) (scopes : ScopePath) :
    Node → Report
  | .routine routine body =>
    Report.routineEntered ++
      reportNodes input handlers file (.inRoutine routine :: scopes) body
  | .block body => reportNodes input handlers file scopes body
  | .tryCatch body clauses final =>
    let catches := clauses.map CatchClause.types
    reportNodes input handlers file (.inTry catches :: scopes) body ++
      reportClauses input handlers file scopes catches clauses ++
      reportFinal input handlers file (.inFinally catches :: scopes) final
  | .throw position thrown => reportSite input handlers file scopes position (.throw thrown)
  | .call position call arguments =>
    reportNodes input handlers file scopes arguments ++
      reportSite input handlers file scopes position (.call call)

def reportNodes (input : CheckInput) (handlers : Handlers) (file : String) (scopes : ScopePath) :
    List Node → Report
  | [] => ∅
  | node :: rest =>
    reportNode input handlers file scopes node ++ reportNodes input handlers file scopes rest

def reportClauses (input : CheckInput) (handlers : Handlers) (file : String) (scopes : ScopePath)
    (catches : Catches) : List CatchClause → Report
  | [] => ∅
  | .mk types body :: rest =>
    reportNodes input handlers file (.inCatch catches types :: scopes) body ++
      reportClauses input handlers file scopes catches rest

/-- The report of the part of a try statement that always runs, if it has one. -/
def reportFinal (input : CheckInput) (handlers : Handlers) (file : String) (scopes : ScopePath) :
    Option (List Node) → Report
  | none => ∅
  | some body => reportNodes input handlers file scopes body

end

def reportFile (input : CheckInput) (handlers : Handlers) (file : SourceFile) : Report :=
  { Report.empty with stats := Stats.zero.add .filesChecked 1 } ++
    reportNodes input handlers file.path [] file.items

end Uncaught
