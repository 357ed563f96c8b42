import Uncaught.NameTable
import Uncaught.Program.Declaration

/-!
A code base: the declared program and the names met so far.

Declarations and questions spell out names, and a code base remembers them. Only the number of names
and whether a name has been met depend on what was asked before; the program does not, and neither
does any answer found in it.
-/
namespace Uncaught

structure Codebase where
  program : Program
  names : NameTable

namespace Codebase

/-- Nothing declared; the type that admits everything is known by name. -/
def empty : Codebase := ⟨Program.empty, NameTable.empty.note (.type TypeName.mixed)⟩

/-- The answer to a question, and the codebase with the names that finding it has spelled out. -/
def ask {α : Type} (c : Codebase) (answer : Noted α) : α × Codebase :=
  (answer.value, { c with names := c.names.noteAll answer.log })

/-- The codebase after one more declaration. -/
def declare (c : Codebase) (d : Declaration) : Codebase :=
  let (program, c) := c.ask (c.program.declare d)
  { c with program }

/-- The codebase that declarations make, in their order. -/
def ofDeclarations (ds : List Declaration) : Codebase := ds.foldl declare empty

/-- The last declaration is made in the program of the others. -/
theorem program_ofDeclarations_append (ds : List Declaration) (d : Declaration) :
    (ofDeclarations (ds ++ [d])).program = ((ofDeclarations ds).program.declare d).value := by
  rw [ofDeclarations, List.foldl_append]
  rfl

/-- What holds of the empty program and is kept by every declaration holds of every declared
program. -/
theorem holds_ofDeclarations {holds : Program → Prop} (start : holds Program.empty)
    (step : ∀ p d, holds p → holds (p.declare d).value) (ds : List Declaration) :
    holds (ofDeclarations ds).program := by
  have run (c : Codebase) (here : holds c.program) : holds (ds.foldl declare c).program := by
    induction ds generalizing c with
    | nil => exact here
    | cons d ds ih => exact ih (c.declare d) (step c.program d here)
  exact run empty start

end Codebase

end Uncaught
