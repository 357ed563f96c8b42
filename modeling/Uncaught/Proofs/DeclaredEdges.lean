import Mathlib.Data.List.Basic
import Uncaught.Codebase
import Uncaught.Proofs.Ancestors

/-!
The edges of a program are those its declarations name.

Only the declaration of a class names edges, one to each of the parents it lists; every other one
leaves the edges alone. So the types that can be reached from a type in the program are those that
can be reached along pairs in the text of the declarations (`reaches_ofDeclarations`), whatever is
declared in between and in whatever order.
-/
namespace Uncaught

/-- The pairs of child and parent that a declaration names. -/
def Declaration.edges : Declaration → List (TypeName × TypeName)
  | .classLike name parents =>
    parents.map fun parent => (TypeName.ofText name, TypeName.ofText parent)
  | _ => []

/-- A declaration names a type as a parent of another one. -/
def DeclaresParent (ds : List Declaration) (child parent : TypeName) : Prop :=
  ∃ d ∈ ds, (child, parent) ∈ d.edges

/-- A type can be reached from another one along declared pairs of child and parent. -/
def Reaches (ds : List Declaration) : TypeName → TypeName → Prop :=
  Relation.ReflTransGen (DeclaresParent ds)

/-- A set has the type that admits everything, or a type that can be reached from another one. -/
def CoveredBy (ds : List Declaration) (target : TypeSet) (t : NamedType) : Prop :=
  ∃ u ∈ target, u.name = TypeName.mixed ∨ Reaches ds t.name u.name

namespace Hierarchy

variable {h : Hierarchy} {e : TypeName × TypeName}

@[simp] theorem edges_insertType (t : TypeName) : (h.insertType t).edges = h.edges := by
  unfold insertType
  split <;> rfl

theorem mem_edges_insertParent {child parent : TypeName} :
    e ∈ (h.insertParent child parent).edges ↔ e ∈ h.edges ∨ e = (child, parent) := by
  have edges : ((h.insertType child).insertType parent).edges = h.edges := by
    rw [edges_insertType, edges_insertType]
  by_cases known : (child, parent) ∈ ((h.insertType child).insertType parent).edges
  · rw [insertParent, dif_pos known]
    rw [edges] at known ⊢
    exact ⟨.inl, fun he => he.elim id fun he => he ▸ known⟩
  · rw [insertParent, dif_neg known, List.mem_cons, edges]
    exact or_comm

end Hierarchy

namespace Program

variable {e : TypeName × TypeName}

theorem mem_edges_declareParents {h : Hierarchy} {child : TypeName} {parents : List String} :
    e ∈ (declareParents h child parents).value.edges ↔
      e ∈ h.edges ∨ ∃ parent ∈ parents, e = (child, TypeName.ofText parent) := by
  induction parents generalizing h with
  | nil => simp [declareParents]
  | cons parent rest ih =>
    rw [declareParents]
    simp only [Logged.value_bind, ih, Hierarchy.mem_edges_insertParent, List.exists_mem_cons_iff,
      or_assoc]

theorem mem_edges_declare {p : Program} {d : Declaration} :
    e ∈ (p.declare d).value.hierarchy.edges ↔ e ∈ p.hierarchy.edges ∨ e ∈ d.edges := by
  cases d with
  | classLike name parents =>
    show e ∈ (declareParents _ _ parents).value.edges ↔ _
    rw [mem_edges_declareParents, Hierarchy.edges_insertType, Declaration.edges, List.mem_map]
    simp only [eq_comm]
  | method className name throws =>
    show e ∈ (p.hierarchy.insertType _).edges ↔ _
    simp [Declaration.edges]
  | staticMethod className name throws =>
    show e ∈ (p.hierarchy.insertType _).edges ↔ _
    simp [Declaration.edges]
  | _ => exact (or_iff_left List.not_mem_nil).symm

end Program

namespace Codebase

variable {e : TypeName × TypeName}

theorem mem_edges_foldl {c : Codebase} {ds : List Declaration} :
    e ∈ (ds.foldl declare c).program.hierarchy.edges ↔
      e ∈ c.program.hierarchy.edges ∨ ∃ d ∈ ds, e ∈ d.edges := by
  induction ds generalizing c with
  | nil => simp
  | cons d ds ih =>
    rw [List.foldl_cons, ih]
    show (e ∈ (c.program.declare d).value.hierarchy.edges ∨ _) ↔ _
    rw [Program.mem_edges_declare, List.exists_mem_cons_iff, or_assoc]

theorem mem_edges_ofDeclarations {ds : List Declaration} {child parent : TypeName} :
    (child, parent) ∈ (ofDeclarations ds).program.hierarchy.edges ↔
      DeclaresParent ds child parent := by
  rw [ofDeclarations, mem_edges_foldl]
  exact or_iff_right List.not_mem_nil

theorem edges_ofDeclarations (ds : List Declaration) :
    (fun child parent => (child, parent) ∈ (ofDeclarations ds).program.hierarchy.edges) =
      DeclaresParent ds := by
  funext child parent
  exact propext mem_edges_ofDeclarations

/-- What can be reached in a program can be reached along declared pairs. -/
theorem reaches_ofDeclarations {ds : List Declaration} {t x : TypeName} :
    (ofDeclarations ds).program.hierarchy.Reaches t x ↔ Reaches ds t x := by
  rw [Hierarchy.Reaches, Reaches, edges_ofDeclarations]

theorem covers_ofDeclarations {ds : List Declaration} {target : TypeSet} {t : NamedType} :
    (ofDeclarations ds).program.hierarchy.covers target t = true ↔ CoveredBy ds target t := by
  rw [Hierarchy.covers_iff, CoveredBy]
  simp only [reaches_ofDeclarations]

end Codebase

instance (ds : List Declaration) (t x : TypeName) : Decidable (Reaches ds t x) :=
  decidable_of_iff _ Codebase.reaches_ofDeclarations

instance (ds : List Declaration) (target : TypeSet) (t : NamedType) :
    Decidable (CoveredBy ds target t) :=
  decidable_of_iff _ Codebase.covers_ofDeclarations

end Uncaught
