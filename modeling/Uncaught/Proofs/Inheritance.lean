import Uncaught.Proofs.Distance
import Uncaught.Proofs.References

/-!
Whose method a class has.

A class that is not given a method itself has that of an ancestor. Of the ancestors that are given
one, the nearest counts, and if several are equally near, the one that comes first among the
ancestors (`IsNearestOwner`). The look-up goes through the ancestors and stops at the first one with
the method. This is the nearest, since ancestors come in the order of their distance
(`pairwise_distance_ancestors`), and there is only one such owner (`IsNearestOwner.unique`). What it
gives to the class is what the owner was given last (`nearest_method_is_inherited`).
-/
namespace Uncaught

variable {ds : List Declaration} {className owner other : TypeName} {name : String}
  {info : MethodInfo}

/-- The ancestors of a class, nearest first. -/
def declaredAncestors (ds : List Declaration) (className : TypeName) : List TypeName :=
  (Codebase.ofDeclarations ds).program.hierarchy.ancestors className

/-- A class can be reached from another one and is given a method with a name. -/
structure IsOwner (ds : List Declaration) (className : TypeName) (name : String)
    (owner : TypeName) : Prop where
  reached : Reaches ds className owner
  given : ∃ info, lastMethod? ds owner name = some info

/-- Of the classes that are given a method there is none nearer, and none that is equally near and
comes earlier among the ancestors. -/
structure IsNearestOwner (ds : List Declaration) (className : TypeName) (name : String)
    (owner : TypeName) : Prop extends IsOwner ds className name owner where
  nearest : ∀ other, IsOwner ds className name other →
    distance (DeclaresParent ds) className owner ≤ distance (DeclaresParent ds) className other
  first : ∀ other, IsOwner ds className name other →
    distance (DeclaresParent ds) className owner = distance (DeclaresParent ds) className other →
    (declaredAncestors ds className).idxOf owner ≤ (declaredAncestors ds className).idxOf other

theorem mem_declaredAncestors : owner ∈ declaredAncestors ds className ↔ Reaches ds className owner :=
  Hierarchy.mem_ancestors.trans Codebase.reaches_ofDeclarations

/-- There is at most one nearest owner. -/
theorem IsNearestOwner.unique (nearest : IsNearestOwner ds className name owner)
    (nearest' : IsNearestOwner ds className name other) : owner = other := by
  have near : distance (DeclaresParent ds) className owner =
      distance (DeclaresParent ds) className other :=
    Nat.le_antisymm (nearest.nearest other nearest'.toIsOwner)
      (nearest'.nearest owner nearest.toIsOwner)
  have places : (declaredAncestors ds className).idxOf owner =
      (declaredAncestors ds className).idxOf other :=
    Nat.le_antisymm (nearest.first other nearest'.toIsOwner near)
      (nearest'.first owner nearest.toIsOwner near.symm)
  exact (List.idxOf_inj (mem_declaredAncestors.2 nearest.reached)).1 places

/-! ## The look-up -/

theorem inheritedMethod?_ofDeclarations (ds : List Declaration) (className : TypeName)
    (name : String) :
    (Codebase.ofDeclarations ds).program.inheritedMethod? className name =
      (declaredAncestors ds className).findSome? fun owner => lastMethod? ds owner name := by
  simp only [Program.inheritedMethod?, Codebase.methods_ofDeclarations]
  rfl

/-- The first ancestor with the method is the nearest one. -/
theorem isNearestOwner_of_first {before after : List TypeName}
    (order : declaredAncestors ds className = before ++ owner :: after)
    (given : lastMethod? ds owner name = some info)
    (nothing : ∀ x ∈ before, lastMethod? ds x name = none) :
    IsNearestOwner ds className name owner := by
  have later (other : TypeName) (owns : IsOwner ds className name other) :
      other ∉ before ∧ (other = owner ∨ other ∈ after) := by
    obtain ⟨info', given'⟩ := owns.given
    have unlisted : other ∉ before := fun listed => by
      rw [nothing other listed] at given'
      cases given'
    have member := mem_declaredAncestors.2 owns.reached
    rw [order, List.mem_append, List.mem_cons] at member
    exact ⟨unlisted, member.resolve_left unlisted⟩
  have member : owner ∈ declaredAncestors ds className := by
    rw [order]
    exact List.mem_append_right _ List.mem_cons_self
  have sorted := (Codebase.ofDeclarations ds).program.hierarchy.pairwise_distance_ancestors className
  simp only [Codebase.distance_ofDeclarations] at sorted
  change (declaredAncestors ds className).Pairwise _ at sorted
  rw [order] at sorted
  refine ⟨⟨mem_declaredAncestors.1 member, info, given⟩, ?_, ?_⟩
  · intro other owns
    rcases (later other owns).2 with rfl | after
    · exact Nat.le_refl _
    · exact (List.pairwise_cons.1 (List.pairwise_append.1 sorted).2.1).1 other after
  · intro other owns _
    have unlisted : owner ∉ before := fun listed => by
      rw [nothing owner listed] at given
      cases given
    rw [order, List.idxOf_append_of_notMem unlisted, List.idxOf_append_of_notMem (later other owns).1,
      List.idxOf_cons_self]
    exact Nat.add_le_add_left (Nat.zero_le _) _

theorem inheritedMethod?_eq_some_iff :
    (Codebase.ofDeclarations ds).program.inheritedMethod? className name = some info ↔
      ∃ owner, IsNearestOwner ds className name owner ∧ lastMethod? ds owner name = some info := by
  rw [inheritedMethod?_ofDeclarations]
  constructor
  · intro found
    obtain ⟨before, owner, after, order, given, nothing⟩ := List.findSome?_eq_some_iff.1 found
    exact ⟨owner, isNearestOwner_of_first order given nothing, given⟩
  · intro h
    obtain ⟨owner, nearest, given⟩ := h
    have some' : ((declaredAncestors ds className).findSome? fun owner =>
        lastMethod? ds owner name).isSome = true :=
      List.findSome?_isSome_iff.2 ⟨owner, mem_declaredAncestors.2 nearest.reached, by simp [given]⟩
    obtain ⟨info', found⟩ := Option.isSome_iff_exists.1 some'
    obtain ⟨before, owner', after, order, given', nothing⟩ := List.findSome?_eq_some_iff.1 found
    rw [found, ← given, ← given', nearest.unique (isNearestOwner_of_first order given' nothing)]

theorem inheritedMethod?_eq_none_iff :
    (Codebase.ofDeclarations ds).program.inheritedMethod? className name = none ↔
      ∀ owner, Reaches ds className owner → lastMethod? ds owner name = none := by
  rw [inheritedMethod?_ofDeclarations, List.findSome?_eq_none_iff]
  simp only [mem_declaredAncestors]

/-- **The nearest owner gives the method.** A class has no method of a name exactly if no class that
can be reached from it, itself included, was ever given one, in any case of the name. Otherwise it
has the one that the nearest owner was given last. A call on an object of the class reaches this
method, and is the matter of another check if there is none. -/
theorem nearest_method_is_inherited (ds : List Declaration) (className : TypeName) (name : String) :
    let p := (Codebase.ofDeclarations ds).program
    let found := p.inheritedMethod? className name
    (found = none ↔ ∀ owner, Reaches ds className owner →
      ∀ d ∈ ds, ∀ entry ∈ d.method?, entry.1 ≠ MethodKey.ofName owner name) ∧
    (∀ info, found = some info ↔
      ∃ owner, IsNearestOwner ds className name owner ∧ lastMethod? ds owner name = some info) ∧
    ∀ caller receiver t, t.name = className →
      (p.receiverTypes caller receiver).value = TypeSet.singleton t →
      match found with
      | none => (p.methodTarget caller receiver name .object).value = .error .deferred
      | some info => ∃ callable, p.callable? info.id = some callable ∧ callable.id = info.id ∧
          (p.methodTarget caller receiver name .object).value = .ok callable := by
  intro p found
  refine ⟨?_, fun info => inheritedMethod?_eq_some_iff, ?_⟩
  · rw [inheritedMethod?_eq_none_iff]
    simp only [lastMethod?_eq_none_iff]
  · intro caller receiver t class_ known
    have target : (p.methodTarget caller receiver name .object).value =
        p.methodTargetOn (TypeSet.singleton t) name .object := by
      rw [Program.methodTarget, Logged.value_bind, known, Logged.value_pure]
    have chosen : p.chosenMethod (TypeSet.singleton t) name .object =
        found.elim (.error .deferred) .ok := by
      rw [Program.chosenMethod_singleton, class_]
    rw [target, Program.methodTargetOn_eq, chosen]
    cases inherits : found with
    | none => rfl
    | some info =>
      obtain ⟨owner, own⟩ := Program.isMethod_of_inheritedMethod? inherits
      have registered : p.IsRegistered info.id :=
        (Program.isLinked_ofDeclarations ds).methods _ info own
      obtain ⟨callable, entered, same⟩ := registered.exists_callable?
      refine ⟨callable, entered, same, ?_⟩
      simp only [Option.elim_some, entered]

namespace Diamond

/-- `D` reaches `A` along `I` in two steps and `B` in one. The method of `B` is given twice. -/
def declarations : List Declaration :=
  [.classLike "I" ["A"], .classLike "D" ["I", "B"], .staticMethod "B" "M" none,
    .method "\\B" "m" (some "X"), .method "A" "m" (some ""), .classLike "A" ["D"],
    .variableTypes "f" "$v" "?D"]

/-- The method comes from the parent, not from the class that the other parent extends. -/
theorem parent_gives_the_method :
    (⟨⟨"D"⟩, true⟩ : NamedType).name = ⟨"D"⟩ ∧
    ((Codebase.ofDeclarations declarations).program.receiverTypes ⟨"f", .function, none⟩
      (.var "v")).value = TypeSet.singleton ⟨⟨"D"⟩, true⟩ ∧
    ((Codebase.ofDeclarations declarations).program.methodTarget ⟨"f", .function, none⟩ (.var "v")
      "M" .object).value = .ok ⟨⟨"B::m"⟩, "B::m"⟩ := by
  have known : ((Codebase.ofDeclarations declarations).program.receiverTypes
      ⟨"f", .function, none⟩ (.var "v")).value = TypeSet.singleton ⟨⟨"D"⟩, true⟩ := by
    decide +kernel
  have inherits : (Codebase.ofDeclarations declarations).program.inheritedMethod? ⟨"D"⟩ "M" =
      some ⟨⟨"B::m"⟩, false⟩ := by
    decide +kernel
  have reached := (nearest_method_is_inherited declarations ⟨"D"⟩ "M").2.2 ⟨"f", .function, none⟩
    (.var "v") ⟨⟨"D"⟩, true⟩ rfl known
  rw [inherits] at reached
  obtain ⟨callable, entered, -, target⟩ := reached
  have shown : (Codebase.ofDeclarations declarations).program.callable? ⟨"B::m"⟩ =
      some ⟨⟨"B::m"⟩, "B::m"⟩ := by
    decide +kernel
  rw [shown] at entered
  exact ⟨rfl, known, target.trans (congrArg _ (Option.some.inj entered.symm))⟩

end Diamond

end Uncaught
