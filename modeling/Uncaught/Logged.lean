import Uncaught.Name

/-!
Answers that leave a trace.

A logged value carries what computing it has written down; in sequence the logs are put one after
the other. With `List Mention` as the log this gives `Noted`: a question's answer together with the
names it has spelled out. The answer never depends on the log.
-/
namespace Uncaught

/-- A value together with what computing it has written down. -/
structure Logged (ω α : Type) where
  value : α
  log : ω

/-- An answer and the names that finding it has spelled out. -/
abbrev Noted := Logged (List Mention)

namespace Logged

variable {ω α β : Type}

def write (entry : ω) : Logged ω Unit := ⟨(), entry⟩

instance [EmptyCollection ω] [Append ω] : Monad (Logged ω) where
  pure a := ⟨a, ∅⟩
  bind x f := ⟨(f x.value).value, x.log ++ (f x.value).log⟩

variable [EmptyCollection ω] [Append ω]

@[simp] theorem value_pure (a : α) : (pure a : Logged ω α).value = a := rfl

@[simp] theorem log_pure (a : α) : (pure a : Logged ω α).log = ∅ := rfl

@[simp] theorem value_bind (x : Logged ω α) (f : α → Logged ω β) :
    (x >>= f).value = (f x.value).value := rfl

@[simp] theorem log_bind (x : Logged ω α) (f : α → Logged ω β) :
    (x >>= f).log = x.log ++ (f x.value).log := rfl

@[simp] theorem value_map (f : α → β) (x : Logged ω α) : (f <$> x).value = f x.value := rfl

omit [EmptyCollection ω] [Append ω] in
@[simp] theorem log_write (entry : ω) : (write entry).log = entry := rfl

end Logged

/-- Spells a name out. -/
def mention (name : Mention) : Noted Unit := Logged.write [name]

end Uncaught
