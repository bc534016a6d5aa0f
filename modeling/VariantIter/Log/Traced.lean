import VariantIter.Fault
import VariantIter.Log.Record

/-!
Computations that leave a trace: a result or a fault, together with the records up to it. The records before a
fault are kept.
-/

namespace VariantIter

structure Traced (α : Type) where
  records : List Log.Record
  outcome : Except Fault α

namespace Traced

variable {α β : Type}

protected def pure (a : α) : Traced α :=
  ⟨[], .ok a⟩

/-- A fault ends the computation; the records before it are kept. -/
protected def bind (x : Traced α) (f : α → Traced β) : Traced β :=
  match x.outcome with
  | .error fault => ⟨x.records, .error fault⟩
  | .ok a => ⟨x.records ++ (f a).records, (f a).outcome⟩

instance : Monad Traced where
  pure := Traced.pure
  bind := Traced.bind

def fail (fault : Fault) : Traced α :=
  ⟨[], .error fault⟩

/-- A result without records. -/
def ofExcept (outcome : Except Fault α) : Traced α :=
  ⟨[], outcome⟩

/-- Leaves a record. -/
def emit (record : Log.Record) : Traced Unit :=
  ⟨[record], .ok ()⟩

end Traced

end VariantIter
