import BuildScripts.Fault

namespace BuildScripts.Yaml

def Reading (α : Type) : Type := Except Fault α

namespace Reading

variable {α : Type}

instance : Monad Reading := inferInstanceAs (Monad (Except Fault))

instance : MonadExceptOf Fault Reading := inferInstanceAs (MonadExceptOf Fault (Except Fault))

instance : Alternative Reading where
  failure := throw .badDocument
  orElse x y := tryCatch x fun _ => y ()

def ofOption : Option α → Reading α
  | some a => pure a
  | none => failure

instance : MonadLift Option Reading := ⟨ofOption⟩

def toExcept (x : Reading α) : Except Fault α := x

end Reading

end BuildScripts.Yaml
