/-!
Log lines. Nothing here writes them anywhere: the operations answer with the lines that belong to
what they did, in order.
-/

namespace WorldScripts

inductive Level where
  | error
  | warn
  | info
  | debug
  deriving DecidableEq, Repr

def Level.name : Level → String
  | .error => "ERROR"
  | .warn => "WARN"
  | .info => "INFO"
  | .debug => "DEBUG"

structure LogLine where
  level : Level
  text : String
  deriving DecidableEq, Repr

namespace LogLine

def error (text : String) : LogLine := ⟨.error, text⟩
def warn (text : String) : LogLine := ⟨.warn, text⟩
def info (text : String) : LogLine := ⟨.info, text⟩
def debug (text : String) : LogLine := ⟨.debug, text⟩

def render (line : LogLine) : String :=
  line.level.name ++ " " ++ line.text

end LogLine

/-- A value and the lines logged on the way to it. -/
structure Logged (α : Type) where
  value : α
  log : List LogLine := []

namespace Logged

instance : Monad Logged where
  pure value := ⟨value, []⟩
  bind first next :=
    let second := next first.value
    ⟨second.value, first.log ++ second.log⟩

instance : LawfulMonad Logged := LawfulMonad.mk' Logged
  (by intro α x; cases x; simp [Functor.map])
  (by intro α β x f; simp [Bind.bind, Pure.pure])
  (by intro α β γ x f g; simp [Bind.bind, List.append_assoc])

def tell (line : LogLine) : Logged Unit :=
  ⟨(), [line]⟩

end Logged

end WorldScripts
