/-!
Notes for the operator, kept beside results.
-/

namespace SchemaCompiler

inductive Level where
  | debug
  | info
  | warning
  | error
  deriving DecidableEq, Repr

def Level.severity : Level → Nat
  | .debug => 0
  | .info => 1
  | .warning => 2
  | .error => 3

structure Note where
  level : Level
  message : String
  deriving DecidableEq, Repr

namespace Note

def info (message : String) : Note := ⟨.info, message⟩

def error (message : String) : Note := ⟨.error, message⟩

def isAtLeast (level : Level) (n : Note) : Bool := level.severity ≤ n.level.severity

end Note

end SchemaCompiler
