/-!
Log records: what a run has to say beside its result.
-/

namespace Subgraph

inductive LogLevel where
  | debug
  | info
  | warning
  | error
  | critical
  deriving DecidableEq, Repr, Inhabited

namespace LogLevel

def name : LogLevel → String
  | .debug => "DEBUG"
  | .info => "INFO"
  | .warning => "WARNING"
  | .error => "ERROR"
  | .critical => "CRITICAL"

def rank : LogLevel → Nat
  | .debug => 10
  | .info => 20
  | .warning => 30
  | .error => 40
  | .critical => 50

def all : List LogLevel := [.debug, .info, .warning, .error, .critical]

def ofName? (s : String) : Option LogLevel := all.find? (·.name == s.toUpper)

end LogLevel

structure LogRecord where
  level : LogLevel
  message : String
  deriving DecidableEq, Repr, Inhabited

/-- The records at a level or above it. -/
def keepFrom (level : LogLevel) (records : List LogRecord) : List LogRecord :=
  records.filter fun r => level.rank ≤ r.level.rank

def debug (message : String) : LogRecord := ⟨.debug, message⟩
def info (message : String) : LogRecord := ⟨.info, message⟩
def warning (message : String) : LogRecord := ⟨.warning, message⟩
def error (message : String) : LogRecord := ⟨.error, message⟩

/-- Names with commas between them, or a dash for none. -/
def listed (names : List String) : String :=
  if names.isEmpty then "-" else ", ".intercalate names

/-- A result with the log records on the way to it. -/
abbrev Logged (ε α : Type) := ExceptT ε (StateM (List LogRecord)) α

namespace Logged

def say {ε : Type} (records : List LogRecord) : Logged ε Unit :=
  fun old => (.ok (), old ++ records)

def ofExcept {ε ε' α : Type} (wrap : ε → ε') (r : Except ε α) : Logged ε' α :=
  fun old => (r.mapError wrap, old)

/-- The result and all records. -/
def run {ε α : Type} (m : Logged ε α) : Except ε α × List LogRecord := m []

end Logged

end Subgraph
