import TxDispatch.Config.Check
import TxDispatch.Text.Utf8
import TxDispatch.Toml

namespace TxDispatch

inductive ConfigError where
  /-- The file could not be read. -/
  | io (text : String)
  /-- The text is not TOML, or does not have the form of a configuration. -/
  | form
  | invalid (problems : List ConfigProblem)
deriving DecidableEq, Repr

def ConfigError.message : ConfigError → String
  | io text => "IO error: " ++ text
  | form => "Parse error"
  | invalid problems => "Validation failed: " ++ ", ".intercalate (problems.map ConfigProblem.text)

namespace Config

/-- Reads a configuration from TOML, where a list of fields may run on past the last of them. -/
def ofTomlText? (s : String) : Option Config := do ofTree? true (← Toml.tree? s)

def parse (s : String) : Except ConfigError Config :=
  match ofTomlText? s with
  | none => .error .form
  | some c => if c.isValid then .ok c else .error (.invalid c.problems)

/-- Reads and checks the configuration in a file, whose content or the reason for its absence is
given. -/
def load (content : Except String (List UInt8)) : Except ConfigError Config :=
  match content with
  | .error text => .error (.io text)
  | .ok bytes =>
    match Text.Utf8.decode? bytes with
    | none => .error (.io "stream did not contain valid UTF-8")
    | some s => parse s

end Config

end TxDispatch
