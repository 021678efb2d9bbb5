import SchemaCompiler.Decimal.Shortest
import SchemaCompiler.Text.Quoted
import SchemaCompiler.Toml.Moment

/-!
The values of TOML documents and the form in which messages show them.
-/

namespace SchemaCompiler.Toml

open Decimal

inductive Value where
  | string (value : String)
  | integer (value : Int)
  | float (value : FloatValue)
  | boolean (value : Bool)
  | moment (value : Moment)
  | array (items : List Value)
  /-- A table keeps its entries in order, no key twice. -/
  | table (entries : List (String × Value))
  deriving Inhabited

namespace Value

mutual

def display : Value → String
  | .string s => Text.showQuoted s
  | .integer n => toString n
  | .float x => String.ofList (shortestText x)
  | .boolean true => "True"
  | .boolean false => "False"
  | .moment m => m.display
  | .array items => "[" ++ ", ".intercalate (displayItems items) ++ "]"
  | .table entries => "\x7b" ++ ", ".intercalate (displayEntries entries) ++ "\x7d"

def displayItems : List Value → List String
  | [] => []
  | item :: rest => display item :: displayItems rest

def displayEntries : List (String × Value) → List String
  | [] => []
  | (key, value) :: rest => (Text.showQuoted key ++ ": " ++ display value) :: displayEntries rest

end

end Value

end SchemaCompiler.Toml
