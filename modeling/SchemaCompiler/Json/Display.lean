import SchemaCompiler.Json.Basic
import SchemaCompiler.Text.Quoted

/-!
The form in which messages show a JSON value, and the name of its kind.
-/

namespace SchemaCompiler.Json

open Decimal

def kindName : Json → String
  | .null => "NoneType"
  | .bool _ => "bool"
  | .integer _ => "int"
  | .float _ => "float"
  | .string _ => "str"
  | .array _ => "list"
  | .object _ => "dict"

mutual

def display : Json → String
  | .null => "None"
  | .bool true => "True"
  | .bool false => "False"
  | .integer n => toString n
  | .float x => String.ofList (shortestText x)
  | .string s => Text.showQuoted s
  | .array items => "[" ++ ", ".intercalate (displayItems items) ++ "]"
  | .object members => "\x7b" ++ ", ".intercalate (displayMembers members) ++ "\x7d"

def displayItems : List Json → List String
  | [] => []
  | item :: rest => display item :: displayItems rest

def displayMembers : List (WideText × Json) → List String
  | [] => []
  | (key, value) :: rest =>
    (Text.showQuoted key ++ ": " ++ display value) :: displayMembers rest

end

def shown : Json → String
  | .string s => s.shown
  | value => value.display

end SchemaCompiler.Json
