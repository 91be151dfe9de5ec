import WebFetch.Json.Printer
import WebFetch.Session

/-!
A console. Each call writes one line: its arguments, divided by blanks, with strings bare at every
depth.
-/

set_option autoImplicit false

namespace WebFetch.Console

mutual

def formatChars : Json.Value → List Char
  | .string s => s.toList
  | .array items => '[' :: (formatItems items ++ [']'])
  | .object members => '\x7b' :: (formatMembers members ++ ['\x7d'])
  | .null => Json.Value.null.chars
  | .bool b => (Json.Value.bool b).chars
  | .number n => n.render

def formatItems : List Json.Value → List Char
  | [] => []
  | [item] => formatChars item
  | item :: rest => formatChars item ++ ',' :: ' ' :: formatItems rest

def formatMembers : List (String × Json.Value) → List Char
  | [] => []
  | [(key, value)] => key.toList ++ ':' :: ' ' :: formatChars value
  | (key, value) :: rest =>
    key.toList ++ ':' :: ' ' :: (formatChars value ++ ',' :: ' ' :: formatMembers rest)

end

def format (value : Json.Value) : String := String.ofList (formatChars value)

def formatLine (values : List Json.Value) : String := " ".intercalate (values.map format)

inductive Method where
  | debug
  | log
  | info
  | warn
  | error
  | trace
  deriving DecidableEq

/-- There is no stack to show, so a trace is information like any other. -/
def Method.level : Method → Level
  | .debug => .debug
  | .log | .info | .trace => .info
  | .warn => .warn
  | .error => .error

def call (method : Method) (values : List Json.Value) : Run Unit :=
  record (.logged method.level .console (formatLine values))

end WebFetch.Console
