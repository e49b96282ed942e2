import DotScribe.Journal
import DotScribe.Text.Fields

/-!
# Filter specifications

A specification says in one line which records to show. It is a list of pieces, divided by
commas, and after a slash a text that a message has to contain:

* `level` sets the verbosity of every origin;
* `scope` or `scope=` shows everything from the origins whose path starts with the scope;
* `scope=level` sets the verbosity of those origins.

A level is one of `off`, `error`, `warn`, `info`, `debug` and `trace`, in any case. A piece that
makes no sense is left out with a warning, and so is a specification with more than one slash.

* `Specification.parse` reads a specification.
* `Warning.message` is the text of a warning.
-/

namespace DotScribe

/-- The verbosity with the given name, in any case. -/
def Verbosity.ofName? (name : List Char) : Option Verbosity :=
  let word := String.ofList (name.map Char.toLower)
  if word = "off" then some .off
  else if word = "error" then some (.upTo .error)
  else if word = "warn" then some (.upTo .warn)
  else if word = "info" then some (.upTo .info)
  else if word = "debug" then some (.upTo .debug)
  else if word = "trace" then some (.upTo .trace)
  else none

/-- The verbosity of the origins under a scope, or of all. -/
structure Directive where
  scope : Option String
  verbosity : Verbosity
deriving DecidableEq

/-- What a specification is blamed for. -/
inductive Warning
  | manySlashes (specification : String)
  /-- What stands behind the scope is no level. -/
  | unknownLevel (word : String)
  /-- The piece has more than one equals sign. -/
  | malformed (piece : String)
deriving DecidableEq

def Warning.message : Warning → String
  | manySlashes specification =>
    "warning: invalid logging spec '" ++ specification ++ "' (too many '/'s), ignoring it"
  | unknownLevel word => "warning: invalid logging spec '" ++ word ++ "', ignoring it"
  | malformed piece => "warning: invalid logging spec '" ++ piece ++ "', ignoring it"

structure Specification where
  directives : List Directive
  /-- The text that a message has to contain, if any. -/
  needle : Option String
  warnings : List Warning

namespace Specification

def empty : Specification :=
  { directives := [], needle := none, warnings := [] }

/-- Reads a piece that has no blanks around it. -/
def readPiece (piece : List Char) : Except Warning Directive :=
  match Text.fields '=' piece with
  | [word] =>
    match Verbosity.ofName? word with
    | some verbosity => .ok { scope := none, verbosity }
    | none => .ok { scope := some (String.ofList word), verbosity := .upTo .trace }
  | [scope, level] =>
    let level := Text.trim level
    if level.isEmpty then
      .ok { scope := some (String.ofList scope), verbosity := .upTo .trace }
    else
      match Verbosity.ofName? level with
      | some verbosity => .ok { scope := some (String.ofList scope), verbosity }
      | none => .error (.unknownLevel (String.ofList level))
  | _ => .error (.malformed (String.ofList piece))

/-- The pieces of a list, without the blanks around them and without empty ones. -/
def pieces (list : List Char) : List (List Char) :=
  ((Text.fields ',' list).map Text.trim).filter fun piece => !piece.isEmpty

def directive? : Except Warning Directive → Option Directive
  | .ok directive => some directive
  | .error _ => none

def warning? : Except Warning Directive → Option Warning
  | .ok _ => none
  | .error warning => some warning

def ofPieces (list : List Char) (needle : Option String) : Specification :=
  let read := (pieces list).map readPiece
  { directives := read.filterMap directive?, needle, warnings := read.filterMap warning? }

def parse (specification : String) : Specification :=
  match Text.fields '/' specification.toList with
  | [list] => ofPieces list none
  | [list, needle] => ofPieces list (some (String.ofList needle))
  | _ => { directives := [], needle := none, warnings := [.manySlashes specification] }

end Specification

end DotScribe
