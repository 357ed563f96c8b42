import Uncaught.Diagnostic.Basic
import Uncaught.Json

/-!
Diagnostics as JSON records.

A diagnostic is written as an object in a fixed order of fields, without the callee and without the
declaration if there are none. Reading is more liberal. An object may have further fields, which are
ignored, and `null` for a missing optional one; an array may list the fields in their order, the
last two left out; and the kind may be the only key of an object instead of a text.
-/
namespace Uncaught

namespace IssueKind

/-- Reads a kind: its name, or an object with the name as its only key and nothing behind it. -/
def ofJson? : Json → Option IssueKind
  | .string name => ofName? name
  | .object [(name, .null)] => ofName? name
  | _ => none

end IssueKind

namespace Diagnostic

def toJson (d : Diagnostic) : Json :=
  .object ([("kind", .string d.kind.name), ("file", .string d.file),
    ("line", .integer d.line.toNat), ("column", .integer d.column.toNat),
    ("function", .string d.function), ("thrown_type", .string d.thrownType)] ++
    (d.invoked.map fun text => ("invoked", Json.string text)).toList ++
    (d.declared.map fun text => ("declared", Json.string text)).toList)

/-- Reads the fields of a record in their order. -/
def ofFields? (kind file line column function thrownType invoked declared : Json) :
    Option Diagnostic := do
  return {
    kind := ← IssueKind.ofJson? kind
    file := ← file.text?
    line := ← line.word?
    column := ← column.word?
    function := ← function.text?
    thrownType := ← thrownType.text?
    invoked := ← invoked.textOrNull?
    declared := ← declared.textOrNull? }

def ofJson? : Json → Option Diagnostic
  | .object fields => do
    let optional (key : String) : Json := (fields.lookup key).getD .null
    ofFields? (← fields.lookup "kind") (← fields.lookup "file") (← fields.lookup "line")
      (← fields.lookup "column") (← fields.lookup "function") (← fields.lookup "thrown_type")
      (optional "invoked") (optional "declared")
  | .array (kind :: file :: line :: column :: function :: thrownType :: rest) =>
    match rest with
    | [] => ofFields? kind file line column function thrownType .null .null
    | [invoked] => ofFields? kind file line column function thrownType invoked .null
    | [invoked, declared] => ofFields? kind file line column function thrownType invoked declared
    | _ => none
  | _ => none

end Diagnostic

end Uncaught
