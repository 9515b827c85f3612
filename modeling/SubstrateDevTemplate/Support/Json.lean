import Mathlib.Data.Rat.Defs
import SubstrateDevTemplate.Support.Script

/-!
# Support — JSON values

The values `JSON.parse` returns, and what code does with one of which it knows nothing: it reads a
property, or asks whether the value is truthy.

How a text denotes a value is left open, and so is on which of them either function throws: `parse`
on a text that is no JSON, `stringify` on a value that is nested too deep for the stack.  `JSON` is
any such pair whose `stringify` writes an object of one string.  What is proved about code that
reads and writes JSON then holds for those of the language.
-/

namespace Js

/-- A JSON value.  A number is finite, or overflows. -/
inductive Json where
  | null
  | bool (b : Bool)
  | number (x : ℚ)
  | infinity (negative : Bool)
  | string (s : String)
  | array (items : List Json)
  | object (entries : List (String × Json))

namespace Json

/-- `v[name]` of a value other than `null`, for a name that no prototype has; `none` is
`undefined`. -/
def get (v : Json) (name : String) : Option Json :=
  match v with
  | .object entries => entries.lookup name
  | _ => none

/-- A value, or `undefined`, is truthy. -/
def truthy : Option Json → Bool
  | none | some .null => false
  | some (.bool b) => b
  | some (.number x) => x ≠ 0
  | some (.string s) => s ≠ ""
  | some (.infinity _) | some (.array _) | some (.object _) => true

end Json

/-- `JSON.parse`, with the message of the `SyntaxError` it throws, and `JSON.stringify`, with that
of its `RangeError`. -/
structure JSON where
  parse : String → Except String Json
  stringify : Json → Except String String
  stringify_flat : ∀ name s, ∃ text, stringify (.object [(name, .string s)]) = .ok text

end Js
