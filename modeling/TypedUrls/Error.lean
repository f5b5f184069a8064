import TypedUrls.Json.Decode

/-!
# What can go wrong in a generation run

Discovery is mostly total: a reference that cannot be resolved degrades to "no area" or "no
parameters", and a malformed route template to plain strings. The errors here are the cases that
must not degrade silently. An error met while classifying one declaration only skips that
declaration and is reported as a warning.
-/

namespace TypedUrls

/-- An error of a generation run. -/
inductive GenerationError where
  /-- A method declared `override` names no overridden method. -/
  | brokenOverride (typeName method : String)
  /-- Walking an override chain came back to a method already on it. -/
  | cyclicOverride (typeName method : String)
  /-- A configuration text that cannot be read. -/
  | config (e : Json.DecodeError)
deriving DecidableEq, Repr

namespace GenerationError

/-- The name of the kind of error. -/
def kind : GenerationError → String
  | .brokenOverride .. => "BrokenOverrideChain"
  | .cyclicOverride .. => "CyclicOverrideChain"
  | .config _ => "Config"

/-- The message of an error. -/
def message : GenerationError → String
  | .brokenOverride t m =>
    "method `" ++ t ++ "." ++ m ++ "` is declared override but its overridden method cannot be resolved"
  | .cyclicOverride t m => "override chain of `" ++ t ++ "." ++ m ++ "` is cyclic"
  | .config e => "invalid generator configuration: " ++ e.text

end GenerationError

end TypedUrls
