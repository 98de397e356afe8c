/-!
# Room for reading

A document is read in steps, and a step is taken within another one where a part of the document
stands in another part.  Only so many steps may be open at once, so what stands in too many parts
cannot be read.
-/

namespace SlashCommand.Document

/-- How many steps may be open at once. -/
def stepLimit : Nat :=
  1000

/-- What the last step would have been that there was no room for. -/
inductive LastStep where
  /-- The reading of a part. -/
  | reading
  /-- A single operation. -/
  | operation
  /-- The comparison of two texts. -/
  | comparison
  deriving DecidableEq, Repr

/-- What is said if there was no room for a step. -/
def LastStep.message (last : LastStep) : String :=
  "maximum recursion depth exceeded" ++
    match last with
    | reading => ""
    | operation => " while calling a Python object"
    | comparison => " in comparison"

end SlashCommand.Document
