import Quiesce.Runner.Basic

/-!
# Pages of the runner listing

The registry lists its runners page by page.

* `RunnerPage.toJson` and `RunnerPage.ofJson?` write and read a page.
-/

namespace Quiesce

structure RunnerPage where
  /-- The number of runners on all pages together, as the registry counts them. -/
  totalCount : UInt64
  runners : List Runner
deriving DecidableEq, Repr

namespace RunnerPage

def toJson (p : RunnerPage) : Json :=
  .ofFields [
    ("total_count", .ofInt p.totalCount.toNat),
    ("runners", .array (p.runners.map Runner.toJson))]

def ofJson? (j : Json) : Option RunnerPage := do
  let [totalCount, runners] ← j.members? ["total_count", "runners"] | none
  return {
    totalCount := ← totalCount.required? Json.word64?
    runners := ← runners.required? (Json.arrayOf? Runner.ofJson?) }

end RunnerPage

end Quiesce
