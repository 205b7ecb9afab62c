import Switchboard.Dispatch.TypeTable

/-!
# The echo type

The command line has one type of its own, by which catalogs can be tried out: its method answers
with the values of the request.
-/

namespace Switchboard.CommandLine

variable {σ : Type}

/-- Answers with the values of the request as a single row. -/
def echo : Body σ := fun r => return .ofRow r.values

/-- The table of the type, which has no objects. -/
def echoTable : TypeTable σ := ⟨"bindery.Echo", "()", none, [⟨"echo", .static echo⟩]⟩

end Switchboard.CommandLine
