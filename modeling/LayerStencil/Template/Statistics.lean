import LayerStencil.Template.Expansion

/-! # Statistics of an expansion

The tallies of one control, which is visited once for every item around it, are added up. The sums
come in the order of the lines of the controls; on one line, in the order in which the controls
were first done.
-/

namespace LayerStencil

namespace Tally

/-- Adds a tally to the one of the same control, or as a new one at the end. -/
def addTo (t : Tally) : List Tally → List Tally
  | [] => [t]
  | u :: us =>
    if u.start = t.start then
      { u with visited := u.visited + t.visited, emitted := u.emitted + t.emitted } :: us
    else u :: addTo t us

/-- One tally for each control, in the order of first appearance. -/
def total (ts : List Tally) : List Tally := ts.foldl (fun acc t => t.addTo acc) []

end Tally

/-- The statistics that a sequence of events reports. -/
def Event.statistics (events : List Event) : List Tally :=
  (Tally.total (events.filterMap Event.tally?)).mergeSort fun t u => t.line ≤ u.line

end LayerStencil
