import SpillSelection.Json.Basic
import SpillSelection.Records
/-!
# Summary of a sample

How much a record file holds. A sample with a bad line has no summary.
-/

namespace SpillSelection

structure RecordSummary where
  spills : Nat := 0
  simulatedSpills : Nat := 0
  recoInteractions : Nat := 0
  trueInteractions : Nat := 0
  recoParticles : Nat := 0
  trueParticles : Nat := 0
  subruns : Nat := 0
deriving DecidableEq, Repr

namespace RecordSummary

/-- Counts a spill that the reader yields; each subrun is counted with its first spill. -/
def add (s : RecordSummary) (spill : Spill) : RecordSummary where
  spills := s.spills + 1
  simulatedSpills := s.simulatedSpills + spill.header.isMc.toNat
  recoInteractions := s.recoInteractions + spill.reco.length
  trueInteractions := s.trueInteractions + spill.truth.length
  recoParticles := s.recoParticles + (spill.particles .reco).length
  trueParticles := s.trueParticles + (spill.particles .truth).length
  subruns := s.subruns + spill.header.firstInSubrun.toNat

/-- The summary of some records, or the first error among them. -/
def ofItems (items : List RecordItem) : Except RecordError RecordSummary :=
  items.foldlM (fun s item => s.add <$> item) {}

def toJson (s : RecordSummary) : Json :=
  .sortedObject
    [("spills", .ofNat s.spills),
     ("simulatedSpills", .ofNat s.simulatedSpills),
     ("recoInteractions", .ofNat s.recoInteractions),
     ("trueInteractions", .ofNat s.trueInteractions),
     ("recoParticles", .ofNat s.recoParticles),
     ("trueParticles", .ofNat s.trueParticles),
     ("subruns", .ofNat s.subruns)]

end RecordSummary

end SpillSelection
