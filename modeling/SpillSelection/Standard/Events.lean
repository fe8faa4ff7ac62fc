import SpillSelection.Catalog.Scoped
import SpillSelection.Physics.Beam
import SpillSelection.Physics.Flash
/-!
# Cuts and variables of spills, beam records and neutrinos

The names of what can be asked of a whole spill, of a record of the beam line, and of a
generated neutrino.
-/

namespace SpillSelection.Standard

/-- A variable of spills. -/
def ofSpill (name : String) (read : Spill → Float) : Declaration :=
  .ofVariable name (.on .event (.plain read))

/-- A variable of neutrinos. -/
def ofNeutrino (name : String) (read : Neutrino → Float) : Declaration :=
  .ofVariable name (.on .neutrino (.plain read))

def events : List Declaration :=
  [.ofCut "no_cut" (.on .event (.plain fun _ => true)),
   .ofCut "global_trigger_time_cut"
     (.on .event (.parameterized (.anyOf [0, 2]) Spill.isTriggeredWithin)),
   .ofCut "no_cut" (.on .beam (.plain fun _ => true)),
   .ofCut "beam_quality_cut" (.on .beam (.plain BeamRecord.isGood)),
   ofSpill "ntrue" fun spill => Float.ofNat spill.truth.length,
   ofSpill "nreco" fun spill => Float.ofNat spill.reco.length,
   ofSpill "is_first_in_subrun" fun spill => flag spill.header.firstInSubrun,
   ofSpill "pot" fun spill => spill.header.pot,
   .ofVariable "pot_from_spillinfo"
     (.on .event (.parameterized (.anyOf [0, 1]) Spill.toroidSum)),
   ofSpill "ngenevt" fun spill => spill.header.ngenevt,
   ofSpill "nbnb" fun spill => Float.ofNat spill.header.bnbInfo.length,
   ofSpill "nnumi" fun spill => Float.ofNat spill.header.numiInfo.length,
   ofSpill "noffbeambnb" fun spill => Float.ofNat spill.header.noffbeamBnb.toNat,
   ofSpill "noffbeamnumi" fun spill => Float.ofNat spill.header.noffbeamNumi.toNat,
   ofSpill "global_trigger_time" fun spill => spill.header.trigger.globalTriggerTime,
   ofSpill "beam_gate_time_abs" fun spill => spill.header.trigger.beamGateTimeAbs,
   ofSpill "trigger_within_gate" fun spill => spill.header.trigger.triggerWithinGate,
   .ofVariable "time_of_flash_closest_to_trigger"
     (.on .event (.parameterized (.atLeast 1) Spill.closestFlashTime)),
   ofSpill "run" fun spill => ofInt64 spill.header.run,
   ofSpill "subrun" fun spill => ofInt64 spill.header.subrun,
   ofSpill "event" fun spill => ofInt64 spill.header.event]

def neutrinos : List Declaration :=
  [ofNeutrino "neutrino_energy" fun n => n.energy,
   ofNeutrino "baseline" fun n => n.baseline,
   ofNeutrino "pdg" fun n => ofInt64 n.pdg,
   ofNeutrino "cc" fun n => flag n.isCc,
   ofNeutrino "interaction_mode" fun n => ofInt64 n.genieMode,
   ofNeutrino "interaction_type" fun n => ofInt64 n.genieIntType]

end SpillSelection.Standard
