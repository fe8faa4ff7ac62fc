import SpillSelection.Json.Basic
import SpillSelection.Spill.Basic
/-!
# Writing spills

Every field of a record is written, in the declared order; the common part of a particle comes
first among its own fields. A float that is not finite is written as `null`.
-/

namespace SpillSelection

open Json

def Vec3.toJson (v : Vec3) : Json := ofFloats v.toList

def PerClass.toJson (v : PerClass) : Json := ofFloats v.toList

def idsToJson (ids : List Int64) : Json := .array (ids.map fun z => ofInt z.toInt)

def ParticleCore.members (p : ParticleCore) : List (String × Json) :=
  [("id", ofInt p.id.toInt),
   ("interaction_id", ofInt p.interactionId.toInt),
   ("pid", ofInt p.pid.toInt),
   ("is_primary", .bool p.isPrimary),
   ("is_contained", .bool p.isContained),
   ("shape", ofInt p.shape.toInt),
   ("momentum", p.momentum.toJson),
   ("start_point", p.startPoint.toJson),
   ("end_point", p.endPoint.toJson),
   ("start_dir", p.startDir.toJson),
   ("calo_ke", ofFloat p.caloKe),
   ("length", ofFloat p.length),
   ("match_ids", idsToJson p.matchIds),
   ("match_overlaps", ofFloats p.matchOverlaps)]

def TrueParticle.toJson (p : TrueParticle) : Json :=
  .object (p.core.members ++
    [("energy_init", ofFloat p.energyInit), ("mass", ofFloat p.mass), ("t", ofFloat p.t)])

def RecoParticle.toJson (p : RecoParticle) : Json :=
  .object (p.core.members ++
    [("pid_scores", p.pidScores.toJson),
     ("primary_scores", ofFloats [p.primaryScores.secondary, p.primaryScores.primary]),
     ("csda_ke_per_pid", p.csdaKe.toJson),
     ("mcs_ke_per_pid", p.mcsKe.toJson)])

def Particle.toJson : {s : Side} → Particle s → Json
  | .truth, p => TrueParticle.toJson p
  | .reco, p => RecoParticle.toJson p

def Interaction.toJson (i : Interaction s) : Json :=
  .object
    [("id", ofInt i.id.toInt),
     ("vertex", i.vertex.toJson),
     ("flash_times", ofFloats i.flashTimes),
     ("is_flash_matched", .bool i.isFlashMatched),
     ("flash_total_pe", ofFloat i.flashTotalPe),
     ("flash_hypo_pe", ofFloat i.flashHypoPe),
     ("is_contained", .bool i.isContained),
     ("is_fiducial", .bool i.isFiducial),
     ("nu_id", ofInt i.nuId.toInt),
     ("current_type", ofInt i.currentType.toInt),
     ("particles", .array (i.particles.map Particle.toJson)),
     ("match_ids", idsToJson i.matchIds),
     ("match_overlaps", ofFloats i.matchOverlaps)]

def Trigger.toJson (t : Trigger) : Json :=
  .object
    [("global_trigger_time", ofFloat t.globalTriggerTime),
     ("beam_gate_time_abs", ofFloat t.beamGateTimeAbs),
     ("trigger_within_gate", ofFloat t.triggerWithinGate),
     ("beam_gate_det_time", ofFloat t.beamGateDetTime),
     ("global_trigger_det_time", ofFloat t.globalTriggerDetTime)]

def BeamRecord.toJson (b : BeamRecord) : Json :=
  .object
    [("tor860", ofFloat b.tor860), ("tor875", ofFloat b.tor875), ("lm875a", ofFloat b.lm875a),
     ("lm875b", ofFloat b.lm875b), ("lm875c", ofFloat b.lm875c), ("thcurr", ofFloat b.thcurr)]

def Flash.toJson (f : Flash) : Json :=
  .object
    [("id", ofInt f.id.toInt), ("time", ofFloat f.time), ("firsttime", ofFloat f.firstTime),
     ("total_pe", ofFloat f.totalPe)]

def Neutrino.toJson (n : Neutrino) : Json :=
  .object
    [("id", ofInt n.id.toInt), ("energy", ofFloat n.energy), ("baseline", ofFloat n.baseline),
     ("pdg", ofInt n.pdg.toInt), ("iscc", .bool n.isCc), ("genie_mode", ofInt n.genieMode.toInt),
     ("genie_inttype", ofInt n.genieIntType.toInt)]

def Header.toJson (h : Header) : Json :=
  .object
    [("run", ofInt h.run.toInt),
     ("subrun", ofInt h.subrun.toInt),
     ("event", ofInt h.event.toInt),
     ("ismc", .bool h.isMc),
     ("first_in_subrun", .bool h.firstInSubrun),
     ("pot", ofFloat h.pot),
     ("ngenevt", ofFloat h.ngenevt),
     ("trigger", h.trigger.toJson),
     ("beam", ofOption BeamRecord.toJson h.beam),
     ("bnb_info", .array (h.bnbInfo.map BeamRecord.toJson)),
     ("numi_info", .array (h.numiInfo.map BeamRecord.toJson)),
     ("noffbeam_bnb", ofNat h.noffbeamBnb.toNat),
     ("noffbeam_numi", ofNat h.noffbeamNumi.toNat)]

def Spill.toJson (s : Spill) : Json :=
  .object
    [("header", s.header.toJson),
     ("reco", .array (s.reco.map Interaction.toJson)),
     ("truth", .array (s.truth.map Interaction.toJson)),
     ("mc", .array (s.mc.map Neutrino.toJson)),
     ("opflashes", .array (s.flashes.map Flash.toJson))]

end SpillSelection
