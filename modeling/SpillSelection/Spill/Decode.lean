import SpillSelection.Json.Decode
import SpillSelection.Spill.Basic
/-!
# Reading spills

A missing field has the value of the empty record. A particle is written as an object only: its
own fields and those of its common part stand side by side, so that every member which is not
one of its own is kept until the common part is read, and must be fit to be kept.
-/

namespace SpillSelection

open Json

def Vec3.ofJson : Decoder Vec3 := fun j => do
  match ← asList asFloat j with
  | [x, y, z] => .ok ⟨x, y, z⟩
  | _ => .error (.expected "three numbers")

def PerClass.ofJson : Decoder PerClass := fun j => do
  match ← asList asFloat j with
  | [a, b, c, d, e] => .ok ⟨a, b, c, d, e⟩
  | _ => .error (.expected "five numbers")

def PrimaryScores.ofJson : Decoder PrimaryScores := fun j => do
  match ← asList asFloat j with
  | [a, b] => .ok ⟨a, b⟩
  | _ => .error (.expected "two numbers")

/-! ## Particles -/

def ParticleCore.names : List String :=
  ["id", "interaction_id", "pid", "is_primary", "is_contained", "shape", "momentum",
   "start_point", "end_point", "start_dir", "calo_ke", "length", "match_ids", "match_overlaps"]

def ParticleCore.ofFields (f : Fields) : Except Fault ParticleCore := do
  return {
    id := ← f.getD "id" asInt64 0
    interactionId := ← f.getD "interaction_id" asInt64 0
    pid := ← f.getD "pid" asInt64 0
    isPrimary := ← f.getD "is_primary" asBool false
    isContained := ← f.getD "is_contained" asBool false
    shape := ← f.getD "shape" asInt64 0
    momentum := ← f.getD "momentum" Vec3.ofJson {}
    startPoint := ← f.getD "start_point" Vec3.ofJson {}
    endPoint := ← f.getD "end_point" Vec3.ofJson {}
    startDir := ← f.getD "start_dir" Vec3.ofJson {}
    caloKe := ← f.getD "calo_ke" asFloat 0
    length := ← f.getD "length" asFloat 0
    matchIds := ← f.getD "match_ids" (asList asInt64) []
    matchOverlaps := ← f.getD "match_overlaps" (asList asFloat) [] }

/-- How deep a kept member may be nested: 127 containers in all, of which the spill, its side,
the interaction, its particles and the particle are five. -/
def keptDepth : Nat := 122

/-- The fields of a particle and of its common part. -/
def particleFields (own : List String) : Decoder (Fields × Fields)
  | .object members => do
    let ownFields ← memberFields own members
    let kept := members.filter fun m => !own.contains m.1
    if !areKeepableMembers kept then throw (.expected "plain values")
    if keptDepth < depthMembers kept then throw .tooDeep
    return (ownFields, ← memberFields ParticleCore.names kept)
  | _ => .error (.expected "an object")

def TrueParticle.ofJson : Decoder TrueParticle := fun j => do
  let (f, common) ← particleFields ["energy_init", "mass", "t"] j
  return {
    core := ← ParticleCore.ofFields common
    energyInit := ← f.getD "energy_init" asFloat 0
    mass := ← f.getD "mass" asFloat 0
    t := ← f.getD "t" asFloat 0 }

def RecoParticle.ofJson : Decoder RecoParticle := fun j => do
  let (f, common) ← particleFields
    ["pid_scores", "primary_scores", "csda_ke_per_pid", "mcs_ke_per_pid"] j
  return {
    core := ← ParticleCore.ofFields common
    pidScores := ← f.getD "pid_scores" PerClass.ofJson {}
    primaryScores := ← f.getD "primary_scores" PrimaryScores.ofJson {}
    csdaKe := ← f.getD "csda_ke_per_pid" PerClass.ofJson {}
    mcsKe := ← f.getD "mcs_ke_per_pid" PerClass.ofJson {} }

def Particle.ofJson : (s : Side) → Decoder (Particle s)
  | .truth => TrueParticle.ofJson
  | .reco => RecoParticle.ofJson

/-! ## Interactions and spills -/

def Interaction.names : List String :=
  ["id", "vertex", "flash_times", "is_flash_matched", "flash_total_pe", "flash_hypo_pe",
   "is_contained", "is_fiducial", "nu_id", "current_type", "particles", "match_ids",
   "match_overlaps"]

def Interaction.ofJson (s : Side) : Decoder (Interaction s) := fun j => do
  let f ← fields Interaction.names j
  return {
    id := ← f.getD "id" asInt64 0
    vertex := ← f.getD "vertex" Vec3.ofJson {}
    flashTimes := ← f.getD "flash_times" (asList asFloat) []
    isFlashMatched := ← f.getD "is_flash_matched" asBool false
    flashTotalPe := ← f.getD "flash_total_pe" asFloat 0
    flashHypoPe := ← f.getD "flash_hypo_pe" asFloat 0
    isContained := ← f.getD "is_contained" asBool false
    isFiducial := ← f.getD "is_fiducial" asBool false
    nuId := ← f.getD "nu_id" asInt64 (-1)
    currentType := ← f.getD "current_type" asInt64 (-1)
    particles := ← f.getD "particles" (asList (Particle.ofJson s)) []
    matchIds := ← f.getD "match_ids" (asList asInt64) []
    matchOverlaps := ← f.getD "match_overlaps" (asList asFloat) [] }

def Trigger.names : List String :=
  ["global_trigger_time", "beam_gate_time_abs", "trigger_within_gate", "beam_gate_det_time",
   "global_trigger_det_time"]

def Trigger.ofJson : Decoder Trigger := fun j => do
  let f ← fields Trigger.names j
  return {
    globalTriggerTime := ← f.getD "global_trigger_time" asFloat 0
    beamGateTimeAbs := ← f.getD "beam_gate_time_abs" asFloat 0
    triggerWithinGate := ← f.getD "trigger_within_gate" asFloat 0
    beamGateDetTime := ← f.getD "beam_gate_det_time" asFloat 0
    globalTriggerDetTime := ← f.getD "global_trigger_det_time" asFloat 0 }

def BeamRecord.names : List String := ["tor860", "tor875", "lm875a", "lm875b", "lm875c", "thcurr"]

def BeamRecord.ofJson : Decoder BeamRecord := fun j => do
  let f ← fields BeamRecord.names j
  return {
    tor860 := ← f.getD "tor860" asFloat 0
    tor875 := ← f.getD "tor875" asFloat 0
    lm875a := ← f.getD "lm875a" asFloat 0
    lm875b := ← f.getD "lm875b" asFloat 0
    lm875c := ← f.getD "lm875c" asFloat 0
    thcurr := ← f.getD "thcurr" asFloat 0 }

def Flash.names : List String := ["id", "time", "firsttime", "total_pe"]

def Flash.ofJson : Decoder Flash := fun j => do
  let f ← fields Flash.names j
  return {
    id := ← f.getD "id" asInt64 0
    time := ← f.getD "time" asFloat 0
    firstTime := ← f.getD "firsttime" asFloat 0
    totalPe := ← f.getD "total_pe" asFloat 0 }

def Neutrino.names : List String :=
  ["id", "energy", "baseline", "pdg", "iscc", "genie_mode", "genie_inttype"]

def Neutrino.ofJson : Decoder Neutrino := fun j => do
  let f ← fields Neutrino.names j
  return {
    id := ← f.getD "id" asInt64 0
    energy := ← f.getD "energy" asFloat 0
    baseline := ← f.getD "baseline" asFloat 0
    pdg := ← f.getD "pdg" asInt64 0
    isCc := ← f.getD "iscc" asBool false
    genieMode := ← f.getD "genie_mode" asInt64 0
    genieIntType := ← f.getD "genie_inttype" asInt64 0 }

def Header.names : List String :=
  ["run", "subrun", "event", "ismc", "first_in_subrun", "pot", "ngenevt", "trigger", "beam",
   "bnb_info", "numi_info", "noffbeam_bnb", "noffbeam_numi"]

def Header.ofJson : Decoder Header := fun j => do
  let f ← fields Header.names j
  return {
    run := ← f.getD "run" asInt64 0
    subrun := ← f.getD "subrun" asInt64 0
    event := ← f.getD "event" asInt64 0
    isMc := ← f.getD "ismc" asBool false
    firstInSubrun := ← f.getD "first_in_subrun" asBool false
    pot := ← f.getD "pot" asFloat 0
    ngenevt := ← f.getD "ngenevt" asFloat 0
    trigger := ← f.getD "trigger" Trigger.ofJson {}
    beam := ← f.getD "beam" (asOption BeamRecord.ofJson) none
    bnbInfo := ← f.getD "bnb_info" (asList BeamRecord.ofJson) []
    numiInfo := ← f.getD "numi_info" (asList BeamRecord.ofJson) []
    noffbeamBnb := ← f.getD "noffbeam_bnb" asUInt32 0
    noffbeamNumi := ← f.getD "noffbeam_numi" asUInt32 0 }

def Spill.names : List String := ["header", "reco", "truth", "mc", "opflashes"]

def Spill.ofJson : Decoder Spill := fun j => do
  let f ← fields Spill.names j
  return {
    header := ← f.getD "header" Header.ofJson {}
    reco := ← f.getD "reco" (asList (Interaction.ofJson .reco)) []
    truth := ← f.getD "truth" (asList (Interaction.ofJson .truth)) []
    mc := ← f.getD "mc" (asList Neutrino.ofJson) []
    flashes := ← f.getD "opflashes" (asList Flash.ofJson) [] }

end SpillSelection
