import SpillSelection.Catalog.Scoped
import SpillSelection.Physics.FinalState
import SpillSelection.Physics.Identification
/-!
# Particle cuts and variables

The names of what can be asked of a particle. Scores are known of reconstructed particles only,
and the time of creation only of true ones.
-/

namespace SpillSelection

namespace Particle

/-- Whether the particle is of the class whose number is given. -/
def isClass (parameters : List Float) (p : Particle s) : Bool :=
  ofInt64 p.pid == parameters.headD nan

/-- A track that both enters and leaves the detector. -/
def isThroughgoing (p : Particle s) : Bool :=
  Pid.electron < p.pid && p.core.startPoint.isNearBoundary && p.core.endPoint.isNearBoundary

end Particle

namespace Standard

def particleCuts : List Declaration :=
  [.ofCut "is_primary" (.particles fun _ => .plain Particle.isPrimary),
   .ofCut "containment_cut" (.particles fun _ => .plain fun p => p.core.isContained),
   .ofCut "final_state_signal" (.particles fun _ => .plain Particle.isVisible),
   .ofCut "is_pid" (.particles fun _ => .parameterized (.exactly 1) Particle.isClass),
   .ofCut "throughgoing" (.particles fun _ => .plain Particle.isThroughgoing),
   .ofCut "in_time" (.on (.particle .truth)
     (.parameterized (.exactly 2) TrueParticle.isCreatedWithin))]

/-- A variable that reads the common part of a particle. -/
def ofCore (name : String) (read : ParticleCore → Float) : Declaration :=
  .ofVariable name (.particles fun _ => .plain fun p => read p.core)

/-- A variable of reconstructed particles. -/
def ofReco (name : String) (read : RecoParticle → Float) : Declaration :=
  .ofVariable name (.on (.particle .reco) (.plain read))

def particleVariables : List Declaration :=
  [ofCore "pid" fun p => ofInt64 p.pid,
   ofCore "primary_classification" fun p => flag p.isPrimary,
   ofCore "semantic_type" fun p => ofInt64 p.shape,
   ofCore "iou" fun p => p.matchOverlaps.headD nan,
   ofCore "containment" fun p => flag p.isContained,
   .ofVariable "mass" (.particles fun _ => .plain Particle.mass),
   .ofVariable "ke" (.particles fun _ => .plain Particle.ke),
   .ofVariable "energy" (.particles fun _ => .plain Particle.energy),
   ofCore "calo_ke" fun p => p.caloKe,
   ofCore "length" fun p => p.length,
   ofCore "start_x" fun p => finiteOrNan p.startPoint.x,
   ofCore "start_y" fun p => finiteOrNan p.startPoint.y,
   ofCore "start_z" fun p => finiteOrNan p.startPoint.z,
   ofCore "end_x" fun p => finiteOrNan p.endPoint.x,
   ofCore "end_y" fun p => finiteOrNan p.endPoint.y,
   ofCore "end_z" fun p => finiteOrNan p.endPoint.z,
   ofCore "px" fun p => finiteOrNan p.momentum.x,
   ofCore "py" fun p => finiteOrNan p.momentum.y,
   ofCore "pz" fun p => finiteOrNan p.momentum.z,
   ofCore "momentum" fun p => p.momentum.magnitude,
   ofCore "cos_theta" fun p => p.startDir.z,
   ofReco "default_pid" fun p => ofInt64 p.core.pid,
   ofReco "lax_muon_pid" RecoParticle.laxPid,
   ofReco "default_primary_classification" fun p => flag p.core.isPrimary,
   ofReco "lax_primary_classification" fun p => flag p.isLaxPrimary,
   ofReco "csda_ke" fun p => p.csdaKe.get p.core.pid,
   ofReco "mcs_ke" fun p => p.mcsKe.get p.core.pid]

end Standard

end SpillSelection
