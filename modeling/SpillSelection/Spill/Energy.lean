import SpillSelection.Spill.Basic
/-!
# Masses and energies of particles

The five particle classes with their rest masses (MeV), and the kinetic energy of a particle.
On the truth side it is the initial energy less the mass. On the reco side it is measured:
showers by calorimetry, tracks by their range when they are contained and by multiple
scattering when they are not. What is missing is not a number.
-/

namespace SpillSelection

/-- The float that is no number. -/
def nan : Float := 0 / 0

theorem isNaN_nan : nan.isNaN = true := by
  decide +kernel

/-- A float, or no number when it is infinite. -/
def finiteOrNan (x : Float) : Float := if x.isFinite then x else nan

/-- One for true, zero for false. -/
def flag (b : Bool) : Float := if b then 1 else 0

/-- An integer as a float, rounded to nearest. -/
def ofInt64 (z : Int64) : Float := Float.ofInt z.toInt

/-- The left-to-right sum, which starts from negative zero. -/
def sum (xs : List Float) : Float := xs.foldl (· + ·) (-0.0)

namespace Pid

def photon : Int64 := 0
def electron : Int64 := 1
def muon : Int64 := 2
def pion : Int64 := 3
def proton : Int64 := 4

/-- The rest mass of a class. -/
def mass (pid : Int64) : Float :=
  if pid = photon then 0
  else if pid = electron then 0.5109989461
  else if pid = muon then 105.6583745
  else if pid = pion then 139.57039
  else if pid = proton then 938.2720813
  else nan

end Pid

/-- The finite value of a class, if it is one of the five. -/
def PerClass.get (v : PerClass) (pid : Int64) : Float :=
  if 0 ≤ pid then ((v.toList[pid.toInt.toNat]?).map finiteOrNan).getD nan else nan

namespace RecoParticle

def mass (p : RecoParticle) : Float := Pid.mass p.core.pid

def ke (p : RecoParticle) : Float :=
  if p.core.pid < Pid.muon then p.core.caloKe
  else if p.core.isContained then p.csdaKe.get p.core.pid
  else p.mcsKe.get p.core.pid

end RecoParticle

def TrueParticle.ke (p : TrueParticle) : Float := p.energyInit - p.mass

namespace Particle

def pid (p : Particle s) : Int64 := p.core.pid

def isPrimary (p : Particle s) : Bool := p.core.isPrimary

/-- The rest mass: as recorded on the truth side, that of the class on the reco side. -/
def mass : {s : Side} → Particle s → Float
  | .truth, p => TrueParticle.mass p
  | .reco, p => RecoParticle.mass p

/-- The kinetic energy. -/
def ke : {s : Side} → Particle s → Float
  | .truth, p => TrueParticle.ke p
  | .reco, p => RecoParticle.ke p

/-- The total energy. -/
def energy (p : Particle s) : Float := p.ke + p.mass

end Particle

end SpillSelection
