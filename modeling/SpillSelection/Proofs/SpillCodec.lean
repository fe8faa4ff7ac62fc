import SpillSelection.Spill.Encode
import SpillSelection.Spill.Decode
import SpillSelection.Proofs.FloatRange
import SpillSelection.Proofs.FloatText
import SpillSelection.Proofs.RecordFields
/-!
# Spills that are read as they were written

The floats of a record decide whether it can be read again. A record is read as itself if all of
them are finite and read back from their decimal text (`decodes_spill`), and it is not read at all
if one of them is not finite, since no decoder of a float accepts the `null` written for it.
`Decodes` says both of a step of a decoder, so that they are carried through the fields of a record
together.
-/

namespace SpillSelection

open Json

/-! ## The floats of a record -/

def ParticleCore.floats (p : ParticleCore) : List Float :=
  p.momentum.toList ++ (p.startPoint.toList ++ (p.endPoint.toList ++ (p.startDir.toList ++
    (p.caloKe :: p.length :: p.matchOverlaps))))

def TrueParticle.floats (p : TrueParticle) : List Float :=
  p.core.floats ++ [p.energyInit, p.mass, p.t]

def PrimaryScores.toList (v : PrimaryScores) : List Float := [v.secondary, v.primary]

def RecoParticle.floats (p : RecoParticle) : List Float :=
  p.core.floats ++ (p.pidScores.toList ++ (p.primaryScores.toList ++ (p.csdaKe.toList ++
    p.mcsKe.toList)))

def Particle.floats : {s : Side} → Particle s → List Float
  | .truth, p => TrueParticle.floats p
  | .reco, p => RecoParticle.floats p

def Interaction.floats (i : Interaction s) : List Float :=
  i.vertex.toList ++ (i.flashTimes ++ (i.flashTotalPe :: i.flashHypoPe ::
    (i.particles.flatMap Particle.floats ++ i.matchOverlaps)))

def Trigger.floats (t : Trigger) : List Float :=
  [t.globalTriggerTime, t.beamGateTimeAbs, t.triggerWithinGate, t.beamGateDetTime,
    t.globalTriggerDetTime]

def BeamRecord.floats (b : BeamRecord) : List Float :=
  [b.tor860, b.tor875, b.lm875a, b.lm875b, b.lm875c, b.thcurr]

def Flash.floats (f : Flash) : List Float := [f.time, f.firstTime, f.totalPe]

def Neutrino.floats (n : Neutrino) : List Float := [n.energy, n.baseline]

def Header.floats (h : Header) : List Float :=
  h.pot :: h.ngenevt :: (h.trigger.floats ++ (h.beam.toList.flatMap BeamRecord.floats ++
    (h.bnbInfo.flatMap BeamRecord.floats ++ h.numiInfo.flatMap BeamRecord.floats)))

/-- All the floats of a spill. -/
def Spill.floats (s : Spill) : List Float :=
  s.header.floats ++ (s.reco.flatMap Interaction.floats ++ (s.truth.flatMap Interaction.floats ++
    (s.mc.flatMap Neutrino.floats ++ s.flashes.flatMap Flash.floats)))

/-! ## Floats that are read as they were written -/

/-- The decimal text of a float is read as that float. -/
def ReadsBack (x : Float) : Prop :=
  ∀ literal ∈ Decimal.text? x, (Numeral.read? literal.toList).bind Numeral.toFloat? = some x

instance (x : Float) : Decidable (ReadsBack x) :=
  inferInstanceAs (Decidable (∀ literal ∈ Decimal.text? x, _))

/-- Not every finite float reads back: reading rounds twice, and may yield a neighbour. -/
example : ¬ReadsBack 9.999999999999999e-06 := by decide +kernel

theorem asFloat_ofFloat {x : Float} (finite : x.isFinite) (back : ReadsBack x) :
    asFloat (ofFloat x) = .ok x := by
  have text : Decimal.text? x = some (String.ofList (Decimal.chars x)) := if_pos finite
  have value := back _ text
  simp only [ofFloat, text, asFloat, value]

theorem isFinite_of_asFloat {x y : Float} (h : asFloat (ofFloat x) = .ok y) : x.isFinite := by
  by_contra infinite
  have text : Decimal.text? x = none := if_neg infinite
  simp [ofFloat, text, asFloat] at h

/-! ## Steps of a decoder -/

/-- A decoder's result is the one that is wanted if some floats are finite and read back, and no
success at all if one of them is not finite. -/
structure Decodes (result wanted : Except Fault α) (floats : List Float) : Prop where
  reads : (∀ x ∈ floats, x.isFinite ∧ ReadsBack x) → result = wanted
  finite : ∀ a, result = .ok a → ∀ x ∈ floats, x.isFinite

namespace Decodes

variable {α β : Type} {r : Except Fault α} {a : α} {fs gs : List Float} {k g : α → Except Fault β}

theorem refl (r : Except Fault α) : Decodes r r [] := ⟨fun _ => rfl, fun _ _ _ hx => nomatch hx⟩

/-- Whatever the first step yields, the rest asks for its own floats, so that a result that is
wrong hides none that is not finite. -/
theorem bind (h : Decodes r (.ok a) fs) (next : ∀ a, Decodes (k a) (g a) gs) :
    Decodes (r >>= k) (g a) (fs ++ gs) where
  reads good := by
    rw [h.reads fun x hx => good x (List.mem_append_left gs hx)]
    exact (next a).reads fun x hx => good x (List.mem_append_right fs hx)
  finite b success x hx := by
    obtain ⟨a', first, rest⟩ := ok_bind_iff.1 success
    rcases List.mem_append.1 hx with hx | hx
    · exact h.finite a' first x hx
    · exact (next a').finite b rest x hx

theorem last (h : Decodes r (.ok a) fs) : Decodes (r >>= k) (k a) fs :=
  List.append_nil fs ▸ h.bind fun a => refl (k a)

theorem ofFloat (x : Float) : Decodes (asFloat (ofFloat x)) (.ok x) [x] where
  reads good := (good x (by simp)).elim asFloat_ofFloat
  finite _ h := by simpa using isFinite_of_asFloat h

theorem float {x : Float} {k g : Float → Except Fault β} (next : ∀ x, Decodes (k x) (g x) gs) :
    Decodes (asFloat (Json.ofFloat x) >>= k) (g x) (x :: gs) :=
  (ofFloat x).bind next

theorem array {decode : Decoder α} {encode : α → Json} {floats : α → List Float}
    (h : ∀ a, Decodes (decode (encode a)) (.ok a) (floats a)) (as : List α) :
    Decodes (asList decode (.array (as.map encode))) (.ok as) (as.flatMap floats) := by
  induction as with
  | nil => exact refl _
  | cons a as ih =>
    rw [asList_array] at ih ⊢
    rw [List.map_cons, List.mapM_cons, List.flatMap_cons]
    exact (h a).bind fun _ => ih.last

theorem ofFloats (xs : List Float) : Decodes (asList asFloat (ofFloats xs)) (.ok xs) xs := by
  simpa [Json.ofFloats] using array ofFloat xs

end Decodes

theorem asList_idsToJson (ids : List Int64) : asList asInt64 (idsToJson ids) = .ok ids :=
  asList_map asInt64_ofInt ids

theorem Decodes.fields {names : List String} {members : List (String × Json)}
    {wanted : Except Fault α} {fs : List Float} {k : Fields → Except Fault α}
    (nodup : (members.map (·.1)).Nodup)
    (next : ∀ f : Fields, (∀ m ∈ members, f m.1 = some m.2) → Decodes (k f) wanted fs) :
    Decodes (Json.fields names (.object members) >>= k) wanted fs := by
  obtain ⟨f, found, given⟩ := memberFields_eq nodup names
  have step : Json.fields names (.object members) = .ok f := found
  rw [step]
  exact next f given

/-! ## Records -/

theorem decodes_vec3 (v : Vec3) : Decodes (Vec3.ofJson v.toJson) (.ok v) v.toList :=
  (Decodes.ofFloats v.toList).last

theorem decodes_perClass (v : PerClass) : Decodes (PerClass.ofJson v.toJson) (.ok v) v.toList :=
  (Decodes.ofFloats v.toList).last

theorem decodes_primaryScores (v : PrimaryScores) :
    Decodes (PrimaryScores.ofJson (ofFloats [v.secondary, v.primary])) (.ok v) v.toList :=
  (Decodes.ofFloats v.toList).last

theorem decodes_trigger (t : Trigger) : Decodes (Trigger.ofJson t.toJson) (.ok t) t.floats := by
  refine .fields (by simp) fun f given => ?_
  simp only [List.forall_mem_cons] at given
  simp only [Fields.getD, given]
  exact .float fun _ => .float fun _ => .float fun _ => .float fun _ => (Decodes.ofFloat _).last

theorem decodes_beamRecord (b : BeamRecord) :
    Decodes (BeamRecord.ofJson b.toJson) (.ok b) b.floats := by
  refine .fields (by simp) fun f given => ?_
  simp only [List.forall_mem_cons] at given
  simp only [Fields.getD, given]
  exact .float fun _ => .float fun _ => .float fun _ => .float fun _ => .float fun _ =>
    (Decodes.ofFloat _).last

theorem decodes_beam (beam : Option BeamRecord) :
    Decodes (asOption BeamRecord.ofJson (ofOption BeamRecord.toJson beam)) (.ok beam)
      (beam.toList.flatMap BeamRecord.floats) := by
  cases beam with
  | none => exact .refl _
  | some b =>
    rw [Option.toList_some, List.flatMap_singleton]
    exact (decodes_beamRecord b).last

theorem decodes_flash (f : Flash) : Decodes (Flash.ofJson f.toJson) (.ok f) f.floats := by
  refine .fields (by simp) fun f given => ?_
  simp only [List.forall_mem_cons] at given
  simp only [Fields.getD, given, asInt64_ofInt, ok_bind]
  exact .float fun _ => .float fun _ => (Decodes.ofFloat _).last

theorem decodes_neutrino (n : Neutrino) :
    Decodes (Neutrino.ofJson n.toJson) (.ok n) n.floats := by
  refine .fields (by simp) fun f given => ?_
  simp only [List.forall_mem_cons] at given
  simp only [Fields.getD, given, asInt64_ofInt, asBool, ok_bind]
  exact .float fun _ => (Decodes.ofFloat _).last

theorem decodes_header (h : Header) : Decodes (Header.ofJson h.toJson) (.ok h) h.floats := by
  refine .fields (by simp) fun f given => ?_
  simp only [List.forall_mem_cons] at given
  simp only [Fields.getD, given, asInt64_ofInt, asUInt32_ofNat, asBool, ok_bind]
  exact .float fun _ => .float fun _ => (decodes_trigger h.trigger).bind fun _ =>
    (decodes_beam h.beam).bind fun _ => (Decodes.array decodes_beamRecord h.bnbInfo).bind fun _ =>
    (Decodes.array decodes_beamRecord h.numiInfo).last

/-! ## Particles -/

theorem decodes_core {p : ParticleCore} {f : Fields} (given : ∀ m ∈ p.members, f m.1 = some m.2) :
    Decodes (ParticleCore.ofFields f) (.ok p) p.floats := by
  simp only [ParticleCore.members, List.forall_mem_cons] at given
  simp only [ParticleCore.ofFields, Fields.getD, given, asInt64_ofInt, asBool, asList_idsToJson,
    ok_bind]
  exact (decodes_vec3 p.momentum).bind fun _ => (decodes_vec3 p.startPoint).bind fun _ =>
    (decodes_vec3 p.endPoint).bind fun _ => (decodes_vec3 p.startDir).bind fun _ =>
    .float fun _ => .float fun _ => (Decodes.ofFloats p.matchOverlaps).last

/-! A particle's common part is kept as plain values before it is read: its numbers are floats in
range, integers among them, and lie in lists at most. -/

theorem le_foldl_digits (value : Nat) (ds : List Char) :
    value ≤ ds.foldl (fun n d => 10 * n + (d.toNat - '0'.toNat)) value := by
  induction ds generalizing value with
  | nil => exact Nat.le_refl value
  | cons d ds ih => exact Nat.le_trans (by omega) (ih (10 * value + (d.toNat - '0'.toNat)))

theorem takeDigits_eq {value : Nat} {ds : List Char}
    (h : ds.foldl (fun n d => 10 * n + (d.toNat - '0'.toNat)) value < UInt64.size) :
    Decimal.takeDigits value ds =
      (ds.foldl (fun n d => 10 * n + (d.toNat - '0'.toNat)) value, ds.length) := by
  induction ds generalizing value with
  | nil => rfl
  | cons d ds ih =>
    have fits := Nat.lt_of_le_of_lt (le_foldl_digits _ ds) h
    rw [List.foldl_cons] at h ⊢
    rw [Decimal.takeDigits, if_pos fits, ih h]
    rfl

theorem toFloat?_ofInt_isSome {z : Int} (h : z.natAbs < UInt64.size) :
    (Numeral.ofInt z).toFloat?.isSome := by
  have digits : Decimal.takeDigits 0 (Nat.toDigits 10 z.natAbs) =
      (z.natAbs, (Nat.toDigits 10 z.natAbs).length) := by
    have value := Numeral.ofDigits_toDigits z.natAbs
    rw [Decimal.ofDigits] at value
    rw [takeDigits_eq (by rwa [value]), value]
  simp [Numeral.toFloat?, Numeral.ofInt, digits, Decimal.takeDigits, Decimal.scaled?_isSome h]

theorem isKeepable_ofInt (z : Int64) : isKeepable (ofInt z.toInt) := by
  have least := z.le_toInt
  have greatest := z.toInt_lt
  have fits : z.toInt.natAbs < UInt64.size := by
    simp only [UInt64.size]
    omega
  rw [ofInt, isKeepable, Numeral.read?_toString]
  exact toFloat?_ofInt_isSome fits

theorem isKeepable_ofFloat {x : Float} (good : x.isFinite ∧ ReadsBack x) :
    isKeepable (ofFloat x) := by
  have text : Decimal.text? x = some (String.ofList (Decimal.chars x)) := if_pos good.1
  rw [ofFloat, text]
  exact Option.isSome_iff_exists.2 ⟨x, good.2 _ text⟩

theorem areKeepable_map {encode : α → Json} {as : List α} (h : ∀ a ∈ as, isKeepable (encode a)) :
    areKeepable (as.map encode) := by
  induction as with
  | nil => rfl
  | cons a as ih =>
    obtain ⟨first, others⟩ := List.forall_mem_cons.1 h
    simp [areKeepable, first, ih others]

theorem isKeepable_ofFloats {xs : List Float} (good : ∀ x ∈ xs, x.isFinite ∧ ReadsBack x) :
    isKeepable (ofFloats xs) :=
  areKeepable_map fun x hx => isKeepable_ofFloat (good x hx)

theorem isKeepable_core {p : ParticleCore} (good : ∀ x ∈ p.floats, x.isFinite ∧ ReadsBack x) :
    areKeepableMembers p.members := by
  have ids : isKeepable (idsToJson p.matchIds) := areKeepable_map fun z _ => isKeepable_ofInt z
  simp only [ParticleCore.floats, List.forall_mem_append, List.forall_mem_cons] at good
  obtain ⟨momentum, start, stop, direction, energy, length, overlaps⟩ := good
  simp only [ParticleCore.members, areKeepableMembers, isKeepable_ofInt, ids, Vec3.toJson,
    isKeepable_ofFloats momentum, isKeepable_ofFloats start, isKeepable_ofFloats stop,
    isKeepable_ofFloats direction, isKeepable_ofFloat energy, isKeepable_ofFloat length,
    isKeepable_ofFloats overlaps]
  rfl

theorem depth_ofFloat (x : Float) : depth (ofFloat x) = 0 := by
  unfold ofFloat
  split <;> rfl

theorem depthItems_map {encode : α → Json} (h : ∀ a, depth (encode a) = 0) (as : List α) :
    depthItems (as.map encode) = 0 := by
  induction as with
  | nil => rfl
  | cons a as ih => simp [depthItems, h, ih]

theorem depth_core (p : ParticleCore) : depthMembers p.members = 1 := by
  have ids : depth (idsToJson p.matchIds) = 1 := congrArg (· + 1) (depthItems_map (fun _ => rfl) _)
  have floats (xs : List Float) : depth (ofFloats xs) = 1 :=
    congrArg (· + 1) (depthItems_map depth_ofFloat xs)
  simp [ParticleCore.members, depthMembers, depth, Vec3.toJson, ofInt, depth_ofFloat, floats, ids]

/-- The common part of a particle is kept while its own fields are read. -/
theorem Decodes.particle (own : List (String × Json)) {p : ParticleCore}
    {wanted : Except Fault α} {fs : List Float} {k : Fields × Fields → Except Fault α}
    (nodup : ((p.members ++ own).map (·.1)).Nodup) (kept : p.floats ⊆ fs)
    (next : ∀ f common : Fields, (∀ m ∈ own, f m.1 = some m.2) →
      (∀ m ∈ p.members, common m.1 = some m.2) → Decodes (k (f, common)) wanted fs) :
    Decodes (particleFields (own.map (·.1)) (.object (p.members ++ own)) >>= k) wanted fs := by
  obtain ⟨f, found, given⟩ := memberFields_eq nodup (own.map (·.1))
  obtain ⟨core, -, apart⟩ := List.nodup_append.1 (List.map_append ▸ nodup)
  obtain ⟨common, foundCommon, givenCommon⟩ := memberFields_eq core ParticleCore.names
  have rest := next f common (fun m hm => given m (by simp [hm])) givenCommon
  -- The common part is what the fields of the particle's own kind leave.
  have filtered : (p.members ++ own).filter (fun m => !(own.map (·.1)).contains m.1) =
      p.members := by
    rw [List.filter_append, List.filter_eq_self.2, List.filter_eq_nil_iff.2, List.append_nil]
    · intro m hm
      simpa using ⟨m.2, hm⟩
    · intro m hm
      have other : m.1 ∉ own.map (·.1) := fun same =>
        apart m.1 (List.mem_map_of_mem hm) m.1 same rfl
      simpa using other
  have step : particleFields (own.map (·.1)) (.object (p.members ++ own)) =
      if areKeepableMembers p.members then .ok (f, common)
      else .error (.expected "plain values") := by
    simp only [particleFields, found, filtered, foundCommon, depth_core, keptDepth, ok_bind]
    cases areKeepableMembers p.members <;> rfl
  rw [step]
  split
  case isTrue => exact rest
  -- If the common part is not kept, one of its floats is to blame, and the particle is not read.
  case isFalse lost =>
    exact ⟨fun good => absurd (isKeepable_core fun x hx => good x (kept hx)) lost,
      fun a success => by simp at success⟩

theorem decodes_trueParticle (p : TrueParticle) :
    Decodes (TrueParticle.ofJson p.toJson) (.ok p) p.floats := by
  refine .particle [("energy_init", ofFloat p.energyInit), ("mass", ofFloat p.mass),
    ("t", ofFloat p.t)] (by simp [ParticleCore.members])
    (List.subset_append_left _ _) fun f common given givenCore => ?_
  simp only [List.forall_mem_cons] at given
  simp only [Fields.getD, given]
  exact (decodes_core givenCore).bind fun _ => .float fun _ => .float fun _ =>
    (Decodes.ofFloat _).last

theorem decodes_recoParticle (p : RecoParticle) :
    Decodes (RecoParticle.ofJson p.toJson) (.ok p) p.floats := by
  refine .particle [("pid_scores", p.pidScores.toJson),
    ("primary_scores", ofFloats [p.primaryScores.secondary, p.primaryScores.primary]),
    ("csda_ke_per_pid", p.csdaKe.toJson), ("mcs_ke_per_pid", p.mcsKe.toJson)]
    (by simp [ParticleCore.members]) (List.subset_append_left _ _)
    fun f common given givenCore => ?_
  simp only [List.forall_mem_cons] at given
  simp only [Fields.getD, given]
  exact (decodes_core givenCore).bind fun _ => (decodes_perClass p.pidScores).bind fun _ =>
    (decodes_primaryScores p.primaryScores).bind fun _ => (decodes_perClass p.csdaKe).bind fun _ =>
    (decodes_perClass p.mcsKe).last

theorem decodes_particle {s : Side} (p : Particle s) :
    Decodes (Particle.ofJson s p.toJson) (.ok p) p.floats := by
  cases s with
  | truth => exact decodes_trueParticle p
  | reco => exact decodes_recoParticle p

/-! ## Interactions and spills -/

theorem decodes_interaction {s : Side} (i : Interaction s) :
    Decodes (Interaction.ofJson s i.toJson) (.ok i) i.floats := by
  refine .fields (by simp) fun f given => ?_
  simp only [List.forall_mem_cons] at given
  simp only [Fields.getD, given, asInt64_ofInt, asBool, asList_idsToJson, ok_bind]
  exact (decodes_vec3 i.vertex).bind fun _ => (Decodes.ofFloats i.flashTimes).bind fun _ =>
    .float fun _ => .float fun _ => (Decodes.array decodes_particle i.particles).bind fun _ =>
    (Decodes.ofFloats i.matchOverlaps).last

/-- A spill is read as it was written if its floats are finite and read back, and not at all if one
of them is not finite. -/
theorem decodes_spill (s : Spill) : Decodes (Spill.ofJson s.toJson) (.ok s) s.floats := by
  refine .fields (by simp) fun f given => ?_
  simp only [List.forall_mem_cons] at given
  simp only [Fields.getD, given]
  exact (decodes_header s.header).bind fun _ =>
    (Decodes.array decodes_interaction s.reco).bind fun _ =>
    (Decodes.array decodes_interaction s.truth).bind fun _ =>
    (Decodes.array decodes_neutrino s.mc).bind fun _ =>
    (Decodes.array decodes_flash s.flashes).last

end SpillSelection
