import OpenRsp.Daemon.Tuning

/-!
# Front-end controls of a handle

A freshly opened handle has every control off.  Of the two channels of a dual
configuration the second is written last, and with it the controls the tuners
share: the external reference, the AM port and the AM notch.
-/

namespace OpenRsp

/-- The controls of a handle are those of a configuration.  The AM port and
its notch belong to tuner A. -/
structure ControlRegisters.Holds
    (controls : ControlRegisters) (config : RadioConfig) : Prop where
  biasTee : (if config.tuner = tunerB then controls.biasTeeB
      else controls.biasTeeA) = some config.biasTeeEnabled
  rfNotch : (if config.tuner = tunerB then controls.rfNotchB
      else controls.rfNotchA) = some config.rfNotchEnabled
  dabNotch : (if config.tuner = tunerB then controls.dabNotchB
      else controls.dabNotchA) = some config.dabNotchEnabled
  externalReference : controls.externalReference = some config.externalReferenceEnabled
  amPort : config.tuner ≠ tunerB → controls.amPort = some (if config.amPortSelect ≠ 0 then 1 else 2)
  amNotch : config.tuner ≠ tunerB → controls.amNotch = some config.amNotchEnabled

/-- Every control of a configuration is off. -/
def RadioConfig.ControlsOff (config : RadioConfig) : Prop :=
  config.biasTeeEnabled = 0 ∧ config.rfNotchEnabled = 0 ∧
    config.dabNotchEnabled = 0 ∧ config.externalReferenceEnabled = 0 ∧
    (config.tuner ≠ tunerB → config.amPortSelect = 0 ∧ config.amNotchEnabled = 0)

/-- Tuner A asks for what tuner B leaves of the controls they share. -/
def DualConfig.SharesControls (config : DualConfig) : Prop :=
  config.channelA.externalReferenceEnabled = config.channelB.externalReferenceEnabled ∧
    config.channelA.amPortSelect = 0 ∧ config.channelA.amNotchEnabled = 0

/-- A freshly opened handle has the controls of a configuration when they are
all off. -/
theorem opened_holds_iff (config : RadioConfig) :
    ControlRegisters.opened.Holds config ↔ config.ControlsOff := by
  constructor
  · intro holds
    refine ⟨?_, ?_, ?_, ?_, fun onA => ⟨?_, ?_⟩⟩
    · simpa [ControlRegisters.opened, eq_comm] using holds.biasTee
    · simpa [ControlRegisters.opened, eq_comm] using holds.rfNotch
    · simpa [ControlRegisters.opened, eq_comm] using holds.dabNotch
    · simpa [ControlRegisters.opened, eq_comm] using holds.externalReference
    · by_contra selected
      have port := holds.amPort onA
      simp [ControlRegisters.opened, selected] at port
    · simpa [ControlRegisters.opened, eq_comm] using holds.amNotch onA
  · rintro ⟨biasTee, rfNotch, dabNotch, externalReference, am⟩
    exact
      { biasTee := by simp [ControlRegisters.opened, biasTee]
        rfNotch := by simp [ControlRegisters.opened, rfNotch]
        dabNotch := by simp [ControlRegisters.opened, dabNotch]
        externalReference := by
          simp [ControlRegisters.opened, externalReference]
        amPort := fun onA => by simp [ControlRegisters.opened, (am onA).1]
        amNotch := fun onA => by simp [ControlRegisters.opened, (am onA).2] }

/-- Writing the controls of a configuration leaves them. -/
theorem write_holds (controls : ControlRegisters) (config : RadioConfig) :
    (controls.write 0 config).Holds config := by
  by_cases onB : config.tuner = tunerB <;>
    constructor <;> simp [ControlRegisters.write, written, onB]

/-- After both channels have been written, each has its controls exactly when
tuner A asks for no other shared ones. -/
theorem write_dual_holds_iff (controls : ControlRegisters) {dual : DualConfig}
    (valid : validDualConfig dual = true) :
    (∀ config ∈ [dual.channelA, dual.channelB],
        ((controls.write 0 dual.channelA).write 0 dual.channelB).Holds config) ↔
      dual.SharesControls := by
  simp only [validDualConfig, Bool.and_eq_true, beq_iff_eq] at valid
  have validB : openrspdConfigValid dual.channelB = true := by tauto
  have onA : dual.channelA.tuner = tunerA := by tauto
  have onB : dual.channelB.tuner = tunerB := by tauto
  have notB : dual.channelA.tuner ≠ tunerB := by
    rw [onA]
    decide
  have unported : dual.channelB.amPortSelect = 0 ∧ dual.channelB.amNotchEnabled = 0 := by
    simp only [openrspdConfigValid, Bool.and_eq_true] at validB
    simp_all
  constructor
  · intro holds
    have holdsA := holds dual.channelA List.mem_cons_self
    have reference := holdsA.externalReference
    have port := holdsA.amPort notB
    have notch := holdsA.amNotch notB
    simp only [ControlRegisters.write, written, if_pos onB, if_true, Option.some.injEq, unported]
      at reference port notch
    refine ⟨reference.symm, ?_, notch.symm⟩
    by_contra selected
    simp [selected] at port
  · rintro ⟨reference, port, notch⟩ config member
    rcases List.mem_pair.mp member with rfl | rfl
    · constructor <;>
        simp [ControlRegisters.write, written, onB, notB, reference, port, notch, unported]
    · exact write_holds _ _

end OpenRsp
