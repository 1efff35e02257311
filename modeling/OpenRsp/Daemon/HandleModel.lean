import OpenRsp.Protocol
import OpenRsp.Library.Runs
import Mathlib.Logic.Relation

/-!
# An abstract receiver handle

What the daemon knows of its handle, less everything that happens on the
wire: the tuner it was opened for, whether and how the receiver is
configured, and the stored configurations.  A move is one thing the daemon
may do to it as a whole.  Moves that keep a handle for another configuration,
store an update for later or lose the handle of a configured receiver are
governed by a policy, so that one description serves under each condition
an invariant needs.
-/

namespace OpenRsp

/-- The handle and the configurations stored for it. -/
@[ext]
structure HandleView where
  tuner : Option UInt32
  configured : Bool
  dualMode : Bool
  dualConfig : DualConfig
  config : RadioConfig
  bootstrapConfigured : Bool
  bootstrapConfig : RadioConfig
deriving DecidableEq, Repr

/-- What may happen to a handle besides opening and closing it in order. -/
structure HandlePolicy where
  /-- A handle open for a tuner may be kept for a configuration. -/
  reuses : UInt32 → RadioConfig → Prop
  /-- A configuration may be stored without being written. -/
  queues : HandleView → RadioConfig → Prop
  /-- The handle of a configured receiver may be lost. -/
  loses : Prop

namespace HandleView

/-- The configuration a lost single-tuner handle is reopened with. -/
def bootstrap (view : HandleView) : RadioConfig :=
  if view.bootstrapConfigured then view.bootstrapConfig else view.config

/-- A handle fit for a single-tuner configuration: a new one, or the one that
is open for a single tuner already. -/
def Offers (view : HandleView) (tuner : UInt32) (config : RadioConfig) :
    Prop :=
  tuner = config.tuner ∨ view.dualMode = false ∧ view.tuner = some tuner

/-- A handle fit for a dual configuration. -/
def OffersDual (view : HandleView) (tuner : UInt32) : Prop :=
  tuner = tunerBoth ∨ view.dualMode = true ∧ view.tuner = some tuner

end HandleView

/-- One thing the daemon may do to its handle. -/
inductive HandleMove (policy : HandlePolicy) :
    HandleView → HandleView → Prop
  | close (view : HandleView) (configured dualMode : Bool)
      (forgets : configured = false ∨ configured = view.configured ∧ policy.loses)
      (leaves : dualMode = false ∨ dualMode = view.dualMode) :
      HandleMove policy view
        { view with
          tuner := none
          configured := configured
          dualMode := dualMode }
  | leaveDual (view : HandleView) (closed : view.tuner = none) :
      HandleMove policy view { view with dualMode := false }
  | single (view : HandleView) (tuner : UInt32) (config : RadioConfig)
      (valid : openrspdConfigValid config = true)
      (fits : tuner = config.tuner ∨
          view.dualMode = false ∧ view.tuner = some tuner ∧ policy.reuses tuner config) :
      HandleMove policy view
        { view with
          tuner := some tuner
          configured := true
          dualMode := false
          config := config
          bootstrapConfigured := true
          bootstrapConfig := config }
  | reopen (view : HandleView) (tuner : UInt32) (config : RadioConfig)
      (stored : config = view.config ∨ config = view.bootstrap)
      (valid : openrspdConfigValid config = true)
      (fits : view.Offers tuner config) :
      HandleMove policy view
        { view with
          tuner := some tuner
          configured := true
          dualMode := false }
  | dual (view : HandleView) (tuner : UInt32) (config : DualConfig)
      (bootstrapConfigured : Bool)
      (valid : validDualConfig config = true)
      (fits : view.OffersDual tuner)
      (keeps : bootstrapConfigured = true → view.bootstrapConfigured = true) :
      HandleMove policy view
        { view with
          tuner := some tuner
          configured := true
          dualMode := true
          dualConfig := config
          bootstrapConfigured := bootstrapConfigured }
  | retune (view : HandleView) (config : RadioConfig)
      (valid : openrspdConfigValid config = true)
      (sameTuner : config.tuner = view.config.tuner) :
      HandleMove policy view { view with config := config }
  | retuneDual (view : HandleView) (config : DualConfig)
      (valid : validDualConfig view.dualConfig = true → validDualConfig config = true) :
      HandleMove policy view { view with dualConfig := config }
  | queue (view : HandleView) (config : RadioConfig)
      (valid : openrspdConfigValid config = true)
      (allowed : policy.queues view config) :
      HandleMove policy view { view with config := config }

/-- Any number of moves. -/
def HandleMoves (policy : HandlePolicy) : HandleView → HandleView → Prop :=
  Relation.ReflTransGen (HandleMove policy)

namespace HandleMoves

variable {policy : HandlePolicy} {first second third : HandleView}

theorem stay (view : HandleView) : HandleMoves policy view view := .refl

theorem of_eq (same : second = first) : HandleMoves policy first second := same ▸ .refl

theorem of_move (move : HandleMove policy first second) :
    HandleMoves policy first second :=
  .single move

theorem trans (left : HandleMoves policy first second) (right : HandleMoves policy second third) :
    HandleMoves policy first third :=
  Relation.ReflTransGen.trans left right

/-- What every move keeps, any number of moves keeps. -/
theorem keeps {invariant : HandleView → Prop}
    (preserved :
      ∀ before after, HandleMove policy before after → invariant before → invariant after)
    (moves : HandleMoves policy first second) (holds : invariant first) :
    invariant second := by
  induction moves with
  | refl => exact holds
  | tail _ move inductionHypothesis =>
      exact preserved _ _ move inductionHypothesis

end HandleMoves

/-! ## Handles in the right mode -/

/-- An open handle belongs to the mode, and the configuration stored for that
mode is valid. -/
structure HandleView.Sound (view : HandleView) : Prop where
  mode : ∀ tuner, view.tuner = some tuner → (tuner = tunerBoth ↔ view.dualMode = true)
  dual : view.tuner.isSome = true → view.dualMode = true → validDualConfig view.dualConfig = true
  single : view.tuner.isSome = true → view.dualMode = false → openrspdConfigValid view.config = true
  bootstrap : view.bootstrapConfigured = true → openrspdConfigValid view.config = true

/-- A valid single-tuner configuration does not address both tuners. -/
theorem tuner_ne_both {config : RadioConfig} (valid : openrspdConfigValid config = true) :
    config.tuner ≠ tunerBoth := by
  rcases tuner_of_openrspdConfigValid valid with isA | isB
  · rw [isA]
    decide
  · rw [isB]
    decide

namespace HandleView

variable {view : HandleView} {tuner : UInt32}

theorem Sound.offered (sound : view.Sound) {config : RadioConfig}
    (valid : openrspdConfigValid config = true)
    (fits : view.Offers tuner config) : tuner ≠ tunerBoth := by
  rcases fits with rfl | ⟨single, isOpen⟩
  · exact tuner_ne_both valid
  · intro both
    have dual := (sound.mode tuner isOpen).mp both
    rw [single] at dual
    cases dual

theorem Sound.offeredDual (sound : view.Sound)
    (fits : view.OffersDual tuner) : tuner = tunerBoth := by
  rcases fits with both | ⟨dual, isOpen⟩
  · exact both
  · exact (sound.mode tuner isOpen).mpr dual

/-- What is stored for reopening a single tuner is backed by a valid
configuration. -/
theorem Sound.stored (sound : view.Sound) {config : RadioConfig}
    (stored : config = view.config ∨ config = view.bootstrap)
    (valid : openrspdConfigValid config = true) :
    openrspdConfigValid view.config = true := by
  rcases stored with rfl | rfl
  · exact valid
  · by_cases configured : view.bootstrapConfigured = true
    · exact sound.bootstrap configured
    · simpa [HandleView.bootstrap, configured] using valid

/-- Every move keeps the handle in the right mode. -/
theorem Sound.move {policy : HandlePolicy} {after : HandleView}
    (move : HandleMove policy view after) (sound : view.Sound) :
    after.Sound := by
  cases move with
  | close configured dualMode forgets leaves =>
      exact
        { mode := by simp
          dual := by simp
          single := by simp
          bootstrap := sound.bootstrap }
  | leaveDual closed =>
      exact
        { mode := by simp [closed]
          dual := by simp [closed]
          single := by simp [closed]
          bootstrap := sound.bootstrap }
  | single tuner config valid fits =>
      have offers : view.Offers tuner config := fits.imp id fun kept => ⟨kept.1, kept.2.1⟩
      have notBoth := sound.offered valid offers
      exact
        { mode := by simpa using notBoth
          dual := by simp
          single := fun _ _ => valid
          bootstrap := fun _ => valid }
  | reopen tuner config stored valid fits =>
      have notBoth := sound.offered valid fits
      exact
        { mode := by simpa using notBoth
          dual := by simp
          single := fun _ _ => sound.stored stored valid
          bootstrap := sound.bootstrap }
  | dual tuner config bootstrapConfigured valid fits keeps =>
      have both := sound.offeredDual fits
      exact
        { mode := by simpa using both
          dual := fun _ _ => valid
          single := by simp
          bootstrap := fun configured => sound.bootstrap (keeps configured) }
  | retune config valid sameTuner =>
      exact
        { mode := sound.mode
          dual := sound.dual
          single := fun _ _ => valid
          bootstrap := fun _ => valid }
  | retuneDual config valid =>
      exact
        { mode := sound.mode
          dual := fun isOpen dual => valid (sound.dual isOpen dual)
          single := sound.single
          bootstrap := sound.bootstrap }
  | queue config valid allowed =>
      exact
        { mode := sound.mode
          dual := sound.dual
          single := fun _ _ => valid
          bootstrap := fun _ => valid }

/-! ## Handles that are not lost -/

/-- A configured receiver has an open handle. -/
def Held (view : HandleView) : Prop := view.configured = true → view.tuner.isSome = true

/-- A policy that loses no configured handle keeps it held. -/
theorem Held.move {policy : HandlePolicy} {after : HandleView}
    (keeps : ¬ policy.loses) (move : HandleMove policy view after)
    (held : view.Held) : after.Held := by
  cases move with
  | close configured dualMode forgets leaves =>
      rcases forgets with rfl | ⟨_, loses⟩
      · intro configured
        cases configured
      · exact absurd loses keeps
  | leaveDual closed => exact held
  | single tuner config valid fits => exact fun _ => rfl
  | reopen tuner config stored valid fits => exact fun _ => rfl
  | dual tuner config bootstrapConfigured valid fits keeps =>
      exact fun _ => rfl
  | retune config valid sameTuner => exact held
  | retuneDual config valid => exact held
  | queue config valid allowed => exact held

/-! ## Handles on the requested tuner -/

/-- A single-tuner handle is open for the tuner of the stored configuration,
and reopening it would open it for that tuner. -/
structure OnTuner (view : HandleView) : Prop where
  single : ∀ tuner, view.tuner = some tuner → view.dualMode = false → tuner = view.config.tuner
  bootstrap : view.bootstrapConfigured = true → view.bootstrapConfig.tuner = view.config.tuner

/-- Handles are reused only for their own tuner, and no stored update moves
a handle that is open or would be reopened to another tuner. -/
def tunerPolicy : HandlePolicy where
  reuses tuner config := tuner = config.tuner
  queues view config := view.tuner.isSome = true ∧ view.dualMode = false ∨
        view.bootstrapConfigured = true →
      config.tuner = view.config.tuner
  loses := True

theorem OnTuner.bootstrap_tuner (onTuner : view.OnTuner) :
    view.bootstrap.tuner = view.config.tuner := by
  by_cases configured : view.bootstrapConfigured = true
  · simpa [HandleView.bootstrap, configured] using onTuner.bootstrap configured
  · simp [HandleView.bootstrap, configured]

/-- Under the tuner policy every move keeps the handle on its tuner. -/
theorem OnTuner.move {after : HandleView}
    (move : HandleMove tunerPolicy view after) (onTuner : view.OnTuner) :
    after.OnTuner := by
  cases move with
  | close configured dualMode forgets leaves =>
      exact ⟨by simp, onTuner.bootstrap⟩
  | leaveDual closed =>
      exact ⟨by simp [closed], onTuner.bootstrap⟩
  | single tuner config valid fits =>
      have own : tuner = config.tuner := fits.elim id fun kept => kept.2.2
      exact ⟨by simpa using own, fun _ => rfl⟩
  | reopen tuner config stored valid fits =>
      refine ⟨?_, onTuner.bootstrap⟩
      have own : config.tuner = view.config.tuner := by
        rcases stored with rfl | rfl
        · rfl
        · exact onTuner.bootstrap_tuner
      have onOwn : tuner = view.config.tuner := by
        rcases fits with rfl | ⟨single, isOpen⟩
        · exact own
        · exact onTuner.single tuner isOpen single
      simpa using onOwn
  | dual tuner config bootstrapConfigured valid fits keeps =>
      exact ⟨by simp, fun configured => onTuner.bootstrap (keeps configured)⟩
  | retune config valid sameTuner =>
      exact ⟨fun tuner isOpen single =>
          (onTuner.single tuner isOpen single).trans sameTuner.symm,
        fun configured => (onTuner.bootstrap configured).trans sameTuner.symm⟩
  | retuneDual config valid => exact ⟨onTuner.single, onTuner.bootstrap⟩
  | queue config valid allowed =>
      refine ⟨fun tuner isOpen single => ?_, fun configured => ?_⟩
      · have sameTuner := allowed (.inl ⟨Option.isSome_iff_exists.mpr ⟨tuner, isOpen⟩, single⟩)
        exact (onTuner.single tuner isOpen single).trans sameTuner.symm
      · exact (onTuner.bootstrap configured).trans (allowed (.inr configured)).symm

end HandleView

end OpenRsp
