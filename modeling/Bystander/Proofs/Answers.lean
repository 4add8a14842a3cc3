import Bystander.Proofs.Arms
import Bystander.Catalog
/-! # What a frame needs to get through

A frame computes quotients, sines and integers, and asks for a timer; each of these may be refused.  Here it is said
once how large the numbers may become (`Settings.Ordinary`) so that only two refusals are left: a view that is to be
queried at a rate of zero, and a wave whose end cannot be waited for (`Settings.Allows`).
-/
namespace Bystander

open Scalar (Elapses isInfinite)
open Act (run_bind run_get_bind)

/-! ## Actions that answer -/

namespace Act

variable {ε σ β γ : Type} {P : σ → Prop} {F : ε → Prop}

/-- **An action answers** and keeps a property, wherever it starts with that property. -/
def Answers (P : σ → Prop) (act : Act ε σ β) : Prop := ∀ s, P s → ∃ b t, act.run s = (.ok b, t) ∧ P t

/-- **An action fails with certain faults at most**, and keeps a property whether or not it fails. -/
def Fails (P : σ → Prop) (F : ε → Prop) (act : Act ε σ β) : Prop :=
  ∀ s, P s → P (act.run s).2 ∧ ∀ fault, (act.run s).1 = .error fault → F fault

theorem Answers.fails {act : Act ε σ β} (h : Answers P act) : Fails P F act := by
  intro s hs
  obtain ⟨b, t, hr, ht⟩ := h s hs
  rw [hr]
  exact ⟨ht, nofun⟩

theorem fails_pure (b : β) : Fails P F (pure b : Act ε σ β) := fun _ hs => ⟨hs, nofun⟩

theorem Fails.bind {act : Act ε σ β} {next : β → Act ε σ γ} (h : Fails P F act) (hnext : ∀ b, Fails P F (next b)) :
    Fails P F (act >>= next) := by
  intro s hs
  have hafter := h s hs
  rw [run_bind]
  rcases hr : run act s with ⟨fault | b, t⟩
  · rw [hr] at hafter
    exact ⟨hafter.1, fun other hother => hafter.2 other (congrArg Except.error (Except.error.inj hother))⟩
  · rw [hr] at hafter
    exact hnext b t hafter.1

theorem Fails.map {act : Act ε σ β} (h : Fails P F act) (f : β → γ) : Fails P F (f <$> act) := by
  intro s hs
  obtain ⟨hafter, hfault⟩ := h s hs
  rw [run_map]
  refine ⟨hafter, fun fault hf => hfault fault ?_⟩
  cases hr : (run act s).1 with
  | error other =>
    rw [hr] at hf
    exact congrArg Except.error (Except.error.inj hf)
  | ok b =>
    rw [hr] at hf
    cases hf

end Act

variable {α κ τ : Type} [Scalar α]

/-! ## Chances that may come up -/

namespace Source

/-- A fraction that a source may give, in whatever way fractions and numbers are taken from it. -/
def Gives (s : Source α) (r : α) : Prop := ∃ t, s.Leads t ∧ r = t.draw.1

/-- A chance that may strike. -/
def Strikes (s : Source α) (chance : α) : Prop := ∃ r, s.Gives r ∧ r < chance

/-- Every fraction that a source may give picks a sound. -/
def PicksSounds (s : Source α) : Prop :=
  ∀ r, s.Gives r → Scalar.isFinite (r * Scalar.ofNat Catalog.soundNames.length) = true

theorem Leads.gives {s t : Source α} (h : s.Leads t) : s.Gives t.draw.1 := ⟨t, h, rfl⟩

theorem gives_scripted_nil {fallback r : α} (h : (scripted [] fallback).Gives r) : r = fallback := by
  obtain ⟨t, ht, rfl⟩ := h
  have hsupply : t.supply = .scripted [] fallback := by
    induction ht with
    | refl => rfl
    | fraction _ ih =>
      unfold draw
      rw [ih]
    | number n _ ih =>
      unfold below
      rw [ih]
      dsimp only
      unfold belowScripted
      split <;> rfl
  unfold draw
  rw [hsupply]

theorem Gives.of_leads {s t : Source α} {r : α} (hr : t.Gives r) (h : s.Leads t) : s.Gives r := by
  obtain ⟨u, hu, hr⟩ := hr
  exact ⟨u, h.trans hu, hr⟩

end Source

/-! ## Numbers of ordinary size -/

/-- The angular frequency that a fraction picks for a wave. -/
def WaveSettings.frequency (w : WaveSettings α) (r : α) : α :=
  Scalar.between w.frequencyRange.1 w.frequencyRange.2 r

/-- The duration in milliseconds that a fraction picks for a wave. -/
def WaveSettings.duration (w : WaveSettings α) (r : α) : α := w.minDuration + r * w.durationJitter

/-- **A wave whose end cannot be waited for**: its duration is negative or not finite. -/
def WaveSettings.Refused (w : WaveSettings α) (source : Source α) (fault : Fault α) : Prop :=
  source.Strikes w.chance ∧ ∃ r, source.Gives r ∧ ¬ Elapses (w.duration r) ∧ fault = .timerDelay (w.duration r)

/-- The angles of a waving arm at a moment are not infinite. -/
structure WaveSettings.Ordinary (w : WaveSettings α) (source : Source α) (t : α) : Prop where
  shoulder : ∀ r, source.Gives r → isInfinite ((t - w.shoulderPhase) * w.frequency r) = false
  elbow : ∀ r, source.Gives r → isInfinite (t * w.elbowFrequencyScale * w.frequency r) = false
  spine : ∀ r, source.Gives r → isInfinite (t * w.frequency r) = false

/-- The angles of a walk at a moment are not infinite: those of the legs, of each turn, and of each mixture. -/
structure WalkSettings.Ordinary (w : WalkSettings α) (source : Source α) (t : α) : Prop where
  legs : isInfinite (t * w.swingFrequency) = false
  turn : ∀ r, source.Gives r → isInfinite (Quat.halfAngle (Scalar.between (-w.turnRange) w.turnRange r)) = false
  arc : ∀ c : α, isInfinite (Scalar.acos c) = false ∧ isInfinite ((1.0 - w.turnRate) * Scalar.acos c) = false ∧
    isInfinite (w.turnRate * Scalar.acos c) = false

/-- **Settings under which the numbers of a moment stay of ordinary size**, for waves and walks that may come about. -/
structure Settings.Ordinary (settings : Settings α) (source : Source α) (t : α) : Prop where
  wave : source.Strikes settings.wave.chance → settings.wave.Ordinary source t
  walk : source.Strikes settings.walk.chance → settings.walk.Ordinary source t

/-- A view that is to be queried at a rate of zero. -/
def ViewSettings.Stuck (view : ViewSettings α) : Prop := view.enabled = true ∧ (view.rate == 0.0) = true

instance (view : ViewSettings α) : Decidable view.Stuck := inferInstanceAs (Decidable (_ ∧ _))

/-- **What a frame may answer**: a stuck view fails it, and else nothing but the end of a wave. -/
def Settings.Allows (settings : Settings α) (source : Source α) (answer : Except (Fault α) Unit) : Prop :=
  if settings.view.Stuck then answer = .error .divisionByZero
  else ∀ fault, answer = .error fault → settings.wave.Refused source fault

theorem Scalar.sine_of_ordinary {x : α} (h : isInfinite x = false) : sine x = .ok (sin x) := by
  unfold sine
  rw [h]
  rfl

theorem Wave.rolls_of_ordinary {w : WaveSettings α} {source : Source α} {t r : α} (h : w.Ordinary source t)
    (hr : source.Gives r) (amplitude : α) :
    ∃ shoulder elbow spine, rolls w (w.frequency r) amplitude t =
      .ok [(.shoulder, shoulder), (.elbow, elbow), (.spine, spine)] := by
  unfold rolls
  rw [Scalar.sine_of_ordinary (h.shoulder r hr), Scalar.sine_of_ordinary (h.elbow r hr),
    Scalar.sine_of_ordinary (h.spine r hr)]
  exact ⟨_, _, _, rfl⟩

theorem Quat.angleAxis_of_ordinary {degrees : α} (h : isInfinite (halfAngle degrees) = false) (axis : Vec3 α) :
    ∃ q, angleAxis degrees axis = .ok q := by
  unfold angleAxis
  dsimp only
  split
  · exact ⟨_, rfl⟩
  · rw [Scalar.sine_of_ordinary h]
    exact ⟨_, rfl⟩

theorem Quat.mix_of_ordinary {w : WalkSettings α} {source : Source α} {t : α} (h : w.Ordinary source t)
    (a b : Quat α) : ∃ q, a.mix b w.turnRate = .ok q := by
  have harc : ∀ b c : _, ∃ q, (do
      if chordThreshold < c then return (a + (b - a) * w.turnRate).normalized
      let angle := Scalar.acos (Scalar.least 1.0 c)
      let whole ← Scalar.sine angle
      let fromStart ← Scalar.sine ((1.0 - w.turnRate) * angle)
      let fromTarget ← Scalar.sine (w.turnRate * angle)
      return ((a * fromStart + b * fromTarget) / whole).normalized : Except (Fault α) (Quat α)) = .ok q := by
    intro b c
    split
    · exact ⟨_, rfl⟩
    · obtain ⟨hwhole, hstart, htarget⟩ := h.arc (Scalar.least 1.0 c)
      dsimp only
      rw [Scalar.sine_of_ordinary hwhole, Scalar.sine_of_ordinary hstart, Scalar.sine_of_ordinary htarget]
      exact ⟨_, rfl⟩
  unfold mix
  dsimp only
  split <;> exact harc _ _

/-! ## Scenes from which a frame gets through -/

/-- **A scene that is in order at a moment**: waves and walks are under way only if they may come about, and a wave has
one of the frequencies that it may have. -/
structure Scene.InOrder (settings : Settings α) (source : Source α) (t : α) (s : Scene α κ τ) : Prop where
  told : s.brain.settings = settings
  clips : s.brain.clips.length = Catalog.soundNames.length
  leads : source.Leads s.source
  clock : s.brain.state.clock = t
  wave : ∀ episode, s.brain.state.episode = some episode → source.Strikes settings.wave.chance ∧
    ∃ r, source.Gives r ∧ episode.frequency = settings.wave.frequency r
  walk : s.brain.state.walk = .walking → source.Strikes settings.walk.chance

namespace Scene.InOrder

variable {settings : Settings α} {source : Source α} {time : α} {s t : Scene α κ τ}

theorem begin (h : s.InOrder settings source time) (delta : α) :
    (Brain.begin delta s).InOrder settings source (time + Brain.effectiveDelta delta) where
  told := h.told
  clips := h.clips
  leads := h.leads
  clock := congrArg (· + Brain.effectiveDelta delta) h.clock
  wave := h.wave
  walk := h.walk

theorem view (ht : View.Touches s t) (h : s.InOrder settings source time) : t.InOrder settings source time := by
  obtain ⟨_, _, _, -, rfl⟩ := ht
  exact ⟨h.told, h.clips, h.leads, h.clock, h.wave, h.walk⟩

theorem chatter (ht : Chatter.Touches s t) (h : s.InOrder settings source time) : t.InOrder settings source time := by
  obtain ⟨_, _, _, _, hleads, rfl⟩ := ht
  exact ⟨h.told, h.clips, h.leads.trans hleads, h.clock, h.wave, h.walk⟩

theorem head (ht : Head.Touches s t) (h : s.InOrder settings source time) : t.InOrder settings source time := by
  obtain ⟨_, _, _, _, _, hleads, rfl⟩ := ht
  exact ⟨h.told, h.clips, h.leads.trans hleads, h.clock, h.wave, h.walk⟩

theorem drawn (h : s.InOrder settings source time) :
    Scene.InOrder settings source time { s with source := s.source.draw.2 } :=
  ⟨h.told, h.clips, h.leads.fraction, h.clock, h.wave, h.walk⟩

end Scene.InOrder

open Act (Answers Fails fails_pure)

variable {settings : Settings α} {source : Source α} {time : α}

/-! ## Each behaviour answers -/

theorem View.answers_frame (hview : ¬ settings.view.Stuck) :
    Answers (Scene.InOrder settings source time) (View.frame : Play α κ τ Bool) := by
  intro s h
  have hafter := h.view (View.obeys_frame s)
  suffices ∃ b, (View.frame.run s).1 = .ok b from this.imp fun b hb => ⟨_, Prod.ext hb rfl, hafter⟩
  rw [View.run_frame, h.told]
  cases henabled : settings.view.enabled with
  | false => exact ⟨false, rfl⟩
  | true =>
    have hrate : ¬ (settings.view.rate == 0.0) = true := fun hzero => hview ⟨henabled, hzero⟩
    rw [if_pos rfl, interval, Scalar.divide, if_neg hrate]
    dsimp only
    split <;> exact ⟨_, rfl⟩

theorem View.run_frame_stuck {s : Scene α κ τ} (h : s.brain.settings.view.Stuck) :
    frame.run s = (.error .divisionByZero, s) := by
  rw [View.run_frame, if_pos h.1, interval, Scalar.divide, if_pos h.2]

theorem Wave.fails_start (ending : Nat → τ) (hstrikes : source.Strikes settings.wave.chance) :
    Fails (Scene.InOrder settings source time) (settings.wave.Refused source)
      (Wave.start ending : Play α κ τ (Episode α)) := by
  intro s h
  have hthird := h.leads.fraction.fraction
  have hduration : s.brain.arm.nextDuration s.source = settings.wave.duration s.source.draw.2.draw.2.draw.1 := by
    rw [← h.told]
    rfl
  -- the wave has begun also if its end is refused
  have hbegun : (begun s).InOrder settings source time := by
    refine ⟨h.told, h.clips, hthird.fraction, h.clock, fun episode he => ?_, h.walk⟩
    have hepisode : s.brain.arm.nextEpisode s.source = episode := Option.some.inj he
    refine ⟨hstrikes, _, h.leads.gives, ?_⟩
    rw [← hepisode, ← h.told]
    rfl
  rw [Wave.run_start, Scheduler.setTimeout, hduration]
  split
  · next scheduler hs =>
    exact ⟨⟨hbegun.told, hbegun.clips, hbegun.leads, hbegun.clock, hbegun.wave, hbegun.walk⟩, nofun⟩
  · next fault hs =>
    refine ⟨hbegun, fun other hother => ⟨hstrikes, _, hthird.gives, ?_⟩⟩
    split at hs
    · cases hs
    · next hrefused =>
      cases hs
      cases hother
      exact ⟨fun helapses => hrefused ((Scheduler.acceptsDelay_iff _).2 helapses), rfl⟩

theorem Wave.answers_roll {episode : Episode α} {r : α} (hr : source.Gives r)
    (hf : episode.frequency = settings.wave.frequency r) (hordinary : settings.wave.Ordinary source time) :
    Answers (Scene.InOrder settings source time) (Wave.roll episode : Play α κ τ Unit) := by
  intro s h
  obtain ⟨shoulder, elbow, spine, hrolls⟩ := rolls_of_ordinary hordinary hr episode.amplitude
  rw [Wave.roll, run_get_bind, h.told, h.clock, hf, hrolls]
  exact ⟨_, _, rfl, h.told, h.clips, h.leads, h.clock, h.wave, h.walk⟩

theorem Wave.fails_frame (ending : Nat → τ)
    (hordinary : source.Strikes settings.wave.chance → settings.wave.Ordinary source time) :
    Fails (Scene.InOrder settings source time) (settings.wave.Refused source)
      (Wave.frame ending : Play α κ τ Unit) := by
  intro s h
  rw [Wave.frame, run_get_bind]
  split
  · rw [run_bind, Scene.run_draw, h.told]
    dsimp only
    split
    · next hlt =>
      have hstrikes : source.Strikes settings.wave.chance := ⟨_, h.leads.gives, hlt⟩
      exact (Wave.fails_start ending hstrikes).map _ _ h.drawn
    · exact fails_pure () _ h.drawn
  · exact fails_pure () _ h
  · next episode _ hepisode =>
    obtain ⟨hstrikes, r, hr, hf⟩ := h.wave episode hepisode
    exact (Wave.answers_roll hr hf (hordinary hstrikes)).fails s h

theorem Chatter.answers_play (hsounds : source.PicksSounds) :
    Answers (Scene.InOrder settings source time) (Chatter.play : Play α κ τ (Option Nat)) := by
  intro s h
  have hchatter := h.chatter (Chatter.obeys_play s)
  suffices ∃ b, (Chatter.play.run s).1 = .ok b from this.imp fun b hb => ⟨_, Prod.ext hb rfl, hchatter⟩
  rw [Chatter.play, run_get_bind]
  split
  · exact ⟨_, rfl⟩
  · have hplaced : ∃ index, (place s.source.draw.1 s.brain.clips.length : Except (Fault α) Nat) = .ok index := by
      unfold place
      rw [h.clips, Scalar.integral, if_pos (hsounds _ h.leads.gives)]
      exact ⟨_, rfl⟩
    obtain ⟨index, hindex⟩ := hplaced
    rw [run_bind, Scene.run_draw]
    dsimp only
    rw [run_bind, Act.run_ofExcept, hindex]
    dsimp only
    split <;> exact ⟨_, rfl⟩

theorem Chatter.answers_frame (hsounds : source.PicksSounds) :
    Answers (Scene.InOrder settings source time) (Chatter.frame : Play α κ τ (Option Nat)) := by
  intro s h
  rw [Chatter.frame, run_bind, Scene.run_draw]
  dsimp only
  rw [run_get_bind, h.told]
  split
  · exact Chatter.answers_play hsounds _ h.drawn
  · exact ⟨_, _, rfl, h.drawn⟩

theorem Head.answers_frame : Answers (Scene.InOrder settings source time) (Head.frame : Play α κ τ Unit) := by
  intro s h
  have hhead := h.head (Head.obeys_frame s)
  suffices ∃ b, (Head.frame.run s).1 = .ok b from this.imp fun b hb => ⟨_, Prod.ext hb rfl, hhead⟩
  rw [Head.frame, run_get_bind]
  split
  · exact ⟨_, rfl⟩
  · rw [run_bind, Scene.run_draw]
    dsimp only
    rw [run_get_bind]
    split <;> exact ⟨_, rfl⟩

theorem Walk.answers_pickTarget (hstrikes : source.Strikes settings.walk.chance)
    (hordinary : settings.walk.Ordinary source time) :
    Answers (Scene.InOrder settings source time) (Walk.pickTarget : Play α κ τ Unit) := by
  intro s h
  have hturn : isInfinite (Quat.halfAngle (nextYaw s)) = false := by
    unfold nextYaw
    rw [h.told]
    exact hordinary.turn _ h.leads.gives
  obtain ⟨turn, hr⟩ := Quat.angleAxis_of_ordinary hturn .up
  rw [Walk.run_pickTarget, hr]
  exact ⟨_, _, rfl, h.told, h.clips, h.leads.fraction.fraction.fraction, h.clock, h.wave, fun _ => hstrikes⟩

theorem Walk.answers_stride (hstrikes : source.Strikes settings.walk.chance)
    (hordinary : settings.walk.Ordinary source time) :
    Answers (Scene.InOrder settings source time) (Walk.stride : Play α κ τ Unit) := by
  intro s h
  obtain ⟨orientation, hmix⟩ :=
    Quat.mix_of_ordinary hordinary s.brain.state.orientation s.brain.state.targetOrientation
  have hmoved : ∀ sine, (moved orientation (swung sine s)).InOrder settings source time :=
    fun _ => ⟨h.told, h.clips, h.leads, h.clock, h.wave, h.walk⟩
  rw [Walk.run_stride, h.told, h.clock, Scalar.sine_of_ordinary hordinary.legs]
  dsimp only
  rw [hmix]
  dsimp only
  split
  · exact ⟨_, _, rfl, h.told, h.clips, h.leads, h.clock, h.wave, fun _ => hstrikes⟩
  · exact ⟨_, _, rfl, hmoved _⟩

theorem Walk.answers_frame (hordinary : source.Strikes settings.walk.chance → settings.walk.Ordinary source time) :
    Answers (Scene.InOrder settings source time) (Walk.frame : Play α κ τ Unit) := by
  intro s h
  rw [Walk.frame, run_get_bind]
  split
  · next hwalking =>
    have hstrikes := h.walk hwalking
    exact Walk.answers_stride hstrikes (hordinary hstrikes) s h
  · rw [run_bind, Scene.run_draw]
    dsimp only
    rw [run_get_bind, h.told]
    split
    · next hlt =>
      have hstrikes : source.Strikes settings.walk.chance := ⟨_, h.leads.gives, hlt⟩
      exact Walk.answers_pickTarget hstrikes (hordinary hstrikes) _ h.drawn
    · exact ⟨_, _, rfl, h.drawn⟩

/-! ## A frame answers -/

namespace Brain

theorem fails_behave (ending : Nat → τ) (hsounds : source.PicksSounds) (hordinary : settings.Ordinary source time)
    (hview : ¬ settings.view.Stuck) :
    Fails (Scene.InOrder settings source time) (settings.wave.Refused source) (behave ending : Play α κ τ Unit) :=
  ((View.answers_frame hview).fails.map _).bind fun _ => (Wave.fails_frame ending hordinary.wave).bind fun _ =>
    ((Chatter.answers_frame hsounds).fails.map _).bind fun _ => Head.answers_frame.fails.bind fun _ =>
      (Walk.answers_frame hordinary.walk).fails

/-- **A frame of an open brain answers as its settings allow**, and leaves the scene in order, one delta later. -/
theorem allows_frame (ending : Nat → τ) {delta : α} {s : Scene α κ τ} (hopen : s.brain.closed = false)
    (h : s.InOrder settings source time) (hsounds : source.PicksSounds)
    (hordinary : settings.Ordinary source (time + effectiveDelta delta)) :
    settings.Allows source ((frame ending delta).run s).1 ∧
      ((frame ending delta).run s).2.InOrder settings source (time + effectiveDelta delta) := by
  have hbegun := h.begin delta
  rw [run_frame_open ending delta hopen]
  unfold Settings.Allows
  split
  · next hstuck =>
    -- the view comes first, so nothing else has been done
    have hview : (discard View.frame : Play α κ τ Unit).run (begin delta s) =
        (.error .divisionByZero, begin delta s) := by
      rw [Act.run_discard, View.run_frame_stuck (hbegun.told ▸ hstuck)]
      rfl
    rw [behave, run_bind, hview]
    exact ⟨rfl, hbegun⟩
  · next hview =>
    obtain ⟨hafter, hfaults⟩ := fails_behave ending hsounds hordinary hview _ hbegun
    exact ⟨hfaults, hafter⟩

end Brain
end Bystander
