import Bystander.Proofs.Limbs
import Bystander.Proofs.Outcomes
/-! # How a frame carries a walk

Of the five behaviours only the walk moves the body.  What a walk goes on with is its gait: where the body is, where it
walks to, and whether it does.  The behaviours before it leave the gait alone, so a frame that answers while the bot
walks changes it in one way only (`Gait.strode`), and one that fails leaves it as it was.
-/
namespace Bystander

open Act (Obeys run_bind)

variable {α κ τ : Type}

/-- **The part of a scene that walks.** -/
structure Gait (α : Type) where
  closed : Bool
  settings : Settings α
  phase : WalkPhase
  place : Vec3 α
  target : Vec3 α
  heading : Quat α
  walks : Nat

def Scene.gait (s : Scene α κ τ) : Gait α where
  closed := s.brain.closed
  settings := s.brain.settings
  phase := s.brain.state.walk
  place := s.avatar.position
  target := s.brain.state.targetPosition
  heading := s.brain.state.targetOrientation
  walks := s.brain.walks

variable [Scalar α]

namespace Gait

def next (g : Gait α) : Vec3 α := g.place + (g.target - g.place) * g.settings.walk.moveRate

/-- One step later: nearer to the target, and at rest once that is within the tolerance. -/
def strode (g : Gait α) : Gait α :=
  { g with
    place := g.next
    phase := if (g.next - g.target).length < g.settings.walk.stopTolerance then .idle else .walking }

theorem strode_of_near {g : Gait α} (h : (g.next - g.target).length < g.settings.walk.stopTolerance) :
    g.strode = { g with place := g.next, phase := .idle } := by
  rw [strode, if_pos h]

theorem strode_of_far {g : Gait α} (h : ¬ (g.next - g.target).length < g.settings.walk.stopTolerance) :
    g.strode = { g with place := g.next, phase := .walking } := by
  rw [strode, if_neg h]

end Gait

namespace Brain

/-- The behaviours of a frame that come before the head. -/
def overture (ending : Nat → τ) : Play α κ τ Unit := do
  discard View.frame
  Wave.frame ending
  discard Chatter.frame

/-- The behaviours of a frame that come before the walk. -/
def prelude (ending : Nat → τ) : Play α κ τ Unit := do
  discard View.frame
  Wave.frame ending
  discard Chatter.frame
  Head.frame

theorem behave_eq (ending : Nat → τ) : (behave ending : Play α κ τ Unit) = (do prelude ending; Walk.frame) := by
  simp only [behave, prelude, bind_assoc]

theorem prelude_eq (ending : Nat → τ) : (prelude ending : Play α κ τ Unit) = (do overture ending; Head.frame) := by
  simp only [prelude, overture, bind_assoc]

section Rules

variable {R : Scene α κ τ → Scene α κ τ → Prop} [Steady R]

theorem obeys_overture (ending : Nat → τ) (hview : ∀ s t, View.Touches s t → R s t)
    (hwave : ∀ s t, Wave.Touches s t → R s t) (hchatter : ∀ s t, Chatter.Touches s t → R s t) :
    Obeys R (overture ending) :=
  ((View.obeys_frame.imp hview).map _).bind fun _ => ((Wave.obeys_frame ending).imp hwave).bind fun _ =>
    (Chatter.obeys_frame.imp hchatter).map _

/-- **What comes before the walk obeys what the four behaviours obey.** -/
theorem obeys_prelude (ending : Nat → τ) (hview : ∀ s t, View.Touches s t → R s t)
    (hwave : ∀ s t, Wave.Touches s t → R s t) (hchatter : ∀ s t, Chatter.Touches s t → R s t)
    (hhead : ∀ s t, Head.Touches s t → R s t) : Obeys R (prelude ending) := by
  rw [prelude_eq]
  exact (obeys_overture ending hview hwave hchatter).bind fun _ => Head.obeys_frame.imp hhead

end Rules

/-- Before the head a frame takes two fractions and does nothing if the view is off and neither an arm nor a voice is
called on. -/
theorem run_overture_quiet (ending : Nat → τ) {s : Scene α κ τ} (hview : s.brain.settings.view.enabled = false)
    (hidle : s.brain.state.wave = .idle) (hwave : ¬ s.source.draw.1 < s.brain.settings.wave.chance)
    (hsound : ¬ s.source.draw.2.draw.1 < s.brain.settings.sound.chance) :
    (overture ending).run s = (.ok (), s.drawn.drawn) := by
  have hlook : (discard View.frame : Play α κ τ Unit).run s = (.ok (), s) := by
    rw [Act.run_discard, View.run_frame, hview]
    rfl
  have harm : (Wave.frame ending).run s = (.ok (), s.drawn) := by
    rw [Wave.run_frame, hidle]
    exact if_neg hwave
  have hvoice : (discard Chatter.frame : Play α κ τ Unit).run s.drawn = (.ok (), s.drawn.drawn) := by
    rw [Act.run_discard, Chatter.run_frame]
    rw [if_neg (show ¬ s.drawn.source.draw.1 < s.drawn.brain.settings.sound.chance from hsound)]
    rfl
  rw [overture, run_bind, hlook]
  dsimp only
  rw [run_bind, harm]
  exact hvoice

/-- The behaviours before the walk leave the gait alone, and where the brain believes to be. -/
theorem leaves_gait_prelude (ending : Nat → τ) :
    Obeys (leaving fun s => (s.gait, s.brain.state.position)) (prelude ending : Play α κ τ Unit) := by
  apply obeys_prelude
  · rintro s t ⟨_, _, _, -, rfl⟩
    rfl
  · rintro s t ⟨_, _, _, _, _, _, _, -, rfl⟩
    rfl
  · rintro s t ⟨_, _, _, _, -, rfl⟩
    rfl
  · rintro s t ⟨_, _, _, _, _, -, rfl⟩
    rfl

/-- A bot that may walk stays where it is when a frame begins, and the brain knows where that is. -/
theorem gait_begin (delta : α) {s : Scene α κ τ} (h : (s.brain.settings.walk.chance == 0.0) = false) :
    (begin delta s).gait = s.gait ∧ (begin delta s).brain.state.position = s.avatar.position := by
  have hbody : (begin delta s).avatar = s.avatar := by
    unfold begin
    dsimp only
    rw [h]
    rfl
  constructor
  · change { s.gait with place := (begin delta s).avatar.position : Gait α } = s.gait
    rw [hbody]
    rfl
  · exact congrArg Avatar.position hbody

/-- **The walk comes last**: a frame fails before it, with the gait as it was, or is the walk's frame from there. -/
theorem frame_cases (ending : Nat → τ) (delta : α) {s : Scene α κ τ} (hopen : s.brain.closed = false)
    (hchance : (s.brain.settings.walk.chance == 0.0) = false) : ∃ answer t,
      (prelude ending).run (begin delta s) = (answer, t) ∧ t.gait = s.gait ∧
        t.brain.state.position = t.avatar.position ∧
        ((∃ fault, answer = .error fault ∧ (frame ending delta).run s = (.error fault, t)) ∨
          answer = .ok () ∧ (frame ending delta).run s = Walk.frame.run t) := by
  obtain ⟨hbegun, hplace⟩ := gait_begin delta hchance
  rcases hr : (prelude ending).run (begin delta s) with ⟨answer, t⟩
  obtain ⟨hgait, hposition⟩ := Prod.mk.inj ((leaves_gait_prelude ending).of_run hr)
  have hsame : t.gait = s.gait := hgait.trans hbegun
  refine ⟨answer, t, rfl, hsame, hposition.trans (hplace.trans (congrArg Gait.place hsame).symm), ?_⟩
  rw [run_frame_open ending delta hopen, behave_eq, run_bind, hr]
  cases answer with
  | error fault => exact .inl ⟨fault, rfl, rfl⟩
  | ok => exact .inr ⟨rfl, rfl⟩

end Brain

namespace Walk

/-- **A step on the gait**: it is taken as a whole or, where the step fails, not at all; the legs of a bot that has
arrived are released. -/
theorem gait_stride {s : Scene α κ τ} (hwalk : s.brain.state.walk = .walking)
    (hplace : s.brain.state.position = s.avatar.position) :
    (stride.run s).2.source = s.source ∧
      ((∃ fault, (stride.run s).1 = .error fault ∧ (stride.run s).2.gait = s.gait) ∨
        (stride.run s).1 = .ok () ∧ (stride.run s).2.gait = s.gait.strode ∧
          ((stride.run s).2.brain.state.walk = .idle →
            ∀ joint ∈ legs, (stride.run s).2.avatar.joints.get? joint.index = none)) := by
  have hnext : nextPosition s = s.gait.next := by
    unfold nextPosition
    rw [hplace]
    rfl
  rw [run_stride]
  cases Scalar.sine (s.brain.state.clock * s.brain.settings.walk.swingFrequency) with
  | error fault => exact ⟨rfl, .inl ⟨fault, rfl, rfl⟩⟩
  | ok sine =>
    dsimp only
    cases s.brain.state.orientation.mix s.brain.state.targetOrientation s.brain.settings.walk.turnRate with
    | error fault => exact ⟨rfl, .inl ⟨fault, rfl, rfl⟩⟩
    | ok orientation =>
      have hmoved : (moved orientation (swung sine s)).gait = { s.gait with place := s.gait.next } := by
        rw [← hnext]
        rfl
      dsimp only
      rw [hnext]
      split
      · next hnear =>
        refine ⟨rfl, .inr ⟨rfl, ?_, fun _ joint hj => ?_⟩⟩
        · rw [Gait.strode_of_near hnear]
          exact congrArg (fun g : Gait α => { g with phase := .idle }) hmoved
        · exact (Avatar.get?_clearJoints joint.index legs _).trans (if_pos (List.mem_map_of_mem hj))
      · next hfar =>
        refine ⟨rfl, .inr ⟨rfl, ?_, fun hidle => ?_⟩⟩
        · have hphase : s.gait.phase = .walking := hwalk
          rw [Gait.strode_of_far hfar, hmoved, ← hphase]
        · exact absurd (hidle.symm.trans hwalk) nofun

/-- A bot that does not walk stays where it is; it may set out. -/
theorem gait_frame_idle {s : Scene α κ τ} (hidle : s.brain.state.walk = .idle) :
    (frame.run s).2.gait = s.gait ∨
      (frame.run s).1 = .ok () ∧ s.source.draw.1 < s.brain.settings.walk.chance ∧ ∃ target heading,
        (frame.run s).2.gait = { s.gait with phase := .walking, target, heading, walks := s.gait.walks + 1 } := by
  rw [Walk.run_frame, hidle]
  dsimp only
  split
  · next hchance =>
    obtain ⟨fault, hr⟩ | ⟨turn, -, hr⟩ := pickTarget_cases s.drawn
    · rw [hr]
      exact .inl rfl
    · rw [hr]
      exact .inr ⟨rfl, hchance, _, _, rfl⟩
  · exact .inl rfl

end Walk

namespace Brain

/-- **A frame while the bot walks** takes one step or, where it fails, none; the walk takes nothing from the source. -/
theorem gait_frame_walking (ending : Nat → τ) (delta : α) {s : Scene α κ τ} (hopen : s.brain.closed = false)
    (hchance : (s.brain.settings.walk.chance == 0.0) = false) (hwalk : s.brain.state.walk = .walking) :
    ((frame ending delta).run s).2.source = ((prelude ending).run (begin delta s)).2.source ∧
      ((∃ fault, ((frame ending delta).run s).1 = .error fault ∧ ((frame ending delta).run s).2.gait = s.gait) ∨
        ((frame ending delta).run s).1 = .ok () ∧ ((frame ending delta).run s).2.gait = s.gait.strode ∧
          (((frame ending delta).run s).2.brain.state.walk = .idle →
            ∀ joint ∈ Walk.legs, ((frame ending delta).run s).2.avatar.joints.get? joint.index = none)) := by
  obtain ⟨answer, t, hprelude, hgait, hplace, ⟨fault, -, hr⟩ | ⟨-, hr⟩⟩ := frame_cases ending delta hopen hchance
  · rw [hr, hprelude]
    exact ⟨rfl, .inl ⟨fault, rfl, hgait⟩⟩
  · have hwalk' : t.brain.state.walk = .walking := (congrArg Gait.phase hgait).trans hwalk
    rw [hr, hprelude, Walk.run_frame, hwalk', ← hgait]
    exact Walk.gait_stride hwalk' hplace

/-- **A frame while the bot does not walk** leaves it where it is, whether or not the bot sets out. -/
theorem gait_frame_idle (ending : Nat → τ) (delta : α) {s : Scene α κ τ} (hopen : s.brain.closed = false)
    (hchance : (s.brain.settings.walk.chance == 0.0) = false) (hidle : s.brain.state.walk = .idle) :
    ((frame ending delta).run s).2.gait = s.gait ∨
      ((frame ending delta).run s).1 = .ok () ∧ ∃ target heading,
        ((frame ending delta).run s).2.gait =
          { s.gait with phase := .walking, target, heading, walks := s.gait.walks + 1 } := by
  obtain ⟨answer, t, -, hgait, -, ⟨fault, -, hr⟩ | ⟨-, hr⟩⟩ := frame_cases ending delta hopen hchance
  · rw [hr]
    exact .inl hgait
  · have hidle' : t.brain.state.walk = .idle := (congrArg Gait.phase hgait).trans hidle
    rw [hr, ← hgait]
    obtain hsame | ⟨hok, -, hchosen⟩ := Walk.gait_frame_idle hidle'
    · exact .inl hsame
    · exact .inr ⟨hok, hchosen⟩

/-- Whatever it does, a brain stays open under its settings, and takes back no walk. -/
theorem gait_frame (ending : Nat → τ) (delta : α) {s : Scene α κ τ} (hopen : s.brain.closed = false)
    (hchance : (s.brain.settings.walk.chance == 0.0) = false) :
    ((frame ending delta).run s).2.brain.closed = false ∧
      ((frame ending delta).run s).2.brain.settings = s.brain.settings ∧
        s.brain.walks ≤ ((frame ending delta).run s).2.brain.walks := by
  change (((frame ending delta).run s).2.gait).closed = false ∧
    (((frame ending delta).run s).2.gait).settings = s.brain.settings ∧
      s.brain.walks ≤ (((frame ending delta).run s).2.gait).walks
  cases hphase : s.brain.state.walk with
  | walking =>
    obtain ⟨-, ⟨fault, -, hgait⟩ | ⟨-, hgait, -⟩⟩ := gait_frame_walking ending delta hopen hchance hphase
    all_goals
      rw [hgait]
      exact ⟨hopen, rfl, Nat.le_refl _⟩
  | idle =>
    obtain hgait | ⟨-, target, heading, hgait⟩ := gait_frame_idle ending delta hopen hchance hphase
    · rw [hgait]
      exact ⟨hopen, rfl, Nat.le_refl _⟩
    · rw [hgait]
      exact ⟨hopen, rfl, Nat.le_succ _⟩

end Brain
end Bystander
