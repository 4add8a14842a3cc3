import Bystander.Proofs.Queue
import Bystander.Proofs.Touch
/-! # How the behaviours of a frame come out

Each behaviour either goes on with what is in progress or takes a fraction from the source to see whether to begin.
For sounds, glances, waves and walks it is said here what a frame does, with the scene it leaves behind.  So few things
come of a frame that a rule can be checked for each of them (`Brain.Outcomes`); the five behaviours in a row obey it
then.
-/
namespace Bystander

open Act (Obeys run_bind run_get_bind)

variable {α κ τ : Type} [Scalar α]

/-- A scene after one fraction has been taken. -/
def Scene.drawn (s : Scene α κ τ) : Scene α κ τ := { s with source := s.source.draw.2 }

/-! ## Sounds -/

namespace Chatter

def heard (index : Nat) (clip : Clip α) (s : Scene α κ τ) : Scene α κ τ :=
  { s with
    audio := s.audio.play s.scheduler.now clip
    brain := { s.brain with sounds := s.brain.sounds + 1 }
    journal := s.journal.note (.soundPlayed index clip.url) }

/-- The place that is picked is one of the library. -/
theorem place_lt {r : α} {count index : Nat} (hcount : 0 < count) (h : place r count = .ok index) : index < count := by
  unfold place at h
  cases hn : Scalar.integral (r * Scalar.ofNat count) Scalar.truncate with
  | error fault =>
    rw [hn] at h
    cases h
  | ok n =>
    rw [hn] at h
    cases h
    have hlow := Int.emod_nonneg n (Int.natCast_ne_zero.2 (Nat.ne_of_gt hcount))
    have hhigh := Int.emod_lt_of_pos n (Int.natCast_pos.2 hcount)
    omega

/-- **Playing a clip** takes a fraction for its place, unless the voice is busy or the library is empty. -/
theorem run_play (s : Scene α κ τ) :
    play.run s =
      if (s.audio.isPlaying s.scheduler.now || s.brain.clips.isEmpty) = true then (.ok none, s)
      else
        match place s.source.draw.1 s.brain.clips.length with
        | .error fault => (.error fault, s.drawn)
        | .ok index =>
          match s.brain.clips[index]? with
          | none => (.ok none, s.drawn)
          | some clip => (.ok (some index), heard index clip s.drawn) := by
  rw [play, run_get_bind]
  split
  · rfl
  · rw [run_bind, Scene.run_draw]
    dsimp only
    rw [run_bind, Act.run_ofExcept]
    cases place s.source.draw.1 s.brain.clips.length with
    | error fault => rfl
    | ok index =>
      dsimp only
      cases s.brain.clips[index]? <;> rfl

theorem run_frame (s : Scene α κ τ) :
    frame.run s =
      if s.source.draw.1 < s.brain.settings.sound.chance then play.run s.drawn else (.ok none, s.drawn) := by
  rw [frame, run_bind, Scene.run_draw]
  dsimp only
  rw [run_get_bind]
  dsimp only
  split <;> rfl

/-- **What a call to play comes to**: nothing at all while the voice is busy or the library empty, else a fraction for
the place, and the clip of that place unless there is none for the fraction. -/
theorem play_cases (s : Scene α κ τ) :
    (s.audio.isPlaying s.scheduler.now = true ∨ s.brain.clips = []) ∧ play.run s = (.ok none, s) ∨
      s.audio.isPlaying s.scheduler.now = false ∧ s.brain.clips ≠ [] ∧
        ((∃ fault, place s.source.draw.1 s.brain.clips.length = .error fault ∧ play.run s = (.error fault, s.drawn)) ∨
          ∃ index clip, place s.source.draw.1 s.brain.clips.length = .ok index ∧ s.brain.clips[index]? = some clip ∧
            play.run s = (.ok (some index), heard index clip s.drawn)) := by
  rw [run_play]
  split
  · next hbusy =>
    rw [Bool.or_eq_true, List.isEmpty_iff] at hbusy
    exact .inl ⟨hbusy, rfl⟩
  · next hfree =>
    rw [Bool.or_eq_true, not_or, Bool.not_eq_true, List.isEmpty_iff] at hfree
    refine .inr ⟨hfree.1, hfree.2, ?_⟩
    cases hp : place s.source.draw.1 s.brain.clips.length with
    | error fault => exact .inl ⟨fault, rfl, rfl⟩
    | ok index =>
      have hindex := place_lt (List.length_pos_iff.2 hfree.2) hp
      dsimp only
      rw [List.getElem?_eq_getElem hindex]
      exact .inr ⟨index, _, rfl, List.getElem?_eq_getElem hindex, rfl⟩

/-- **What a frame of sounds comes to**: one fraction and nothing else, a fault after a second one, or a clip. -/
theorem frame_cases (s : Scene α κ τ) :
    frame.run s = (.ok none, s.drawn) ∨ (∃ fault, frame.run s = (.error fault, s.drawn.drawn)) ∨
      ∃ index clip, frame.run s = (.ok (some index), heard index clip s.drawn.drawn) := by
  rw [run_frame]
  split
  · obtain ⟨-, hr⟩ | ⟨-, -, ⟨fault, -, hr⟩ | ⟨index, clip, -, -, hr⟩⟩ := play_cases s.drawn
    · exact .inl hr
    · exact .inr (.inl ⟨fault, hr⟩)
    · exact .inr (.inr ⟨index, clip, hr⟩)
  · exact .inl rfl

end Chatter

/-! ## Glances -/

namespace Head

/-- A scene after a pitch has been chosen for the head. -/
def aimed (s : Scene α κ τ) : Scene α κ τ :=
  let range := s.brain.settings.head.pitchRange
  let target := Scalar.between (-range) range s.source.draw.1
  { s with
    source := s.source.draw.2
    journal := s.journal.note (.headTurnStarted target)
    brain := { s.brain with state := { s.brain.state with targetPitch := target, head := .turning } } }

/-- **A frame of the head** never fails. -/
theorem run_frame (s : Scene α κ τ) :
    frame.run s =
      match s.brain.state.head with
      | .turning => (.ok (), ease s)
      | .idle =>
        if s.source.draw.1 < s.brain.settings.head.chance then (.ok (), aimed s.drawn) else (.ok (), ease s.drawn) := by
  rw [frame, run_get_bind]
  cases s.brain.state.head with
  | turning => rfl
  | idle =>
    dsimp only
    rw [run_bind, Scene.run_draw]
    dsimp only
    rw [run_get_bind]
    dsimp only
    split <;> rfl

end Head

/-! ## Waves -/

namespace Wave

/-- A scene after some joints have been rolled. -/
def rolled (pairs : List (Joint × α)) (s : Scene α κ τ) : Scene α κ τ :=
  { s with avatar := pairs.foldl (fun a p => a.setJoints [p.1] (.ofPitchYawRoll 0.0 0.0 p.2)) s.avatar }

theorem exists_joints_rolled (pairs : List (Joint × α)) (s : Scene α κ τ) :
    ∃ joints, rolled pairs s = { s with avatar := { s.avatar with joints } } := by
  induction pairs generalizing s with
  | nil => exact ⟨s.avatar.joints, rfl⟩
  | cons p pairs ih => exact ih { s with avatar := s.avatar.setJoints [p.1] (.ofPitchYawRoll 0.0 0.0 p.2) }

/-- **Rolling the arm** fails only where a sine does, and then before any joint is moved. -/
theorem run_roll (episode : Episode α) (s : Scene α κ τ) :
    (roll episode).run s =
      match rolls s.brain.settings.wave episode.frequency episode.amplitude s.brain.state.clock with
      | .error fault => (.error fault, s)
      | .ok pairs => (.ok (), rolled pairs s) := by
  rw [roll, run_get_bind, run_bind, Act.run_ofExcept]
  cases rolls s.brain.settings.wave episode.frequency episode.amplitude s.brain.state.clock with
  | error fault => rfl
  | ok pairs =>
    dsimp only
    induction pairs generalizing s with
    | nil => rfl
    | cons p pairs ih =>
      rw [List.forIn_cons]
      exact ih _

theorem run_frame (ending : Nat → τ) (s : Scene α κ τ) :
    (frame ending).run s =
      match s.brain.state.wave, s.brain.state.episode with
      | .idle, _ =>
        if s.source.draw.1 < s.brain.settings.wave.chance then (discard (start ending)).run s.drawn else (.ok (), s.drawn)
      | .waving, none => (.ok (), s)
      | .waving, some episode => (roll episode).run s := by
  rw [frame, run_get_bind]
  cases s.brain.state.wave with
  | idle =>
    dsimp only
    rw [run_bind, Scene.run_draw]
    dsimp only
    split <;> rfl
  | waving =>
    cases s.brain.state.episode with
    | none => rfl
    | some episode => rfl

/-- **What a frame does with the arm**: at rest it takes a fraction, and may start a wave or fail to; else it moves
joints or fails. -/
theorem frame_cases (ending : Nat → τ) (s : Scene α κ τ) :
    (s.brain.state.wave = .idle ∧ ((frame ending).run s = (.ok (), s.drawn) ∨
      (∃ scheduler, s.scheduler.setTimeout (ending (s.brain.arm.count + 1)) (s.brain.arm.nextDuration s.drawn.source) =
        .ok scheduler ∧ (frame ending).run s = (.ok (), started s.drawn scheduler)) ∨
      ∃ fault, s.scheduler.setTimeout (ending (s.brain.arm.count + 1)) (s.brain.arm.nextDuration s.drawn.source) =
        .error fault ∧ (frame ending).run s = (.error fault, begun s.drawn))) ∨
    s.brain.state.wave = .waving ∧ ∃ result joints,
      (frame ending).run s = (result, { s with avatar := { s.avatar with joints } }) := by
  rw [run_frame]
  cases hw : s.brain.state.wave with
  | idle =>
    refine .inl ⟨rfl, ?_⟩
    dsimp only
    split
    · rw [Act.run_discard, run_start]
      change _ ∨ (∃ scheduler, s.drawn.scheduler.setTimeout (ending (s.drawn.brain.arm.count + 1))
        (s.drawn.brain.arm.nextDuration s.drawn.source) = .ok scheduler ∧ _) ∨ ∃ fault,
        s.drawn.scheduler.setTimeout (ending (s.drawn.brain.arm.count + 1))
        (s.drawn.brain.arm.nextDuration s.drawn.source) = .error fault ∧ _
      cases s.drawn.scheduler.setTimeout (ending (s.drawn.brain.arm.count + 1))
          (s.drawn.brain.arm.nextDuration s.drawn.source) with
      | ok scheduler => exact .inr (.inl ⟨scheduler, rfl, rfl⟩)
      | error fault => exact .inr (.inr ⟨fault, rfl, rfl⟩)
    · exact .inl rfl
  | waving =>
    refine .inr ⟨rfl, ?_⟩
    cases s.brain.state.episode with
    | none => exact ⟨_, _, rfl⟩
    | some episode =>
      dsimp only
      rw [run_roll]
      cases rolls s.brain.settings.wave episode.frequency episode.amplitude s.brain.state.clock with
      | error fault => exact ⟨_, _, rfl⟩
      | ok pairs =>
        obtain ⟨joints, hj⟩ := exists_joints_rolled pairs s
        exact ⟨_, joints, congrArg (Prod.mk _) hj⟩

end Wave

/-! ## Walks -/

theorem Walk.run_frame (s : Scene α κ τ) :
    frame.run s =
      match s.brain.state.walk with
      | .walking => stride.run s
      | .idle =>
        if s.source.draw.1 < s.brain.settings.walk.chance then pickTarget.run s.drawn else (.ok (), s.drawn) := by
  rw [frame, run_get_bind]
  cases s.brain.state.walk with
  | walking => rfl
  | idle =>
    dsimp only
    rw [run_bind, Scene.run_draw]
    dsimp only
    rw [run_get_bind]
    dsimp only
    split <;> rfl

/-! ## A frame -/

/-- **A rule that every outcome of a behaviour obeys**, well or not. -/
structure Brain.Outcomes (R : Scene α κ τ → Scene α κ τ → Prop) : Prop where
  drawn (s : Scene α κ τ) : R s s.drawn
  queried (s : Scene α κ τ) : R s (View.queried s)
  begun (s : Scene α κ τ) : R s (Wave.begun s)
  started {s : Scene α κ τ} {purpose : τ} {delay : α} {scheduler : Scheduler α κ τ} :
    s.scheduler.setTimeout purpose delay = .ok scheduler → R s (Wave.started s scheduler)
  limbs (s : Scene α κ τ) (joints : JointTable α) : R s { s with avatar := { s.avatar with joints } }
  heard (index : Nat) (clip : Clip α) (s : Scene α κ τ) : R s (Chatter.heard index clip s)
  aimed (s : Scene α κ τ) : R s (Head.aimed s)
  eased (s : Scene α κ τ) : R s (Head.ease s)
  chosen (turn : Quat α) (s : Scene α κ τ) : R s (Walk.chosen turn s)
  moved (orientation : Quat α) (s : Scene α κ τ) : R s (Walk.moved orientation s)
  arrived (s : Scene α κ τ) : R s (Walk.arrived s)

namespace Brain.Outcomes

variable {R : Scene α κ τ → Scene α κ τ → Prop} [Steady R]

theorem view (h : Outcomes R) : Obeys R View.frame := by
  intro s
  rw [View.run_frame]
  split
  · cases View.interval s.brain.settings.view.rate with
    | error fault => exact Steady.refl s
    | ok pause =>
      dsimp only
      split
      · exact Steady.refl s
      · exact h.queried s
  · exact Steady.refl s

theorem wave (h : Outcomes R) (ending : Nat → τ) : Obeys R (Wave.frame ending) := by
  intro s
  obtain ⟨-, hr | ⟨scheduler, hset, hr⟩ | ⟨fault, -, hr⟩⟩ | ⟨-, result, joints, hr⟩ := Wave.frame_cases ending s
  · rw [hr]
    exact h.drawn s
  · rw [hr]
    exact Steady.trans (h.drawn s) (h.started (s := s.drawn) hset)
  · rw [hr]
    exact Steady.trans (h.drawn s) (h.begun s.drawn)
  · rw [hr]
    exact h.limbs s joints

theorem chatter (h : Outcomes R) : Obeys R Chatter.frame := by
  intro s
  have htwice : R s s.drawn.drawn := Steady.trans (h.drawn s) (h.drawn s.drawn)
  obtain hr | ⟨fault, hr⟩ | ⟨index, clip, hr⟩ := Chatter.frame_cases s
  · rw [hr]
    exact h.drawn s
  · rw [hr]
    exact htwice
  · rw [hr]
    exact Steady.trans htwice (h.heard index clip _)

theorem head (h : Outcomes R) : Obeys R Head.frame := by
  intro s
  rw [Head.run_frame]
  cases s.brain.state.head with
  | turning => exact h.eased s
  | idle =>
    dsimp only
    split
    · exact Steady.trans (h.drawn s) (h.aimed s.drawn)
    · exact Steady.trans (h.drawn s) (h.eased s.drawn)

theorem walk (h : Outcomes R) : Obeys R Walk.frame := by
  intro s
  rw [Walk.run_frame]
  cases s.brain.state.walk with
  | walking =>
    dsimp only
    obtain ⟨fault, hr⟩ | ⟨sine, hswung⟩ := Walk.stride_cases s
    · rw [hr]
      exact Steady.refl s
    · have hlegs : R s (Walk.swung sine s) := h.limbs s _
      obtain ⟨fault, hr⟩ | ⟨orientation, -, hr | hr⟩ := hswung
      · rw [hr]
        exact hlegs
      · rw [hr]
        exact Steady.trans hlegs (h.moved orientation _)
      · rw [hr]
        exact Steady.trans hlegs (Steady.trans (h.moved orientation _) (h.arrived _))
  | idle =>
    dsimp only
    split
    · obtain ⟨fault, hr⟩ | ⟨turn, -, hr⟩ := Walk.pickTarget_cases s.drawn
      · rw [hr]
        exact Steady.trans (h.drawn s) (h.drawn s.drawn)
      · rw [hr]
        exact Steady.trans (h.drawn s) (h.chosen turn s.drawn)
    · exact h.drawn s

/-- **The five behaviours obey what their outcomes obey**, wherever they fail. -/
theorem behave (h : Outcomes R) (ending : Nat → τ) : Obeys R (Brain.behave ending) :=
  (h.view.map _).bind fun _ => (h.wave ending).bind fun _ => (h.chatter.map _).bind fun _ =>
    h.head.bind fun _ => h.walk

end Brain.Outcomes

/-! ## What brains leave alone -/

/-- Whether the brain is closed, whom frames call, and the number that lines carry. -/
structure Scene.Badge (κ : Type) where
  closed : Bool
  callbacks : List κ
  bound : Option Int

def Scene.badge (s : Scene α κ τ) : Badge κ := ⟨s.brain.closed, s.scheduler.callbacks, s.journal.bound⟩

theorem Brain.badge_outcomes : Outcomes (leaving (Scene.badge : Scene α κ τ → _)) where
  drawn _ := rfl
  queried _ := rfl
  begun _ := rfl
  started hset := by
    obtain ⟨-, rfl⟩ := Scheduler.setTimeout_eq_ok hset
    rfl
  limbs _ _ := rfl
  heard _ _ _ := rfl
  aimed _ := rfl
  eased _ := rfl
  chosen _ _ := rfl
  moved _ _ := rfl
  arrived _ := rfl

theorem Brain.leaves_badge (ending : Nat → τ) (delta : α) :
    Obeys (leaving Scene.badge) (frame ending delta : Play α κ τ Unit) := by
  intro s
  cases hclosed : s.brain.closed with
  | true =>
    rw [run_frame_closed ending delta hclosed]
    rfl
  | false =>
    have hbehave : leaving Scene.badge (begin delta s) _ := badge_outcomes.behave ending (begin delta s)
    rw [run_frame_open ending delta hclosed]
    exact hbehave

omit [Scalar α] in
theorem Wave.leaves_badge (number : Option Int) :
    Obeys (leaving Scene.badge) (stop number : Play α κ τ Unit) := by
  intro s
  obtain ⟨-, hr⟩ | ⟨-, ⟨-, n, -, hr⟩ | ⟨-, hr⟩⟩ := stop_cases number s
  · rw [hr]
    rfl
  · rw [hr]
    rfl
  · rw [hr]
    unfold ended
    split <;> rfl

end Bystander
