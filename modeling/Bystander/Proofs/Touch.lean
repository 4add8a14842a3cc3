import Bystander.Proofs.Plays
/-! # What each behaviour may touch

Of each of the five behaviours it is said once which parts of a scene it may change, whether it ends well or fails
somewhere on its way.  Whatever is not named there is as it was.  A frame of an open brain is its beginning and then the
five in a row, so a rule that all of them obey is obeyed by frames (`Brain.obeys_frame`).
-/
namespace Bystander

open Act (Obeys obeys_pure obeys_get obeys_ofExcept obeys_modify)

variable {α κ τ : Type} [Scalar α]

/-- The view moves the viewer to the avatar's pose, or leaves it where it is, and counts its queries. -/
def View.Touches (s t : Scene α κ τ) : Prop :=
  ∃ viewer lastRefresh queries,
    (viewer = s.viewer ∨ viewer.position = s.avatar.position ∧ viewer.orientation = s.avatar.orientation) ∧ t = { s with
      viewer
      brain := { s.brain with state := { s.brain.state with lastRefresh }, queries } }

/-- A wave registers a timer, moves joints, and keeps its phase, its episode and its count. -/
def Wave.Touches (s t : Scene α κ τ) : Prop :=
  ∃ scheduler source journal joints wave episode waveCount, s.source.Leads source ∧ t = { s with
    scheduler, source, journal
    avatar := { s.avatar with joints }
    brain := { s.brain with state := { s.brain.state with wave, episode, waveCount } } }

/-- A sound keeps the voice busy and is counted. -/
def Chatter.Touches (s t : Scene α κ τ) : Prop :=
  ∃ source audio journal sounds, s.source.Leads source ∧ t = { s with
    source, audio, journal
    brain := { s.brain with sounds } }

/-- A glance moves the head towards its target. -/
def Head.Touches (s t : Scene α κ τ) : Prop :=
  ∃ source journal headPitch targetPitch head, s.source.Leads source ∧ t = { s with
    source, journal
    avatar := { s.avatar with headPitch }
    brain := { s.brain with state := { s.brain.state with targetPitch, head } } }

/-- A walk moves the body and its joints towards a target, and is counted. -/
def Walk.Touches (s t : Scene α κ τ) : Prop :=
  ∃ source journal place facing joints position orientation targetPosition targetOrientation walk walks,
    s.source.Leads source ∧ t = { s with
      source, journal
      avatar := { s.avatar with position := place, orientation := facing, joints }
      brain := { s.brain with
        walks
        state := { s.brain.state with position, orientation, targetPosition, targetOrientation, walk } } }

instance : Steady (View.Touches (α := α) (κ := κ) (τ := τ)) where
  refl _ := ⟨_, _, _, .inl rfl, rfl⟩
  trans := by
    rintro s t u ⟨_, _, _, h, rfl⟩ ⟨_, _, _, h', rfl⟩
    refine ⟨_, _, _, ?_, rfl⟩
    rcases h' with rfl | hpose
    · exact h
    · exact .inr hpose

instance : Steady (Wave.Touches (α := α) (κ := κ) (τ := τ)) where
  refl _ := ⟨_, _, _, _, _, _, _, .refl _, rfl⟩
  trans := by
    rintro s t u ⟨_, _, _, _, _, _, _, h, rfl⟩ ⟨_, _, _, _, _, _, _, h', rfl⟩
    exact ⟨_, _, _, _, _, _, _, h.trans h', rfl⟩

instance : Steady (Chatter.Touches (α := α) (κ := κ) (τ := τ)) where
  refl _ := ⟨_, _, _, _, .refl _, rfl⟩
  trans := by
    rintro s t u ⟨_, _, _, _, h, rfl⟩ ⟨_, _, _, _, h', rfl⟩
    exact ⟨_, _, _, _, h.trans h', rfl⟩

instance : Steady (Head.Touches (α := α) (κ := κ) (τ := τ)) where
  refl _ := ⟨_, _, _, _, _, .refl _, rfl⟩
  trans := by
    rintro s t u ⟨_, _, _, _, _, h, rfl⟩ ⟨_, _, _, _, _, h', rfl⟩
    exact ⟨_, _, _, _, _, h.trans h', rfl⟩

instance : Steady (Walk.Touches (α := α) (κ := κ) (τ := τ)) where
  refl _ := ⟨_, _, _, _, _, _, _, _, _, _, _, .refl _, rfl⟩
  trans := by
    rintro s t u ⟨_, _, _, _, _, _, _, _, _, _, _, h, rfl⟩ ⟨_, _, _, _, _, _, _, _, _, _, _, h', rfl⟩
    exact ⟨_, _, _, _, _, _, _, _, _, _, _, h.trans h', rfl⟩

/-! ## The view -/

theorem View.obeys_frame : Obeys View.Touches (View.frame : Play α κ τ Bool) := by
  intro s
  rw [View.run_frame]
  split
  · cases View.interval s.brain.settings.view.rate with
    | error fault => exact Steady.refl s
    | ok pause =>
      dsimp only
      split
      · exact Steady.refl s
      · exact ⟨_, _, _, .inr ⟨rfl, rfl⟩, rfl⟩
  · exact Steady.refl s

/-! ## Sounds -/

theorem Chatter.obeys_play : Obeys Chatter.Touches (Chatter.play : Play α κ τ (Option Nat)) := by
  unfold Chatter.play
  refine obeys_get.bind fun s => ?_
  split
  · exact obeys_pure none
  · refine Obeys.bind (fun s => ⟨_, _, _, _, .fraction (.refl _), rfl⟩) fun r => (obeys_ofExcept _).bind fun index => ?_
    split
    · exact obeys_pure none
    · refine (obeys_modify fun s => ⟨_, _, _, _, .refl _, rfl⟩).bind fun _ => ?_
      exact Obeys.bind (fun s => ⟨_, _, _, _, .refl _, rfl⟩) fun _ => obeys_pure _

theorem Chatter.obeys_frame : Obeys Chatter.Touches (Chatter.frame : Play α κ τ (Option Nat)) := by
  unfold Chatter.frame
  refine Obeys.bind (fun s => ⟨_, _, _, _, .fraction (.refl _), rfl⟩) fun r => obeys_get.bind fun s => ?_
  split
  · exact Chatter.obeys_play
  · exact obeys_pure none

/-! ## Glances -/

theorem Head.touches_ease (s : Scene α κ τ) : Head.Touches s (Head.ease s) := ⟨_, _, _, _, _, .refl _, rfl⟩

theorem Head.obeys_aim : Obeys Head.Touches (Head.aim : Play α κ τ Unit) := by
  refine obeys_get.bind fun s => ?_
  refine Obeys.bind (fun s => ⟨_, _, _, _, _, .fraction (.refl _), rfl⟩) fun target => ?_
  refine Obeys.bind (fun s => ⟨_, _, _, _, _, .refl _, rfl⟩) fun _ => ?_
  exact fun s => ⟨_, _, _, _, _, .refl _, rfl⟩

theorem Head.obeys_frame : Obeys Head.Touches (Head.frame : Play α κ τ Unit) := by
  unfold Head.frame
  refine obeys_get.bind fun s => ?_
  cases s.brain.state.head with
  | turning => exact obeys_modify Head.touches_ease
  | idle =>
    refine Obeys.bind (fun s => ⟨_, _, _, _, _, .fraction (.refl _), rfl⟩) fun r => obeys_get.bind fun s => ?_
    split
    · exact Head.obeys_aim
    · exact obeys_modify Head.touches_ease

/-! ## Waves -/

theorem Wave.obeys_start (ending : Nat → τ) : Obeys Wave.Touches (Wave.start ending : Play α κ τ (Episode α)) := by
  intro s
  rw [Wave.run_start]
  cases s.scheduler.setTimeout (ending (s.brain.arm.count + 1)) (s.brain.arm.nextDuration s.source) with
  | ok scheduler => exact ⟨_, _, _, _, _, _, _, .fraction (.fraction (.fraction (.refl _))), rfl⟩
  | error fault => exact ⟨_, _, _, _, _, _, _, .fraction (.fraction (.fraction (.refl _))), rfl⟩

/-- A stop releases joints and may end the wave, and never fails. -/
def Wave.Releases (s t : Scene α κ τ) : Prop :=
  ∃ journal joints wave episode,
    (wave = s.brain.state.wave ∧ episode = s.brain.state.episode ∨ wave = .idle ∧ episode = none) ∧ t = { s with
      journal
      avatar := { s.avatar with joints }
      brain := { s.brain with state := { s.brain.state with wave, episode } } }

omit [Scalar α] in
theorem Wave.run_stop (number : Option Int) (s : Scene α κ τ) :
    ∃ t, (Wave.stop number).run s = (.ok (), t) ∧ Wave.Releases s t := by
  obtain ⟨-, hr⟩ | ⟨-, ⟨-, n, -, hr⟩ | ⟨-, hr⟩⟩ := Wave.stop_cases number s
  · exact ⟨s, hr, _, _, _, _, .inl ⟨rfl, rfl⟩, rfl⟩
  · exact ⟨_, hr, _, _, _, _, .inl ⟨rfl, rfl⟩, rfl⟩
  · exact ⟨_, hr, _, _, _, _, .inr ⟨rfl, rfl⟩, rfl⟩

theorem Wave.obeys_stop (number : Option Int) : Obeys Wave.Touches (Wave.stop number : Play α κ τ Unit) := by
  intro s
  obtain ⟨t, hr, _, _, _, _, -, rfl⟩ := Wave.run_stop number s
  rw [hr]
  exact ⟨_, _, _, _, _, _, _, .refl _, rfl⟩

/-- The rolls of a wave are those of its joints. -/
theorem Wave.map_fst_rolls {w : WaveSettings α} {frequency amplitude t : α} {pairs : List (Joint × α)}
    (h : Wave.rolls w frequency amplitude t = .ok pairs) : pairs.map Prod.fst = Wave.joints := by
  unfold Wave.rolls at h
  cases hshoulder : Scalar.sine ((t - w.shoulderPhase) * frequency) with
  | error fault => rw [hshoulder] at h; cases h
  | ok shoulder =>
    rw [hshoulder] at h
    cases helbow : Scalar.sine (t * w.elbowFrequencyScale * frequency) with
    | error fault => rw [helbow] at h; cases h
    | ok elbow =>
      rw [helbow] at h
      cases hspine : Scalar.sine (t * frequency) with
      | error fault => rw [hspine] at h; cases h
      | ok spine =>
        rw [hspine] at h
        cases h
        rfl

theorem Wave.joints_of_rolls {w : WaveSettings α} {frequency amplitude t : α} {pairs : List (Joint × α)}
    (h : Wave.rolls w frequency amplitude t = .ok pairs) : ∀ p ∈ pairs, p.1 ∈ Wave.joints := by
  intro p hp
  rw [← Wave.map_fst_rolls h]
  exact List.mem_map_of_mem hp

/-- **An arm that rolls** obeys what setting each joint of a wave obeys. -/
theorem Wave.obeys_roll {R : Scene α κ τ → Scene α κ τ → Prop} [Steady R]
    (h : ∀ joint ∈ Wave.joints, ∀ q s, R s { s with avatar := s.avatar.setJoints [joint] q }) (episode : Episode α) :
    Obeys R (Wave.roll episode) := by
  refine obeys_get.bind fun s => Act.obeys_ofExcept_bind fun pairs hpairs => ?_
  refine (Act.obeys_forIn _ pairs _ fun p hp _ => ?_).bind fun _ => obeys_pure _
  exact Obeys.bind (fun c => h p.1 (Wave.joints_of_rolls hpairs p hp) _ c) fun _ => obeys_pure _

theorem Wave.obeys_frame (ending : Nat → τ) : Obeys Wave.Touches (Wave.frame ending : Play α κ τ Unit) := by
  unfold Wave.frame
  refine obeys_get.bind fun s => ?_
  split
  · refine Obeys.bind (fun s => ⟨_, _, _, _, _, _, _, .fraction (.refl _), rfl⟩) fun r => ?_
    split
    · exact (Wave.obeys_start ending).map _
    · exact obeys_pure ()
  · exact obeys_pure ()
  · exact Wave.obeys_roll (fun _ _ _ _ => ⟨_, _, _, _, _, _, _, .refl _, rfl⟩) _

/-! ## Walks -/

theorem Walk.obeys_pickTarget : Obeys Walk.Touches (Walk.pickTarget : Play α κ τ Unit) := by
  intro s
  obtain ⟨fault, hr⟩ | ⟨turn, -, hr⟩ := Walk.pickTarget_cases s
  · rw [hr]
    exact ⟨_, _, _, _, _, _, _, _, _, _, _, .fraction (.refl _), rfl⟩
  · rw [hr]
    exact ⟨_, _, _, _, _, _, _, _, _, _, _, .fraction (.fraction (.fraction (.refl _))), rfl⟩

theorem Walk.obeys_stride : Obeys Walk.Touches (Walk.stride : Play α κ τ Unit) := by
  intro s
  obtain ⟨fault, hr⟩ | ⟨sine, ⟨fault, hr⟩ | ⟨orientation, -, hr | hr⟩⟩ := Walk.stride_cases s
  · rw [hr]
    exact Steady.refl s
  all_goals
    rw [hr]
    exact ⟨_, _, _, _, _, _, _, _, _, _, _, .refl _, rfl⟩

theorem Walk.obeys_frame : Obeys Walk.Touches (Walk.frame : Play α κ τ Unit) := by
  unfold Walk.frame
  refine obeys_get.bind fun s => ?_
  cases s.brain.state.walk with
  | walking => exact Walk.obeys_stride
  | idle =>
    refine Obeys.bind (fun s => ⟨_, _, _, _, _, _, _, _, _, _, _, .fraction (.refl _), rfl⟩) fun r => ?_
    refine obeys_get.bind fun s => ?_
    split
    · exact Walk.obeys_pickTarget
    · exact obeys_pure ()

/-! ## A frame -/

namespace Brain

/-- The five behaviours in a row; the first that fails ends them. -/
def behave (ending : Nat → τ) : Play α κ τ Unit := do
  discard View.frame
  Wave.frame ending
  discard Chatter.frame
  Head.frame
  Walk.frame

theorem run_frame_closed (ending : Nat → τ) (delta : α) {s : Scene α κ τ} (h : s.brain.closed = true) :
    (frame ending delta).run s = (.ok (), s) := by
  rw [frame, Act.run_get_bind, h]
  rfl

/-- **A frame of an open brain** is its beginning and then the five behaviours. -/
theorem run_frame_open (ending : Nat → τ) (delta : α) {s : Scene α κ τ} (h : s.brain.closed = false) :
    (frame ending delta).run s = (behave ending).run (begin delta s) := by
  rw [frame, Act.run_get_bind, h]
  rfl

section Rules

variable {R : Scene α κ τ → Scene α κ τ → Prop} [Steady R]

/-- What comes after the wave obeys what the three last behaviours obey. -/
theorem obeys_rest (hchatter : ∀ s t, Chatter.Touches s t → R s t) (hhead : ∀ s t, Head.Touches s t → R s t)
    (hwalk : Obeys R Walk.frame) : Obeys R (do
      discard Chatter.frame
      Head.frame
      Walk.frame : Play α κ τ Unit) :=
  ((Chatter.obeys_frame.imp hchatter).map _).bind fun _ => (Head.obeys_frame.imp hhead).bind fun _ => hwalk

theorem obeys_behave (ending : Nat → τ) (hview : ∀ s t, View.Touches s t → R s t) (hwave : Obeys R (Wave.frame ending))
    (hchatter : ∀ s t, Chatter.Touches s t → R s t) (hhead : ∀ s t, Head.Touches s t → R s t)
    (hwalk : Obeys R Walk.frame) : Obeys R (behave ending) :=
  ((View.obeys_frame.imp hview).map _).bind fun _ => hwave.bind fun _ => obeys_rest hchatter hhead hwalk

/-- **A frame obeys what its beginning and the five behaviours obey.** -/
theorem obeys_frame (ending : Nat → τ) (delta : α) (hbegin : ∀ s, s.brain.closed = false → R s (begin delta s))
    (hview : ∀ s t, View.Touches s t → R s t) (hwave : Obeys R (Wave.frame ending))
    (hchatter : ∀ s t, Chatter.Touches s t → R s t) (hhead : ∀ s t, Head.Touches s t → R s t)
    (hwalk : Obeys R Walk.frame) : Obeys R (frame ending delta) := by
  intro s
  cases hclosed : s.brain.closed with
  | true =>
    rw [run_frame_closed ending delta hclosed]
    exact Steady.refl s
  | false =>
    rw [run_frame_open ending delta hclosed]
    exact Steady.trans (hbegin s hclosed) (obeys_behave ending hview hwave hchatter hhead hwalk (begin delta s))

omit [Scalar α] in
/-- **A close obeys what closing an open brain obeys.** -/
theorem obeys_close (hclose : ∀ s journal, s.brain.closed = false →
    R s { s with journal, brain := { s.brain with closed := true } }) : Obeys R close := by
  intro s
  rw [close, Act.run_get_bind]
  cases hclosed : s.brain.closed with
  | true => exact Steady.refl s
  | false => exact hclose s _ hclosed

end Rules

end Brain
end Bystander
