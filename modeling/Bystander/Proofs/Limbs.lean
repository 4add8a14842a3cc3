import Bystander.Proofs.Company
/-! # Every joint override is accounted for

Waves and walks override joints and release them again, and a frame may fail in between; stops come from timers, from
late timers of earlier waves, and by hand.  Through all of that the joint table of an open brain only holds what the two
phases account for (`AccountsFor`).
-/
namespace Bystander

open Act (Obeys run_bind run_get_bind)

variable {α κ τ : Type}

/-- **Each override is accounted for by a phase.**  An idle wave holds neither shoulder nor elbow nor spine, an idle
walk neither hip nor knee; these two are always held together. -/
structure BotState.AccountsFor (b : BotState α) (joints : JointTable α) : Prop where
  only : ∀ j, joints.get? j ≠ none → j ∈ [1, 2, 13, 17, 18]
  arm : b.wave = .idle → joints.get? 17 = none ∧ joints.get? 18 = none ∧ joints.get? 13 = none
  legs : b.walk = .idle → joints.get? 1 = none ∧ joints.get? 2 = none
  pair : joints.get? 1 = joints.get? 2
  episode : b.episode.isSome = true ↔ b.wave = .waving

/-! ## Setting and releasing several joints -/

namespace Avatar

theorem get?_setJoints (q : Quat α) (k : Int) : ∀ (js : List Joint) (a : Avatar α),
    (a.setJoints js q).joints.get? k = if k ∈ js.map Joint.index then some q else a.joints.get? k
  | [], a => by simp [setJoints]
  | j :: js, a => by
    have ih := get?_setJoints q k js (a.setJoints [j] q)
    change (a.setJoints (j :: js) q).joints.get? k = _ at ih
    rw [ih]
    change (if _ then _ else JointTable.get? k (JointTable.set j.index q a.joints)) = _
    rw [JointTable.get?_set]
    by_cases hk : k = j.index <;> simp [hk]

theorem get?_clearJoints (k : Int) : ∀ (js : List Joint) (a : Avatar α),
    (a.clearJoints js).joints.get? k = if k ∈ js.map Joint.index then none else a.joints.get? k
  | [], a => by simp [clearJoints]
  | j :: js, a => by
    have ih := get?_clearJoints k js (a.clearJoints [j])
    change (a.clearJoints (j :: js)).joints.get? k = _ at ih
    rw [ih]
    change (if _ then _ else JointTable.get? k (JointTable.clear j.index a.joints)) = _
    rw [JointTable.get?_clear]
    by_cases hk : k = j.index <;> simp [hk]

end Avatar

/-! ## What the phases account for -/

namespace BotState

theorem accountsFor_empty {b : BotState α} (hwave : b.wave = .idle) (hepisode : b.episode = none) :
    b.AccountsFor [] where
  only j hj := absurd rfl hj
  arm _ := ⟨rfl, rfl, rfl⟩
  legs _ := ⟨rfl, rfl⟩
  pair := rfl
  episode := by simp [hwave, hepisode]

namespace AccountsFor

variable {b : BotState α} {a : Avatar α}

theorem setArm (h : b.AccountsFor a.joints) (hwave : b.wave = .waving) {joint : Joint} (hj : joint ∈ Wave.joints)
    (q : Quat α) : b.AccountsFor (a.setJoints [joint] q).joints := by
  have hindex : joint.index = 17 ∨ joint.index = 18 ∨ joint.index = 13 := by
    cases joint <;> simp_all [Wave.joints, Joint.index]
  have hget : ∀ k, (a.setJoints [joint] q).joints.get? k = if k = joint.index then some q else a.joints.get? k := by
    intro k
    simp [Avatar.get?_setJoints]
  have hlegs : ∀ k, k = 1 ∨ k = 2 → (a.setJoints [joint] q).joints.get? k = a.joints.get? k := by
    intro k hk
    rw [hget, if_neg (by omega)]
  refine ⟨fun k hk => ?_, fun hidle => ?_, fun hidle => ?_, ?_, h.episode⟩
  · rw [hget] at hk
    by_cases heq : k = joint.index
    · rcases hindex with hi | hi | hi <;> rw [heq, hi] <;> decide
    · rw [if_neg heq] at hk
      exact h.only k hk
  · rw [hwave] at hidle
    cases hidle
  · rw [hlegs 1 (by omega), hlegs 2 (by omega)]
    exact h.legs hidle
  · rw [hlegs 1 (by omega), hlegs 2 (by omega)]
    exact h.pair

theorem setLegs (h : b.AccountsFor a.joints) (hwalk : b.walk = .walking) (q : Quat α) :
    b.AccountsFor (a.setJoints Walk.legs q).joints := by
  have hget : ∀ k, (a.setJoints Walk.legs q).joints.get? k = if k = 1 ∨ k = 2 then some q else a.joints.get? k := by
    intro k
    simp [Avatar.get?_setJoints, Walk.legs, Joint.index]
  refine ⟨fun k hk => ?_, fun hidle => ?_, fun hidle => ?_, ?_, h.episode⟩
  · rw [hget] at hk
    by_cases hleg : k = 1 ∨ k = 2
    · rcases hleg with rfl | rfl <;> decide
    · rw [if_neg hleg] at hk
      exact h.only k hk
  · rw [hget, hget, hget, if_neg (by omega), if_neg (by omega), if_neg (by omega)]
    exact h.arm hidle
  · rw [hwalk] at hidle
    cases hidle
  · rw [hget, hget, if_pos (by omega), if_pos (by omega)]

theorem clearArm (h : b.AccountsFor a.joints) :
    ({ b with wave := .idle, episode := none } : BotState α).AccountsFor (a.clearJoints Wave.joints).joints := by
  have hget : ∀ k, (a.clearJoints Wave.joints).joints.get? k =
      if k = 17 ∨ k = 18 ∨ k = 13 then none else a.joints.get? k := by
    intro k
    simp [Avatar.get?_clearJoints, Wave.joints, Joint.index]
  refine ⟨fun k hk => ?_, fun _ => ?_, fun hidle => ?_, ?_, by simp⟩
  · rw [hget] at hk
    by_cases harm : k = 17 ∨ k = 18 ∨ k = 13
    · rw [if_pos harm] at hk
      exact absurd rfl hk
    · rw [if_neg harm] at hk
      exact h.only k hk
  · rw [hget, hget, hget, if_pos (by omega), if_pos (by omega), if_pos (by omega)]
    exact ⟨rfl, rfl, rfl⟩
  · rw [hget, hget, if_neg (by omega), if_neg (by omega)]
    exact h.legs hidle
  · rw [hget, hget, if_neg (by omega), if_neg (by omega)]
    exact h.pair

theorem clearLegs (h : b.AccountsFor a.joints) (walk : WalkPhase) :
    ({ b with walk } : BotState α).AccountsFor (a.clearJoints Walk.legs).joints := by
  have hget : ∀ k, (a.clearJoints Walk.legs).joints.get? k = if k = 1 ∨ k = 2 then none else a.joints.get? k := by
    intro k
    simp [Avatar.get?_clearJoints, Walk.legs, Joint.index]
  refine ⟨fun k hk => ?_, fun hidle => ?_, fun _ => ?_, ?_, h.episode⟩
  · rw [hget] at hk
    by_cases hleg : k = 1 ∨ k = 2
    · rw [if_pos hleg] at hk
      exact absurd rfl hk
    · rw [if_neg hleg] at hk
      exact h.only k hk
  · rw [hget, hget, hget, if_neg (by omega), if_neg (by omega), if_neg (by omega)]
    exact h.arm hidle
  · rw [hget, hget, if_pos (by omega), if_pos (by omega)]
    exact ⟨rfl, rfl⟩
  · rw [hget, hget, if_pos (by omega), if_pos (by omega)]

theorem congr {b' : BotState α} {joints : JointTable α} (h : b.AccountsFor joints) (hwave : b'.wave = b.wave)
    (hwalk : b'.walk = b.walk) (hepisode : b'.episode = b.episode) : b'.AccountsFor joints where
  only := h.only
  arm := hwave ▸ h.arm
  legs := hwalk ▸ h.legs
  pair := h.pair
  episode := hwave ▸ hepisode ▸ h.episode

theorem beginWave (h : b.AccountsFor a.joints) (episode : Episode α) (waveCount : Nat) :
    ({ b with wave := .waving, episode := some episode, waveCount } : BotState α).AccountsFor a.joints where
  only := h.only
  arm hidle := by cases hidle
  legs := h.legs
  pair := h.pair
  episode := by simp

theorem beginWalk (h : b.AccountsFor a.joints) (heading : Quat α) (target : Vec3 α) :
    ({ b with walk := .walking, targetOrientation := heading, targetPosition := target } : BotState α).AccountsFor
      a.joints where
  only := h.only
  arm := h.arm
  legs hidle := by cases hidle
  pair := h.pair
  episode := h.episode

end AccountsFor
end BotState

/-! ## Behaviours keep the account -/

variable [Scalar α]

theorem Brain.joints_begin (delta : α) (s : Scene α κ τ) : (begin delta s).avatar.joints = s.avatar.joints := by
  unfold begin
  dsimp only
  split <;> rfl

/-- The joints of an open brain's avatar are accounted for. -/
def Scene.Accounted (s : Scene α κ τ) : Prop :=
  s.brain.closed = false → s.brain.state.AccountsFor s.avatar.joints

namespace Scene.Accounted

variable {s : Scene α κ τ}

theorem begin (delta : α) (h : s.Accounted) : (Brain.begin delta s).Accounted := by
  intro hopen
  rw [Brain.joints_begin]
  exact (h hopen).congr rfl rfl rfl

omit [Scalar α] in
theorem view {t : Scene α κ τ} (ht : View.Touches s t) (h : s.Accounted) : t.Accounted := by
  obtain ⟨_, _, _, -, rfl⟩ := ht
  exact fun hopen => (h hopen).congr rfl rfl rfl

theorem chatter {t : Scene α κ τ} (ht : Chatter.Touches s t) (h : s.Accounted) : t.Accounted := by
  obtain ⟨_, _, _, _, -, rfl⟩ := ht
  exact fun hopen => (h hopen).congr rfl rfl rfl

theorem head {t : Scene α κ τ} (ht : Head.Touches s t) (h : s.Accounted) : t.Accounted := by
  obtain ⟨_, _, _, _, _, -, rfl⟩ := ht
  exact fun hopen => (h hopen).congr rfl rfl rfl

end Scene.Accounted

namespace Wave

theorem keeps_start (ending : Nat → τ) : Obeys (keeping Scene.Accounted) (start ending : Play α κ τ (Episode α)) := by
  intro s h
  have hbegun : (begun s).Accounted := fun hopen => (h hopen).beginWave _ _
  rw [run_start]
  cases s.scheduler.setTimeout (ending (s.brain.arm.count + 1)) (s.brain.arm.nextDuration s.source) with
  | error fault => exact hbegun
  | ok scheduler =>
    have hpalm : Joint.elbow ∈ joints := by decide
    intro hopen
    exact (hbegun hopen).setArm rfl hpalm _

omit [Scalar α] in
theorem keeps_stop (number : Option Int) : Obeys (keeping Scene.Accounted) (stop number : Play α κ τ Unit) := by
  intro s h
  obtain ⟨-, hr⟩ | ⟨-, ⟨-, n, -, hr⟩ | ⟨-, hr⟩⟩ := stop_cases number s
  · rw [hr]
    exact h
  · rw [hr]
    exact h
  · rw [hr]
    exact fun hopen => (h hopen).clearArm

theorem keeps_frame (ending : Nat → τ) : Obeys (keeping Scene.Accounted) (frame ending : Play α κ τ Unit) := by
  intro s h
  rw [frame, run_get_bind]
  split
  · rw [run_bind, Scene.run_draw]
    dsimp only
    split
    · exact ((keeps_start ending).map _) { s with source := s.source.draw.2 } h
    · exact h
  · exact h
  · next episode hwave hepisode =>
    -- While the arm rolls the scene goes on to wave, so each joint set is accounted for.
    have hroll : Obeys (keeping fun c : Scene α κ τ => c.brain.state.wave = .waving ∧ c.Accounted) (roll episode) :=
      obeys_roll (fun _ hjoint q _ hc => ⟨hc.1, fun hopen => (hc.2 hopen).setArm hc.1 hjoint q⟩) episode
    exact (hroll s ⟨hwave, h⟩).2

end Wave

namespace Walk

omit [Scalar α] in
theorem keeps_release : Obeys (keeping Scene.Accounted) (release : Play α κ τ Unit) :=
  fun s h hopen => (h hopen).clearLegs s.brain.state.walk

theorem keeps_pickTarget : Obeys (keeping Scene.Accounted) (pickTarget : Play α κ τ Unit) := by
  intro s h
  obtain ⟨fault, hr⟩ | ⟨turn, -, hr⟩ := pickTarget_cases s
  · rw [hr]
    exact h
  · rw [hr]
    exact fun hopen => (h hopen).beginWalk _ _

theorem keeps_stride {s : Scene α κ τ} (hwalk : s.brain.state.walk = .walking) (h : s.Accounted) :
    (stride.run s).2.Accounted := by
  have hswung : ∀ sine, (swung sine s).Accounted := fun sine hopen => (h hopen).setLegs hwalk _
  obtain ⟨fault, hr⟩ | ⟨sine, ⟨fault, hr⟩ | ⟨orientation, -, hr | hr⟩⟩ := stride_cases s
  · rw [hr]
    exact h
  · rw [hr]
    exact hswung sine
  · rw [hr]
    exact fun hopen => (hswung sine hopen).congr rfl rfl rfl
  · rw [hr]
    have hmoved : (moved orientation (swung sine s)).Accounted := fun hopen => (hswung sine hopen).congr rfl rfl rfl
    exact fun hopen => (hmoved hopen).clearLegs .idle

theorem keeps_frame : Obeys (keeping Scene.Accounted) (frame : Play α κ τ Unit) := by
  intro s h
  rw [frame, run_get_bind]
  split
  · next hwalk => exact keeps_stride hwalk h
  · rw [run_bind, Scene.run_draw]
    dsimp only
    rw [run_get_bind]
    split
    · exact keeps_pickTarget { s with source := s.source.draw.2 } h
    · exact h

end Walk

/-- **Every frame keeps the account**, wherever it fails. -/
theorem Brain.keeps_frame (ending : Nat → τ) (delta : α) :
    Obeys (keeping Scene.Accounted) (Brain.frame ending delta : Play α κ τ Unit) :=
  Brain.obeys_frame ending delta (fun _ _ h => h.begin delta) (fun _ _ ht h => h.view ht) (Wave.keeps_frame ending)
    (fun _ _ ht h => h.chatter ht) (fun _ _ ht h => h.head ht) Walk.keeps_frame

omit [Scalar α] in
theorem Brain.keeps_close : Obeys (keeping Scene.Accounted) (Brain.close : Play α κ τ Unit) :=
  Brain.obeys_close fun _ _ _ _ hopen => by cases hopen

theorem Chatter.keeps_play : Obeys (keeping Scene.Accounted) (Chatter.play : Play α κ τ (Option Nat)) :=
  Chatter.obeys_play.imp fun _ _ ht h => h.chatter ht

end Bystander
