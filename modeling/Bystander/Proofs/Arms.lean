import Bystander.Proofs.Company
/-! # What a frame does with the arm

Of a frame only the wave behaviour touches the arm and the timers.  It leaves both alone, or it starts a wave: the arm
says that it waves, and one more timer is pending if its delay is accepted (`Brain.arm_frame`).  A stop changes the arm
alone (`Wave.arm_stop`).
-/
namespace Bystander

open Act (Obeys run_bind run_get_bind)

variable {α κ τ : Type} [Scalar α]

namespace Arm

def stopped (arm : Arm α) (number : Option Int) : Arm α :=
  if arm.closed = false ∧ Wave.concerns number arm.episode = true then { arm with phase := .idle, episode := none }
  else arm

omit [Scalar α] in
theorem stopped_of_closed {arm : Arm α} (h : arm.closed = true) (number : Option Int) : arm.stopped number = arm := by
  unfold stopped
  rw [if_neg]
  rintro ⟨hopen, -⟩
  rw [h] at hopen
  cases hopen

omit [Scalar α] in
theorem stopped_of_stale {arm : Arm α} {number : Option Int} (h : Wave.concerns number arm.episode = false) :
    arm.stopped number = arm := by
  unfold stopped
  rw [if_neg]
  rintro ⟨-, hc⟩
  rw [h] at hc
  cases hc

omit [Scalar α] in
theorem stopped_of_concerned {number : Option Int} (arm : Arm α) (hopen : arm.closed = false)
    (h : Wave.concerns number arm.episode = true) :
    arm.stopped number = { arm with phase := .idle, episode := none } := by
  unfold stopped
  rw [if_pos ⟨hopen, h⟩]

end Arm

omit [Scalar α] in
/-- **A stop** changes the arm alone, and never fails. -/
theorem Wave.arm_stop (number : Option Int) (s : Scene α κ τ) :
    ∃ t, (Wave.stop number).run s = (.ok (), t) ∧ t.scheduler = s.scheduler ∧ t.source = s.source ∧
      t.brain.arm = s.brain.arm.stopped number := by
  obtain ⟨hclosed, hr⟩ | ⟨hopen, ⟨hc, n, -, hr⟩ | ⟨hc, hr⟩⟩ := Wave.stop_cases number s
  · exact ⟨s, hr, rfl, rfl, (Arm.stopped_of_closed hclosed number).symm⟩
  · exact ⟨_, hr, rfl, rfl, (Arm.stopped_of_stale hc).symm⟩
  · have harm := Arm.stopped_of_concerned s.brain.arm hopen hc
    exact ⟨_, hr, rfl, rfl, harm.symm⟩

def Scheduler.asked (purpose : τ) (delay : α) (s : Scheduler α κ τ) : Scheduler α κ τ :=
  match s.setTimeout purpose delay with
  | .ok s' => s'
  | .error _ => s

theorem Scheduler.callbacks_asked (s : Scheduler α κ τ) (purpose : τ) (delay : α) :
    (s.asked purpose delay).callbacks = s.callbacks := by
  unfold Scheduler.asked Scheduler.setTimeout
  cases acceptsDelay delay <;> rfl

theorem Scheduler.now_asked (s : Scheduler α κ τ) (purpose : τ) (delay : α) : (s.asked purpose delay).now = s.now := by
  unfold Scheduler.asked Scheduler.setTimeout
  cases acceptsDelay delay <;> rfl

theorem Scheduler.timers_subset_asked (s : Scheduler α κ τ) (purpose : τ) (delay : α) :
    s.timers ⊆ (s.asked purpose delay).timers := by
  intro t ht
  unfold Scheduler.asked
  cases hs : s.setTimeout purpose delay with
  | error fault => exact ht
  | ok s' =>
    obtain ⟨-, rfl⟩ := setTimeout_eq_ok hs
    exact (mem_enqueue _ t _).2 (Or.inr ht)

theorem Scheduler.Ordered.asked [Timekeeping α] {s : Scheduler α κ τ} (hs : s.Ordered) (purpose : τ) (delay : α) :
    (s.asked purpose delay).Ordered := by
  unfold Scheduler.asked
  cases h : s.setTimeout purpose delay with
  | error fault => exact hs
  | ok s' => exact hs.setTimeout h

theorem Scheduler.mem_asked {s : Scheduler α κ τ} {purpose : τ} {delay : α} {t : Timer α τ}
    (ht : t ∈ (s.asked purpose delay).timers) :
    t = ⟨s.now + delay / 1000.0, s.nextSerial, purpose⟩ ∨ t ∈ s.timers := by
  unfold Scheduler.asked at ht
  cases hs : s.setTimeout purpose delay with
  | error fault =>
    rw [hs] at ht
    exact Or.inr ht
  | ok s' =>
    rw [hs] at ht
    obtain ⟨-, rfl⟩ := setTimeout_eq_ok hs
    rcases (mem_enqueue _ t _).1 ht with rfl | ht'
    · exact Or.inl rfl
    · exact Or.inr ht'

theorem Scheduler.mem_asked_self {delay : α} (h : Scalar.Elapses delay) (s : Scheduler α κ τ) (purpose : τ) :
    ⟨s.now + delay / 1000.0, s.nextSerial, purpose⟩ ∈ (s.asked purpose delay).timers := by
  have hregister : s.setTimeout purpose delay = .ok _ := if_pos ((acceptsDelay_iff delay).2 h)
  rw [Scheduler.asked, hregister]
  exact (mem_enqueue _ _ s.timers).2 (Or.inl rfl)

/-- **How a frame goes for the arm**, with the scheduler, the arm and the source before it. -/
def Arm.Goes (ending : Nat → τ) (scheduler : Scheduler α κ τ) (arm : Arm α) (source : Source α) (t : Scene α κ τ) :
    Prop :=
  t.scheduler = scheduler ∧ t.brain.arm = arm ∨
    arm.closed = false ∧ arm.phase = .idle ∧ t.brain.arm = arm.begun source.draw.2 ∧
      t.scheduler = scheduler.asked (ending (arm.count + 1)) (arm.nextDuration source.draw.2)

/-- What neither arm nor timers are concerned with. -/
def Arm.aside (s : Scene α κ τ) : Scheduler α κ τ × Arm α := (s.scheduler, s.brain.arm)

omit [Scalar α] in
theorem Arm.Goes.of_aside [Scalar α] {ending : Nat → τ} {scheduler : Scheduler α κ τ} {arm : Arm α} {source : Source α}
    {t u : Scene α κ τ} (h : Arm.Goes ending scheduler arm source t) (hu : leaving Arm.aside t u) :
    Arm.Goes ending scheduler arm source u := by
  have hs : u.scheduler = t.scheduler := congrArg Prod.fst hu
  have ha : u.brain.arm = t.brain.arm := congrArg Prod.snd hu
  unfold Arm.Goes
  rw [hs, ha]
  exact h

theorem Wave.arm_frame (ending : Nat → τ) (s : Scene α κ τ) (hopen : s.brain.closed = false) :
    Arm.Goes ending s.scheduler s.brain.arm s.source ((Wave.frame ending).run s).2 := by
  rw [Wave.frame, run_get_bind]
  split
  · next _ hidle =>
    rw [run_bind, Scene.run_draw]
    dsimp only
    split
    · rw [Act.run_discard, Wave.run_start]
      refine Or.inr ⟨hopen, hidle, ?_⟩
      unfold Scheduler.asked
      cases hs : s.scheduler.setTimeout (ending (s.brain.arm.count + 1)) (s.brain.arm.nextDuration s.source.draw.2) with
      | ok scheduler => exact ⟨rfl, rfl⟩
      | error fault => exact ⟨rfl, rfl⟩
    · exact Or.inl ⟨rfl, rfl⟩
  · exact Or.inl ⟨rfl, rfl⟩
  · next episode _ _ =>
    have hroll : Obeys (leaving Arm.aside) (Wave.roll episode : Play α κ τ Unit) :=
      Wave.obeys_roll (fun _ _ _ _ => rfl) episode
    exact Arm.Goes.of_aside (Or.inl ⟨rfl, rfl⟩) (hroll s)

/-- The behaviours after the wave leave arm and timers alone. -/
theorem Arm.obeys_rest : Obeys (leaving Arm.aside) (do
    discard Chatter.frame
    Head.frame
    Walk.frame : Play α κ τ Unit) := by
  refine Brain.obeys_rest (fun c d h => ?_) (fun c d h => ?_) (Walk.obeys_frame.imp fun c d h => ?_)
  · obtain ⟨_, _, _, _, -, rfl⟩ := h
    rfl
  · obtain ⟨_, _, _, _, _, -, rfl⟩ := h
    rfl
  · obtain ⟨_, _, _, _, _, _, _, _, _, _, _, -, rfl⟩ := h
    rfl

/-- **How a frame goes for the arm** of a brain, wherever it fails. -/
theorem Brain.arm_frame (ending : Nat → τ) (delta : α) (s : Scene α κ τ) :
    Arm.Goes ending s.scheduler s.brain.arm s.source ((Brain.frame ending delta).run s).2 := by
  cases hclosed : s.brain.closed with
  | true =>
    rw [Brain.run_frame_closed ending delta hclosed]
    exact Or.inl ⟨rfl, rfl⟩
  | false =>
    have hview : ∀ c : Scene α κ τ, View.Touches c ((discard View.frame).run c).2 := View.obeys_frame.map _
    rw [Brain.run_frame_open ending delta hclosed, Brain.behave, run_bind]
    obtain ⟨viewer, lastRefresh, queries, -, hc⟩ := hview (Brain.begin delta s)
    rcases hr : (discard View.frame).run (Brain.begin delta s) with ⟨fault | u, c⟩
    · rw [hr] at hc
      dsimp only at hc ⊢
      rw [hc]
      exact Or.inl ⟨rfl, rfl⟩
    · rw [hr] at hc
      dsimp only at hc ⊢
      have hwave := Wave.arm_frame ending c (by rw [hc]; exact hclosed)
      have hstart : c.scheduler = s.scheduler ∧ c.brain.arm = s.brain.arm ∧ c.source = s.source := by
        rw [hc]
        exact ⟨rfl, rfl, rfl⟩
      rw [hstart.1, hstart.2.1, hstart.2.2] at hwave
      rw [run_bind]
      rcases hw : (Wave.frame ending).run c with ⟨fault | u, d⟩
      · rw [hw] at hwave
        exact hwave
      · rw [hw] at hwave
        exact hwave.of_aside (Arm.obeys_rest d)

end Bystander
