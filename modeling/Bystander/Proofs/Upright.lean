import Mathlib
import Bystander.Proofs.Course
import Bystander.Proofs.Outings
/-! # The bot stays upright

With exact numbers a bot that has entered upright only ever turns about the vertical axis.  A heading is a turn of the
orientation, a step mixes the orientation with the heading, the state mirrors the body, and the view is moved to where
the body faces; nothing else turns anything.
-/
namespace Bystander

open Act (Obeys run_bind run_get_bind)

variable {γ κ τ : Type} {v : Viewer ℝ}

theorem Quat.angleAxis_upright {degrees : ℝ} {q : Quat ℝ} (h : Quat.angleAxis degrees .up = .ok q) : q.Upright := by
  rw [Quat.angleAxis_up] at h
  cases h
  exact Quat.upright_ofYaw degrees

theorem Quat.mix_upright {a b q : Quat ℝ} {t : ℝ} (ha : a.Upright) (hb : b.Upright) (h : a.mix b t = .ok q) :
    q.Upright := by
  obtain ⟨r, hr, hmix⟩ := ha.mix hb t
  have hplain := @hmix (fun a k => .ok (a / k)) fun _ _ _ => rfl
  rw [Quat.mixBy_plain, h] at hplain
  cases hplain
  exact hr

/-! ## Frames keep the bot upright -/

structure Brain.Upright (brain : Brain ℝ) : Prop where
  current : brain.state.orientation.Upright
  target : brain.state.targetOrientation.Upright

/-- **An upright scene**: body and brain are, and so is the view unless it is still the one of the beginning. -/
structure Scene.Upright (v : Viewer ℝ) (s : Scene ℝ κ τ) : Prop where
  brain : s.brain.Upright
  body : s.avatar.orientation.Upright
  view : s.viewer = v ∨ s.viewer.orientation.Upright

namespace Scene.Upright

variable {s t : Scene ℝ κ τ}

theorem begin (delta : ℝ) (h : s.Upright v) : (Brain.begin delta s).Upright v := by
  have hbody : (Brain.begin delta s).avatar.orientation = s.avatar.orientation := by
    unfold Brain.begin
    dsimp only
    split <;> rfl
  -- the state mirrors the body when a frame begins
  have hbrain : (Brain.begin delta s).brain.state.orientation = (Brain.begin delta s).avatar.orientation := rfl
  refine ⟨⟨?_, h.brain.target⟩, ?_, h.view⟩
  · rw [hbrain, hbody]
    exact h.body
  · rw [hbody]
    exact h.body

theorem viewed (ht : View.Touches s t) (h : s.Upright v) : t.Upright v := by
  obtain ⟨viewer, _, _, hview, rfl⟩ := ht
  refine ⟨⟨h.brain.current, h.brain.target⟩, h.body, ?_⟩
  change viewer = v ∨ viewer.orientation.Upright
  rcases hview with rfl | ⟨-, hfacing⟩
  · exact h.view
  · rw [hfacing]
    exact .inr h.body

theorem wave (ht : Wave.Touches s t) (h : s.Upright v) : t.Upright v := by
  obtain ⟨_, _, _, _, _, _, _, -, rfl⟩ := ht
  exact ⟨⟨h.brain.current, h.brain.target⟩, h.body, h.view⟩

theorem chatter (ht : Chatter.Touches s t) (h : s.Upright v) : t.Upright v := by
  obtain ⟨_, _, _, _, -, rfl⟩ := ht
  exact ⟨⟨h.brain.current, h.brain.target⟩, h.body, h.view⟩

theorem head (ht : Head.Touches s t) (h : s.Upright v) : t.Upright v := by
  obtain ⟨_, _, _, _, _, -, rfl⟩ := ht
  exact ⟨⟨h.brain.current, h.brain.target⟩, h.body, h.view⟩

end Scene.Upright

theorem Walk.upright_pickTarget : Obeys (keeping (Scene.Upright v)) (Walk.pickTarget : Play ℝ κ τ Unit) := by
  intro s h
  obtain ⟨fault, hr⟩ | ⟨turn, hturn, hr⟩ := Walk.pickTarget_cases s
  · rw [hr]
    exact ⟨h.brain, h.body, h.view⟩
  · rw [hr]
    exact ⟨⟨h.brain.current, h.brain.current.mul (Quat.angleAxis_upright hturn)⟩, h.body, h.view⟩

theorem Walk.upright_stride : Obeys (keeping (Scene.Upright v)) (Walk.stride : Play ℝ κ τ Unit) := by
  intro s h
  obtain ⟨fault, hr⟩ | ⟨sine, ⟨fault, hr⟩ | ⟨orientation, hmix, hr | hr⟩⟩ := Walk.stride_cases s
  · rw [hr]
    exact h
  · rw [hr]
    exact ⟨h.brain, h.body, h.view⟩
  all_goals
    have horientation := Quat.mix_upright h.brain.current h.brain.target hmix
    rw [hr]
    exact ⟨⟨horientation, h.brain.target⟩, horientation, h.view⟩

theorem Walk.upright_frame : Obeys (keeping (Scene.Upright v)) (Walk.frame : Play ℝ κ τ Unit) := by
  intro s h
  rw [Walk.frame, run_get_bind]
  split
  · exact Walk.upright_stride s h
  · rw [run_bind, Scene.run_draw]
    dsimp only
    rw [run_get_bind]
    have hdrawn : Scene.Upright v { s with source := s.source.draw.2 } := ⟨h.brain, h.body, h.view⟩
    split
    · exact Walk.upright_pickTarget _ hdrawn
    · exact hdrawn

/-- **Every frame keeps the bot upright.** -/
theorem Brain.upright_frame (ending : Nat → τ) (delta : ℝ) :
    Obeys (keeping (Scene.Upright v)) (Brain.frame ending delta : Play ℝ κ τ Unit) :=
  Brain.obeys_frame ending delta (fun _ _ h => h.begin delta) (fun _ _ ht h => h.viewed ht)
    ((Wave.obeys_frame ending).imp fun _ _ ht h => h.wave ht) (fun _ _ ht h => h.chatter ht) (fun _ _ ht h => h.head ht)
    Walk.upright_frame

theorem Brain.upright_close : Obeys (keeping (Scene.Upright v)) (Brain.close : Play ℝ κ τ Unit) :=
  Brain.obeys_close fun _ _ _ h => ⟨⟨h.brain.current, h.brain.target⟩, h.body, h.view⟩

/-! ## Starts, stops and frames keep the bot upright -/

namespace Bot

structure Upright (v : Viewer ℝ) (s : BotStage ℝ γ) : Prop where
  brains : ∀ brain ∈ s.cast.brains, brain.Upright
  body : s.avatar.orientation.Upright
  view : s.viewer = v ∨ s.viewer.orientation.Upright

/-- **Which way everything faces**: the body, the view, and each brain with where it turns to. -/
def facings (s : BotStage ℝ γ) : Quat ℝ × Viewer ℝ × List (Quat ℝ × Quat ℝ) :=
  (s.avatar.orientation, s.viewer,
    s.cast.brains.map fun brain => (brain.state.orientation, brain.state.targetOrientation))

theorem Upright.elsewhere {s t : BotStage ℝ γ} (h : Upright v s) (ht : leaving facings s t) : Upright v t := by
  obtain ⟨hbody, hrest⟩ := Prod.mk.inj ht
  obtain ⟨hviewer, hbrains⟩ := Prod.mk.inj hrest
  refine ⟨fun brain hb => ?_, hbody ▸ h.body, hviewer ▸ h.view⟩
  have hmem := List.mem_map_of_mem (f := fun brain => (brain.state.orientation, brain.state.targetOrientation)) hb
  rw [hbrains] at hmem
  obtain ⟨before, hbefore, heq⟩ := List.mem_map.1 hmem
  obtain ⟨hcurrent, htarget⟩ := Prod.mk.inj heq
  exact ⟨hcurrent ▸ (h.brains before hbefore).current, htarget ▸ (h.brains before hbefore).target⟩

theorem upright_onBrain {β : Type} {play : Play ℝ (Callback γ) (Alarm γ) β} (serial : Nat)
    (hplay : Obeys (keeping (Scene.Upright v)) play) : Obeys (keeping (Upright v)) (onBrain serial play) := by
  refine obeys_onBrain fun s brain hb hs => ?_
  have hafter : Scene.Upright v (play.run (scene s brain)).2 :=
    hplay (scene s brain) ⟨hs.brains brain (List.mem_of_getElem? hb), hs.body, hs.view⟩
  refine ⟨fun other hother => ?_, hafter.body, hafter.view⟩
  obtain hold | rfl := List.mem_or_eq_of_mem_set hother
  · exact hs.brains other hold
  · exact hafter.brain

theorem upright_step {guests : Guests ℝ γ} {delta : ℝ} (htimers : ∀ g, Obeys (keeping (Upright v)) (guests.onTimer g))
    (hframes : ∀ g, Obeys (keeping (Upright v)) (guests.onFrame g delta)) :
    Obeys (keeping (Upright v)) (step guests delta) := by
  refine obeys_step (fun _ _ _ hs => hs.elsewhere rfl) ?_ (fun _ _ _ _ _ _ hs => hs.elsewhere rfl) htimers
    (fun serial => upright_onBrain serial (Brain.upright_frame _ delta)) hframes
  intro s t scheduler serial number _ _ hs
  exact upright_onBrain serial ((Wave.obeys_stop _).imp fun _ _ ht h => h.wave ht) { s with scheduler }
    (hs.elsewhere rfl)

variable [DecidableEq γ]

/-- **A start leaves the avatar as upright as it is**, and the fresh brain faces the same way. -/
theorem upright_start (config : BotConfig ℝ) :
    Obeys (keeping (Upright v)) (start config : Act (Fault ℝ) (BotStage ℝ γ) Bool) := by
  refine obeys_start (fun _ _ hs => hs.elsewhere rfl) (fun _ _ _ hs => hs.elsewhere rfl) ?_
  intro s appearance journal hs
  refine ⟨fun brain hb => ?_, hs.body, hs.view⟩
  obtain hold | hnew := List.mem_append.1 hb
  · exact hs.brains brain hold
  · obtain rfl := List.mem_singleton.1 hnew
    exact ⟨hs.body, Quat.upright_identity⟩

theorem upright_stop : Obeys (keeping (Upright v)) (stop : Act (Fault ℝ) (BotStage ℝ γ) Unit) :=
  obeys_stop (fun _ _ hs => hs.elsewhere rfl) (fun serial => upright_onBrain serial Brain.upright_close)
    fun _ _ hs => hs.elsewhere rfl

/-- **A rotation that the bot shows or has in mind**; the view shows one once it has been moved. -/
inductive Faces (v : Viewer ℝ) (s : BotStage ℝ γ) : Quat ℝ → Prop
  | body : Faces v s s.avatar.orientation
  | view : s.viewer ≠ v → Faces v s s.viewer.orientation
  | current (brain : Brain ℝ) : brain ∈ s.cast.brains → Faces v s brain.state.orientation
  | target (brain : Brain ℝ) : brain ∈ s.cast.brains → Faces v s brain.state.targetOrientation

omit [DecidableEq γ] in
theorem Upright.faces {s : BotStage ℝ γ} (h : Upright v s) {q : Quat ℝ} (hq : Faces v s q) : q.Upright := by
  cases hq with
  | body => exact h.body
  | view hmoved => exact h.view.resolve_left hmoved
  | current brain hb => exact (h.brains brain hb).current
  | target brain hb => exact (h.brains brain hb).target

variable {s t : BotStage ℝ γ}

/-- **The bot stays upright** whatever it lives through, if nobody else turns it: every rotation that it shows or has in
mind is a turn about the vertical axis of length one and looks ahead.  No turn and no mixture of such rotations divides
by zero, neither on the arc nor where it is brought to length one. -/
theorem stays_upright (hbrains : s.cast.brains = []) (hbody : s.avatar.orientation = .identity)
    (h : Course (leaving facings) s t) :
    (∀ q, Faces s.viewer t q → q.Upright ∧ q.front.length = 1 ∧ q.front.y = 0) ∧
      (∀ degrees, ∃ q, Quat.angleAxisBy Scalar.divide degrees (.up : Vec3 ℝ) = .ok q ∧
        Quat.angleAxis degrees .up = .ok q) ∧
      ∀ a b, Faces s.viewer t a → Faces s.viewer t b → ∀ fraction,
        ∃ q, Quat.mixBy Quat.divide a b fraction = .ok q ∧ a.mix b fraction = .ok q := by
  have hs : Upright s.viewer s := by
    refine ⟨fun brain hb => ?_, ?_, .inl rfl⟩
    · rw [hbrains] at hb
      cases hb
    · rw [hbody]
      exact Quat.upright_identity
  have ht : Upright s.viewer t :=
    h.obeys (R := keeping (Upright s.viewer)) (fun _ _ hleft hs => hs.elsewhere hleft) upright_start
      (fun serial delta => upright_onBrain serial (Brain.upright_frame _ delta))
      (fun _ _ htimers hframes => upright_step htimers hframes) upright_stop hs
  refine ⟨fun q hq => ⟨ht.faces hq, (ht.faces hq).front⟩, fun degrees => ?_, fun a b ha hb fraction => ?_⟩
  · obtain ⟨q, -, hturn⟩ := Quat.upright_angleAxis degrees
    refine ⟨q, hturn Quat.exact_scalar_divide, ?_⟩
    rw [← Quat.angleAxisBy_plain]
    exact hturn fun _ _ _ => rfl
  · obtain ⟨q, -, hmix⟩ := (ht.faces ha).mix (ht.faces hb) fraction
    refine ⟨q, hmix Quat.exact_divide, ?_⟩
    rw [← Quat.mixBy_plain]
    exact hmix fun _ _ _ => rfl

/-- A turn by a quarter of the range to one side is none that leaves the bot as it is. -/
theorem ofYaw_quarter_ne : Quat.ofYaw (Scalar.between (-70.0) 70.0 0.75) ≠ .identity := by
  intro h
  have hangle : Quat.halfAngle (Scalar.between (-70.0) 70.0 (0.75 : ℝ)) = Real.pi * (35 / 360) := by
    change (-70.0 + (70.0 - -70.0) * (0.75 : ℝ)) * (Real.pi / 180) / 2.0 = _
    norm_num
    ring
  have hsine : Real.sin (Real.pi * (35 / 360)) = 0.0 := by
    rw [← hangle]
    exact congrArg Quat.y h
  have hpositive : 0 < Real.sin (Real.pi * (35 / 360)) := by
    refine Real.sin_pos_of_pos_of_lt_pi (by positivity) ?_
    linarith [Real.pi_pos]
  rw [hsine, Scalar.zero_literal] at hpositive
  exact lt_irrefl 0 hpositive

/-- **Two sessions of a bot that walks whenever it can**, of two frames each; it sets out with a turn. -/
theorem stays_upright_restart :
    let s : BotStage ℝ Empty := waiting (.scripted [] 0.75)
    let first := ((start walker).run s).2
    let walking := ((step .absent 0.1).run first).2
    let again := ((start walker).run (stop.run ((step .absent 0.1).run walking).2).2).2
    let t := ((step .absent 0.1).run ((step .absent 0.1).run again).2).2
    (∃ brain, walking.cast.brains = [brain] ∧ brain.state.walk = .walking ∧
      brain.state.targetOrientation.Upright ∧ brain.state.targetOrientation ≠ walking.avatar.orientation ∧
      ∃ q, walking.avatar.orientation.mix brain.state.targetOrientation 0.15 = .ok q) ∧
    t.avatar.orientation.Upright ∧ ∀ brain ∈ t.cast.brains, brain.state.orientation.Upright := by
  intro s first walking again t
  have hfair : s.cast.source.Fair := Source.fair_scripted fun r hr => by
    rw [List.mem_singleton.1 hr]
    norm_num
  have hfirst : (start walker).run s = (.ok false, first) := rfl
  obtain ⟨brain, hrow, hphase, hbody, r, hgives, htarget⟩ :=
    walker_walks hfair hfirst (show ¬ (0.1 : ℝ) < 0.0 by norm_num)
  have hturned : brain.state.targetOrientation ≠ walking.avatar.orientation := by
    have hfacing : first.avatar.orientation = 1 := rfl
    rw [Source.gives_scripted_nil hgives, hfacing, one_mul] at htarget
    rw [htarget]
    exact fun heq => ofYaw_quarter_ne (heq.trans (hbody.trans hfacing))
  have hmember : brain ∈ walking.cast.brains := by
    change brain ∈ ((step .absent 0.1).run first).2.cast.brains
    rw [hrow]
    exact List.mem_singleton_self brain
  have hwalking : Course (leaving facings) s walking := .trans (.start walker s) (.frame_absent 0.1 _)
  have hcourse : Course (leaving facings) s t :=
    .trans hwalking (.trans (.frame_absent 0.1 _) (.trans (.stop _) (.trans (.start walker _)
      (.trans (.frame_absent 0.1 _) (.frame_absent 0.1 _)))))
  obtain ⟨hfaces, -, hmixtures⟩ := stays_upright rfl rfl hwalking
  obtain ⟨q, -, hmix⟩ := hmixtures _ _ .body (.target brain hmember) 0.15
  obtain ⟨hfaces', -⟩ := stays_upright rfl rfl hcourse
  exact ⟨⟨brain, hrow, hphase, (hfaces _ (.target brain hmember)).1, hturned, q, hmix⟩, (hfaces' _ .body).1,
    fun brain hb => (hfaces' _ (.current brain hb)).1⟩

end Bot
end Bystander
