import Bystander.Proofs.Limbs
import Bystander.Proofs.Silence
/-! # What sessions leave behind

A stop closes the brain and releases no joint, and from then on the end of a wave that is still pending does nothing.
So a new session finds the joints of a wave or a walk in whose middle an earlier one was stopped.  They stay held until
a wave or a walk ends in a later session.
-/
namespace Bystander

open Act (Obeys run_bind run_get_bind)

variable {α κ τ γ : Type}

/-! ## The latest member of a row that counts -/

/-- **Something is left of a row**: one member has left it, and all after that have passed it on. -/
def Left {β : Type} (leaves passes : β → Prop) (row : List β) : Prop :=
  ∃ before b after, row = before ++ b :: after ∧ leaves b ∧ ∀ other ∈ after, passes other

theorem left_concat {β : Type} {leaves passes : β → Prop} {row : List β} {b : β} :
    Left leaves passes (row ++ [b]) ↔ leaves b ∨ passes b ∧ Left leaves passes row := by
  constructor
  · rintro ⟨before, c, after, hrow, hc, hafter⟩
    obtain rfl | ⟨front, last, rfl⟩ := after.eq_nil_or_concat
    · obtain ⟨-, hlast⟩ := List.append_inj' hrow rfl
      cases hlast
      exact .inl hc
    · rw [List.concat_eq_append, ← List.cons_append, ← List.append_assoc] at hrow
      obtain ⟨rfl, hlast⟩ := List.append_inj' hrow rfl
      cases hlast
      simp only [List.concat_eq_append, List.mem_append, List.mem_singleton] at hafter
      exact .inr ⟨hafter _ (.inr rfl), before, c, front, rfl, hc, fun other h => hafter other (.inl h)⟩
  · rintro (hb | ⟨hb, before, c, after, rfl, hc, hafter⟩)
    · exact ⟨row, b, [], rfl, hb, nofun⟩
    · refine ⟨before, c, after ++ [b], by simp, hc, fun other hother => ?_⟩
      obtain hother | hother := List.mem_append.1 hother
      · exact hafter other hother
      · rwa [List.mem_singleton.1 hother]

/-- The brain was stopped in the middle of a wave, or it still waves. -/
def Brain.Waves (brain : Brain α) : Prop := brain.state.wave = .waving

/-- The brain has never begun a wave. -/
def Brain.NeverWaved (brain : Brain α) : Prop := brain.state.waveCount = 0

def Brain.Walks (brain : Brain α) : Prop := brain.state.walk = .walking

def Brain.NeverWalked (brain : Brain α) : Prop := brain.walks = 0

/-! ## Behaviours hold what they account for -/

/-- **What holds the joints of a scene**: only the five joints of the behaviours are held, those of the arm by a wave
or, if there was none, by what was there before, and those of the legs by a walk or, if there was none, likewise. -/
structure Scene.Held (arms legs : Prop) (s : Scene α κ τ) : Prop where
  only : ∀ j, s.avatar.joints.get? j ≠ none → ∃ joint : Joint, joint.index = j
  arm : ∀ joint ∈ Wave.joints, s.avatar.joints.get? joint.index ≠ none → s.brain.Waves ∨ s.brain.NeverWaved ∧ arms
  leg : ∀ joint ∈ Walk.legs, s.avatar.joints.get? joint.index ≠ none → s.brain.Walks ∨ s.brain.NeverWalked ∧ legs

namespace Scene.Held

variable {arms legs : Prop} {s t : Scene α κ τ}

theorem get?_clear {js : List Joint} {a : Avatar α} {k : Int} (h : (a.clearJoints js).joints.get? k ≠ none) :
    k ∉ js.map Joint.index ∧ a.joints.get? k ≠ none := by
  rw [Avatar.get?_clearJoints] at h
  split at h
  · exact absurd rfl h
  · next hk => exact ⟨hk, h⟩

/-- A joint that was not set is as it was. -/
theorem get?_set {js : List Joint} {q : Quat α} {a : Avatar α} {k : Int}
    (h : (a.setJoints js q).joints.get? k ≠ none) : k ∈ js.map Joint.index ∨ a.joints.get? k ≠ none := by
  rw [Avatar.get?_setJoints] at h
  split at h
  · next hk => exact .inl hk
  · exact .inr h

theorem setArm (h : s.Held arms legs) (hwave : s.brain.Waves) {joint : Joint} (hj : joint ∈ Wave.joints) (q : Quat α) :
    Scene.Held arms legs { s with avatar := s.avatar.setJoints [joint] q } where
  only k hk := (get?_set hk).elim (fun hset => ⟨joint, (List.mem_singleton.1 hset).symm⟩) (h.only k)
  arm _ _ _ := .inl hwave
  leg leg hleg hk := by
    refine (get?_set hk).elim (fun hset => ?_) (h.leg leg hleg)
    -- no leg is one of the arm's joints
    have hsame : leg.index = joint.index := List.mem_singleton.1 hset
    cases joint <;> cases leg <;> simp_all [Wave.joints, Walk.legs, Joint.index]

theorem setLegs (h : s.Held arms legs) (hwalk : s.brain.Walks) (q : Quat α) :
    Scene.Held arms legs { s with avatar := s.avatar.setJoints Walk.legs q } where
  only k hk := by
    refine (get?_set hk).elim (fun hset => ?_) (h.only k)
    obtain ⟨joint, -, rfl⟩ := List.mem_map.1 hset
    exact ⟨joint, rfl⟩
  arm joint hj hk := by
    refine (get?_set hk).elim (fun hset => ?_) (h.arm joint hj)
    cases joint <;> simp_all [Wave.joints, Walk.legs, Joint.index]
  leg _ _ _ := .inl hwalk

theorem clearArm (h : s.Held arms legs) (journal : Journal α) :
    Scene.Held arms legs { s with
      journal
      avatar := s.avatar.clearJoints Wave.joints
      brain := { s.brain with state := { s.brain.state with wave := .idle, episode := none } } } where
  only k hk := h.only k (get?_clear hk).2
  arm _ hj hk := absurd (List.mem_map_of_mem hj) (get?_clear hk).1
  leg leg hleg hk := h.leg leg hleg (get?_clear hk).2

theorem clearLegs (h : s.Held arms legs) (journal : Journal α) :
    Scene.Held arms legs { s with
      journal
      avatar := s.avatar.clearJoints Walk.legs
      brain := { s.brain with state := { s.brain.state with walk := .idle } } } where
  only k hk := h.only k (get?_clear hk).2
  arm joint hj hk := h.arm joint hj (get?_clear hk).2
  leg _ hleg hk := absurd (List.mem_map_of_mem hleg) (get?_clear hk).1

end Scene.Held

variable [Scalar α] {arms legs : Prop}

namespace Wave

theorem holds_start (ending : Nat → τ) :
    Obeys (keeping (Scene.Held arms legs)) (start ending : Play α κ τ (Episode α)) := by
  intro s h
  have hbegun : (begun s).Held arms legs := ⟨h.only, fun _ _ _ => .inl rfl, h.leg⟩
  rw [run_start]
  cases s.scheduler.setTimeout (ending (s.brain.arm.count + 1)) (s.brain.arm.nextDuration s.source) with
  | error fault => exact hbegun
  | ok scheduler =>
    have hpalm : Joint.elbow ∈ joints := by decide
    obtain ⟨honly, harm, hleg⟩ := hbegun.setArm rfl hpalm (.ofPitchYawRoll 0.0 s.brain.settings.wave.palmOutYaw 0.0)
    exact ⟨honly, harm, hleg⟩

omit [Scalar α] in
theorem holds_stop (number : Option Int) :
    Obeys (keeping (Scene.Held arms legs)) (stop number : Play α κ τ Unit) := by
  intro s h
  obtain ⟨-, hr⟩ | ⟨-, ⟨-, n, -, hr⟩ | ⟨-, hr⟩⟩ := stop_cases number s
  · rw [hr]
    exact h
  · rw [hr]
    exact ⟨h.only, h.arm, h.leg⟩
  · rw [hr]
    exact h.clearArm _

theorem holds_frame (ending : Nat → τ) :
    Obeys (keeping (Scene.Held arms legs)) (frame ending : Play α κ τ Unit) := by
  intro s h
  rw [frame, run_get_bind]
  split
  · rw [run_bind, Scene.run_draw]
    dsimp only
    have hdrawn : Scene.Held arms legs { s with source := s.source.draw.2 } := ⟨h.only, h.arm, h.leg⟩
    split
    · exact ((holds_start ending).map _) _ hdrawn
    · exact hdrawn
  · exact h
  · next episode hwave hepisode =>
    -- the scene goes on to wave while the arm rolls, so each joint that is set is held by the wave
    have hroll : Obeys (keeping fun c : Scene α κ τ => c.brain.Waves ∧ c.Held arms legs) (roll episode) :=
      obeys_roll (fun _ hjoint q _ hc => ⟨hc.1, hc.2.setArm hc.1 hjoint q⟩) episode
    exact (hroll s ⟨hwave, h⟩).2

end Wave

namespace Walk

theorem holds_frame : Obeys (keeping (Scene.Held arms legs)) (frame : Play α κ τ Unit) := by
  intro s h
  rw [frame, run_get_bind]
  split
  · next hwalk =>
    have hswung : ∀ sine, (swung sine s).Held arms legs := fun sine => h.setLegs hwalk _
    have hmoved : ∀ sine orientation, (moved orientation (swung sine s)).Held arms legs := fun sine _ =>
      ⟨(hswung sine).only, (hswung sine).arm, (hswung sine).leg⟩
    obtain ⟨fault, hr⟩ | ⟨sine, ⟨fault, hr⟩ | ⟨orientation, -, hr | hr⟩⟩ := stride_cases s
    · rw [hr]
      exact h
    · rw [hr]
      exact hswung sine
    · rw [hr]
      exact hmoved sine orientation
    · rw [hr]
      exact (hmoved sine orientation).clearLegs _
  · rw [run_bind, Scene.run_draw]
    dsimp only
    rw [run_get_bind]
    have hdrawn : Scene.Held arms legs { s with source := s.source.draw.2 } := ⟨h.only, h.arm, h.leg⟩
    split
    · obtain ⟨fault, hr⟩ | ⟨turn, -, hr⟩ := pickTarget_cases ({ s with source := s.source.draw.2 } : Scene α κ τ)
      · rw [hr]
        exact ⟨h.only, h.arm, h.leg⟩
      · rw [hr]
        exact ⟨h.only, h.arm, fun _ _ _ => .inl rfl⟩
    · exact hdrawn

end Walk

/-- **Every frame holds what it accounts for**, wherever it fails. -/
theorem Brain.holds_frame (ending : Nat → τ) (delta : α) :
    Obeys (keeping (Scene.Held arms legs)) (Brain.frame ending delta : Play α κ τ Unit) := by
  refine Brain.obeys_frame ending delta (fun s _ h => ?_) ?_ (Wave.holds_frame ending) ?_ ?_ Walk.holds_frame
  · have hjoints := Brain.joints_begin delta s
    exact ⟨hjoints ▸ h.only, hjoints ▸ h.arm, hjoints ▸ h.leg⟩
  · rintro s t ⟨_, _, _, -, rfl⟩ h
    exact ⟨h.only, h.arm, h.leg⟩
  · rintro s t ⟨_, _, _, _, -, rfl⟩ h
    exact ⟨h.only, h.arm, h.leg⟩
  · rintro s t ⟨_, _, _, _, _, -, rfl⟩ h
    exact ⟨h.only, h.arm, h.leg⟩

/-! ## A row of sessions -/

namespace Bot

/-- **What holds the joints of a stage**: the brains before the last one are closed, and only the five joints of the
behaviours are held, those of the arm by what a wave has left and those of the legs by what a walk has left. -/
structure Held (s : BotStage α γ) : Prop where
  earlier : ∀ brain ∈ s.cast.brains.dropLast, brain.closed = true
  only : ∀ j, s.avatar.joints.get? j ≠ none → ∃ joint : Joint, joint.index = j
  arm : ∀ joint ∈ Wave.joints, s.avatar.joints.get? joint.index ≠ none →
    Left Brain.Waves Brain.NeverWaved s.cast.brains
  leg : ∀ joint ∈ Walk.legs, s.avatar.joints.get? joint.index ≠ none →
    Left Brain.Walks Brain.NeverWalked s.cast.brains

omit [Scalar α] in
theorem Held.elsewhere {s t : BotStage α γ} (h : Held s) (hbrains : t.cast.brains = s.cast.brains)
    (hjoints : t.avatar.joints = s.avatar.joints) : Held t := by
  refine ⟨?_, ?_, ?_, ?_⟩
  · rw [hbrains]
    exact h.earlier
  · rw [hjoints]
    exact h.only
  · rw [hbrains, hjoints]
    exact h.arm
  · rw [hbrains, hjoints]
    exact h.leg

omit [Scalar α] in
/-- An open brain is the last one. -/
theorem Held.eq_concat {s : BotStage α γ} (h : Held s) {serial : Nat} {brain : Brain α}
    (hb : s.cast.brains[serial]? = some brain) (hopen : brain.closed = false) :
    ∃ front, s.cast.brains = front ++ [brain] ∧ serial = front.length := by
  have hne : s.cast.brains ≠ [] := List.ne_nil_of_mem (List.mem_of_getElem? hb)
  obtain ⟨front, last, hrow⟩ : ∃ front last, s.cast.brains = front ++ [last] :=
    ⟨_, _, (List.dropLast_concat_getLast hne).symm⟩
  have hearlier := h.earlier
  rw [hrow, List.dropLast_concat] at hearlier
  rw [hrow] at hb
  obtain hlt | hge := Nat.lt_or_ge serial front.length
  · rw [List.getElem?_append_left hlt] at hb
    cases hopen.symm.trans (hearlier brain (List.mem_of_getElem? hb))
  · rw [List.getElem?_append_right hge, List.getElem?_singleton] at hb
    split at hb
    · cases hb
      exact ⟨front, hrow, by omega⟩
    · cases hb

omit [Scalar α] in
/-- **A brain that acts holds the joints it accounts for**; a closed one does not act. -/
theorem holds_onBrain {β : Type} {play : Play α (Callback γ) (Alarm γ) β} (serial : Nat)
    (hplay : ∀ arms legs : Prop, Obeys (keeping (Scene.Held arms legs)) play)
    (hclosed : ∀ c : Scene α (Callback γ) (Alarm γ), c.brain.closed = true → (play.run c).2 = c) :
    Obeys (keeping Held) (onBrain serial play) := by
  refine obeys_onBrain fun s brain hb hs => ?_
  cases hopen : brain.closed with
  | true =>
    rw [hclosed (scene s brain) hopen, withScene_scene hb]
    exact hs
  | false =>
    obtain ⟨front, hrow, hserial⟩ := hs.eq_concat hb hopen
    have hscene : (scene s brain).Held (Left Brain.Waves Brain.NeverWaved front)
        (Left Brain.Walks Brain.NeverWalked front) :=
      ⟨hs.only, fun joint hj hk => left_concat.1 (hrow ▸ hs.arm joint hj hk),
        fun joint hj hk => left_concat.1 (hrow ▸ hs.leg joint hj hk)⟩
    have hafter := hplay _ _ (scene s brain) hscene
    generalize (play.run (scene s brain)).2 = c at hafter
    have hrow' : (withScene serial s c).cast.brains = front ++ [c.brain] := by
      change s.cast.brains.set serial c.brain = _
      rw [hrow, hserial, List.set_append_right _ _ (Nat.le_refl _), Nat.sub_self]
      rfl
    refine ⟨?_, hafter.only, fun joint hj hk => ?_, fun joint hj hk => ?_⟩
    · have hearlier := hs.earlier
      rw [hrow, List.dropLast_concat] at hearlier
      rwa [hrow', List.dropLast_concat]
    · rw [hrow']
      exact left_concat.2 (hafter.arm joint hj hk)
    · rw [hrow']
      exact left_concat.2 (hafter.leg joint hj hk)

omit [Scalar α] in
theorem Held.closed {s : BotStage α γ} (h : Held s) (hidle : isRunning s = false) :
    ∀ brain ∈ s.cast.brains, brain.closed = true := by
  intro brain hbrain
  obtain ⟨serial, hb⟩ := List.mem_iff_getElem?.1 hbrain
  cases hopen : brain.closed with
  | true => rfl
  | false =>
    obtain ⟨front, hrow, -⟩ := h.eq_concat hb hopen
    have hrunning : isRunning s = true := by
      unfold isRunning brain?
      rw [hrow, List.getLast?_concat]
      simp [hopen]
    cases hrunning.symm.trans hidle

theorem holds_step {guests : Guests α γ} {delta : α} (htimers : ∀ g, Obeys (keeping Held) (guests.onTimer g))
    (hframes : ∀ g, Obeys (keeping Held) (guests.onFrame g delta)) : Obeys (keeping Held) (step guests delta) := by
  refine obeys_step (fun _ _ _ hs => hs.elsewhere rfl rfl) ?_ (fun _ _ _ _ _ _ hs => hs.elsewhere rfl rfl) htimers ?_
    hframes
  · intro s t scheduler serial number _ _ hs
    exact holds_onBrain serial (fun _ _ => Wave.holds_stop _)
      (fun _ hc => congrArg Prod.snd (Wave.run_stop_closed _ hc)) { s with scheduler } (hs.elsewhere rfl rfl)
  · intro serial
    exact holds_onBrain serial (fun _ _ => Brain.holds_frame _ delta) fun _ hc =>
      congrArg Prod.snd (Brain.run_frame_closed _ delta hc)

section Sessions

variable [DecidableEq γ]

/-- A bot that enters finds the joints as they were; its brain has left nothing yet. -/
theorem Held.entered {s : BotStage α γ} (h : Held s) (hclosed : ∀ brain ∈ s.cast.brains, brain.closed = true)
    (config : BotConfig α) (appearance : Appearance) (journal : Journal α) :
    Held (entered config appearance journal s) where
  earlier brain hbrain := hclosed brain (by rwa [Bot.entered, List.dropLast_concat] at hbrain)
  only := h.only
  arm joint hj hk := left_concat.2 (.inr ⟨rfl, h.arm joint hj hk⟩)
  leg joint hj hk := left_concat.2 (.inr ⟨rfl, h.leg joint hj hk⟩)

theorem holds_start (config : BotConfig α) :
    Obeys (keeping Held) (start config : Act (Fault α) (BotStage α γ) Bool) := by
  intro s hs
  cases hrunning : isRunning s with
  | true =>
    rw [run_start_running config hrunning]
    exact hs.elsewhere rfl rfl
  | false =>
    obtain ⟨source, -, ⟨fault, hr⟩ | ⟨appearance, journal, hr⟩⟩ := run_start config hrunning
    · rw [hr]
      exact hs.elsewhere rfl rfl
    · rw [hr]
      have hdrawn : Held { s with cast := { s.cast with source } } := hs.elsewhere rfl rfl
      exact hdrawn.entered (hs.closed hrunning) config appearance journal

omit [Scalar α] in
theorem holds_stop : Obeys (keeping Held) (stop : Act (Fault α) (BotStage α γ) Unit) := by
  refine obeys_stop (fun _ _ hs => hs.elsewhere rfl rfl) (fun serial => ?_) fun _ _ hs => hs.elsewhere rfl rfl
  exact holds_onBrain serial (fun _ _ => Brain.obeys_close fun _ _ _ h => ⟨h.only, h.arm, h.leg⟩) fun _ hc =>
    congrArg Prod.snd (run_close_closed hc)

/-- **Whatever happens, the joints are held by what sessions leave.** -/
theorem Course.held {Aside : BotStage α γ → BotStage α γ → Prop} {s t : BotStage α γ} (h : Course Aside s t)
    (haside : ∀ s t, Aside s t → t.cast.brains = s.cast.brains ∧ t.avatar.joints = s.avatar.joints) :
    Held s → Held t := by
  refine h.obeys (R := keeping Held) (fun s t hst hs => ?_) holds_start (fun serial delta => ?_)
    (fun _ _ htimers hframes => holds_step htimers hframes) holds_stop
  · exact hs.elsewhere (haside s t hst).1 (haside s t hst).2
  · exact holds_onBrain serial (fun _ _ => Brain.holds_frame _ delta) fun _ hc =>
      congrArg Prod.snd (Brain.run_frame_closed _ delta hc)

/-! ### Between two sessions -/

/-- **What leaves the joints alone where no bot runs**: no brain goes away, and where all are closed and none comes, all
stay closed and the joints stay as they are. -/
def Rests (s t : BotStage α γ) : Prop :=
  s.cast.brains.length ≤ t.cast.brains.length ∧
    ((∀ brain ∈ s.cast.brains, brain.closed = true) → t.cast.brains.length = s.cast.brains.length →
      (∀ brain ∈ t.cast.brains, brain.closed = true) ∧ t.avatar.joints = s.avatar.joints)

omit [Scalar α] [DecidableEq γ] in
theorem rests_of_eq {s t : BotStage α γ} (hbrains : t.cast.brains = s.cast.brains)
    (hjoints : t.avatar.joints = s.avatar.joints) : Rests s t :=
  ⟨Nat.le_of_eq (congrArg List.length hbrains.symm), fun hclosed _ => ⟨hbrains ▸ hclosed, hjoints⟩⟩

omit [Scalar α] [DecidableEq γ] in
instance : Steady (Rests (α := α) (γ := γ)) where
  refl _ := rests_of_eq rfl rfl
  trans := by
    rintro s t u ⟨hst, hclosed⟩ ⟨htu, hclosed'⟩
    refine ⟨Nat.le_trans hst htu, fun hs hlength => ?_⟩
    have hlength' : t.cast.brains.length = s.cast.brains.length := by omega
    obtain ⟨ht, hjoints⟩ := hclosed hs hlength'
    obtain ⟨hu, hjoints'⟩ := hclosed' ht (by omega)
    exact ⟨hu, hjoints'.trans hjoints⟩

omit [Scalar α] [DecidableEq γ] in
theorem rests_onBrain {β : Type} {play : Play α (Callback γ) (Alarm γ) β} (serial : Nat)
    (hclosed : ∀ c : Scene α (Callback γ) (Alarm γ), c.brain.closed = true → (play.run c).2 = c) :
    Obeys Rests (onBrain serial play) := by
  refine obeys_onBrain fun s brain hb => ⟨Nat.le_of_eq List.length_set.symm, fun hs _ => ?_⟩
  rw [hclosed (scene s brain) (hs brain (List.mem_of_getElem? hb)), withScene_scene hb]
  exact ⟨hs, rfl⟩

/-- **Whatever happens, the joints rest** from one session to the next. -/
theorem Course.rests {Aside : BotStage α γ → BotStage α γ → Prop} {s t : BotStage α γ} (h : Course Aside s t)
    (haside : ∀ s t, Aside s t → t.cast.brains = s.cast.brains ∧ t.avatar.joints = s.avatar.joints) : Rests s t := by
  have hframe (serial : Nat) (delta : α) :
      Obeys Rests (onBrain serial (Brain.frame (.waveEnd serial) delta) : Act (Fault α) (BotStage α γ) Unit) :=
    rests_onBrain serial fun _ hc => congrArg Prod.snd (Brain.run_frame_closed _ delta hc)
  refine h.obeys (fun s t hst => rests_of_eq (haside s t hst).1 (haside s t hst).2) (fun config => ?_) hframe
    (fun guests delta htimers hframes => ?_) ?_
  · refine obeys_start (fun _ _ => rests_of_eq rfl rfl) (fun _ _ _ => rests_of_eq rfl rfl) ?_
    intro s appearance journal
    have hmore : (entered config appearance journal s).cast.brains.length = s.cast.brains.length + 1 :=
      List.length_append
    exact ⟨by omega, fun _ hsame => by omega⟩
  · refine obeys_step (fun _ _ _ => rests_of_eq rfl rfl) (fun s t scheduler serial number _ _ => ?_)
      (fun _ _ _ _ _ _ => rests_of_eq rfl rfl) htimers (hframe · delta) hframes
    exact rests_onBrain serial (fun _ hc => congrArg Prod.snd (Wave.run_stop_closed _ hc)) { s with scheduler }
  · exact obeys_stop (fun _ _ => rests_of_eq rfl rfl)
      (fun serial => rests_onBrain serial fun _ hc => congrArg Prod.snd (run_close_closed hc))
      fun _ _ => rests_of_eq rfl rfl

omit [Scalar α] in
/-- **A stop leaves the joints as they are.** -/
theorem joints_stop (s : BotStage α γ) : (stop.run s).2.avatar.joints = s.avatar.joints := by
  refine obeys_stop (R := leaving (·.avatar.joints)) (fun _ _ => rfl) (fun serial => ?_) (fun _ _ => rfl) s
  refine obeys_onBrain fun s brain _ => ?_
  exact Brain.obeys_close (R := leaving (·.avatar.joints)) (fun _ _ _ => rfl) (scene s brain)

/-- **What a new session finds** on a host that was fresh before the first one: earlier brains are closed, its own is at
rest, and besides the five joints of the behaviours none is held.  The arm is only held if the latest earlier session
that began a wave was stopped in the middle of one, and the legs only if the latest one that began a walk was stopped in
the middle of one.  Stops and starts leave the joints as they are, and so does all that happens between a stop and the
start of the next session. -/
theorem held_after_start {Aside : BotStage α γ → BotStage α γ → Prop} {s t u : BotStage α γ} {config : BotConfig α}
    (haside : ∀ s t, Aside s t → t.cast.brains = s.cast.brains ∧ t.avatar.joints = s.avatar.joints)
    (hbrains : s.cast.brains = []) (hjoints : s.avatar.joints = []) (h : Course Aside s t)
    (hstart : (start config).run t = (.ok false, u)) :
    (∃ brain, u.cast.brains = t.cast.brains ++ [brain] ∧ brain.state.wave = .idle ∧ brain.state.walk = .idle) ∧
    (∀ brain ∈ t.cast.brains, brain.closed = true) ∧
    (∀ j, u.avatar.joints.get? j ≠ none → ∃ joint : Joint, joint.index = j) ∧
    (∀ joint ∈ Wave.joints, u.avatar.joints.get? joint.index ≠ none →
      ∃ before brain after, t.cast.brains = before ++ brain :: after ∧ brain.state.wave = .waving ∧
        ∀ later ∈ after, later.state.waveCount = 0) ∧
    (∀ joint ∈ Walk.legs, u.avatar.joints.get? joint.index ≠ none →
      ∃ before brain after, t.cast.brains = before ++ brain :: after ∧ brain.state.walk = .walking ∧
        ∀ later ∈ after, later.walks = 0) ∧
    u.avatar.joints = t.avatar.joints ∧
    (∀ v : BotStage α γ, (stop.run v).2.avatar.joints = v.avatar.joints) ∧
    ∀ v, Course Aside s v → Course Aside (stop.run v).2 t → t.cast.brains.length = v.cast.brains.length →
      u.avatar.joints = v.avatar.joints := by
  have hnone : ∀ j, s.avatar.joints.get? j = none := fun j => by rw [hjoints]; rfl
  have hs : Held s :=
    ⟨by simp [hbrains], fun j hj => absurd (hnone j) hj, fun joint _ hk => absurd (hnone joint.index) hk,
      fun joint _ hk => absurd (hnone joint.index) hk⟩
  have ht : Held t := h.held haside hs
  cases hrunning : isRunning t with
  | true =>
    rw [run_start_running config hrunning] at hstart
    cases hstart
  | false =>
    obtain ⟨source, -, ⟨fault, hr⟩ | ⟨appearance, journal, hr⟩⟩ := run_start config hrunning
    · cases hr.symm.trans hstart
    · obtain ⟨-, rfl⟩ := Prod.mk.inj (hr.symm.trans hstart)
      refine ⟨⟨_, rfl, rfl, rfl⟩, ht.closed hrunning, ht.only, ht.arm, ht.leg, rfl, joints_stop, ?_⟩
      intro v hsv hvt hlength
      obtain ⟨stopped, hstop, hidle⟩ := stop_answers v
      have hheld : Held (stop.run v).2 := holds_stop v (hsv.held haside hs)
      have hstopped : isRunning (stop.run v).2 = false := by rw [hstop, hidle]
      have hbefore : (stop.run v).2.cast.brains.length = v.cast.brains.length := by
        obtain ⟨hmore, -⟩ := hvt.rests haside
        have hstops : Course Aside v (stop.run v).2 := .stop v
        obtain ⟨hmore', -⟩ := hstops.rests haside
        omega
      exact (((hvt.rests haside).2 (hheld.closed hstopped) (hlength.trans hbefore.symm)).2).trans (joints_stop v)

end Sessions

/-- A bot that always waves when it can. -/
def waver : BotConfig Float :=
  let settings : Settings Float := { Settings.standard with wave := { WaveSettings.standard with chance := 1.0 } }
  { BotConfig.standard with assets := ⟨"assets", some 7⟩, settings }

/-- The stage after a session that was stopped half a second after its start. -/
def interrupted : BotStage Float Empty :=
  (stop.run ((step .absent 0.5).run ((start waver).run (waiting (.scripted [] 0.5))).2).2).2

/-- **A session that is stopped in the middle of a wave leaves the elbow turned**: the next one finds it so. -/
theorem elbow_after_start :
    let u := ((start waver).run interrupted).2
    isRunning interrupted = false ∧ isRunning u = true ∧
      (brain? u).map (fun brain => (brain.state.wave, brain.state.walk)) = some (.idle, .idle) ∧
      (u.avatar.joints.get? Joint.elbow.index).isSome = true := by
  decide +kernel

/-- Half a second after the start of the first session. -/
def midway : BotStage Float Empty := ((step .absent 0.5).run ((start waver).run (waiting (.scripted [] 0.5))).2).2

/-- What has turned the elbow is the wave of the first session, and the next one finds the joints as that wave had them
when it was stopped. -/
theorem held_after_start_interrupted :
    (∃ before brain after, interrupted.cast.brains = before ++ brain :: after ∧ brain.state.wave = .waving ∧
      ∀ later ∈ after, later.state.waveCount = 0) ∧
    ((start waver).run interrupted).2.avatar.joints = interrupted.avatar.joints ∧
    ((start waver).run interrupted).2.avatar.joints = midway.avatar.joints := by
  let first : BotStage Float Empty := waiting (.scripted [] 0.5)
  have hmidway : Course (fun s t : BotStage Float Empty => s = t) first midway :=
    .trans (.start waver first) (.frame_absent 0.5 _)
  have hcourse : Course (fun s t : BotStage Float Empty => s = t) first interrupted := .trans hmidway (.stop midway)
  have haside : ∀ s t : BotStage Float Empty, s = t → t.cast.brains = s.cast.brains ∧ t.avatar.joints = s.avatar.joints
    | _, _, rfl => ⟨rfl, rfl⟩
  have hlength : interrupted.cast.brains.length = midway.cast.brains.length := by decide +kernel
  have hanswer : ((start waver).run interrupted).1.toOption = some false := by decide +kernel
  have helbow : (((start waver).run interrupted).2.avatar.joints.get? Joint.elbow.index).isSome = true := by
    decide +kernel
  rcases hr : (start waver).run interrupted with ⟨fault | answer, u⟩
  · rw [hr] at hanswer
    cases hanswer
  · rw [hr] at hanswer helbow
    cases hanswer
    obtain ⟨-, -, -, harm, -, hstart, -, hstop⟩ := held_after_start haside rfl rfl hcourse hr
    exact ⟨harm .elbow (by decide) (Option.isSome_iff_ne_none.1 helbow), hstart,
      hstop midway hmidway (.refl _) hlength⟩

end Bot
end Bystander
