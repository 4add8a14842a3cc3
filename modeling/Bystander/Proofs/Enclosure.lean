import Bystander.Config.Validate
import Bystander.Proofs.Completion
import Bystander.Proofs.Course
import Bystander.Proofs.Doubles
import Bystander.Proofs.WrittenBack
/-! # Boxes that enclose what is moved into them

The check of a configuration rejects a box whose lower end is not below the upper one, but it asks whether the upper end
is at most the lower one, and of an undefined end nothing is true.  So the accepted boxes are those with an inside and
those with an undefined end.  The first kind encloses every point that is moved into it, undefined and infinite
coordinates included, and with it every target of a walk; the second kind encloses nothing.
-/
namespace Bystander

open Scalar (Defined)
open Act (Obeys run_bind run_get_bind)

variable {α κ τ : Type} [Scalar α]

/-! ## Boxes by comparisons -/

namespace Bounds

/-- On neither axis is the upper end at most the lower one; this is what the check of a configuration asks for. -/
structure Unreversed (b : Bounds α) : Prop where
  x : ¬ b.xMax ≤ b.xMin
  z : ¬ b.zMax ≤ b.zMin

/-- A box with an inside: on both axes the lower end lies below the upper one. -/
structure Wide (b : Bounds α) : Prop where
  x : b.xMin < b.xMax
  z : b.zMin < b.zMax

/-- No end of the box is undefined. -/
structure Definite (b : Bounds α) : Prop where
  x : Defined b.xMin ∧ Defined b.xMax
  z : Defined b.zMin ∧ Defined b.zMax

/-- **A point between the ends**, which count as inside, and at pelvis height. -/
structure Encloses (b : Bounds α) (p : Vec3 α) : Prop where
  x : b.xMin ≤ p.x ∧ p.x ≤ b.xMax
  y : p.y = b.yPelvis
  z : b.zMin ≤ p.z ∧ p.z ≤ b.zMax

end Bounds

namespace Timekeeping

variable [Timekeeping α] {a : α}

theorem le_self (ha : Defined a) : a ≤ a := by
  by_cases h : a < a
  · exact le_of_lt h
  · exact le_of_not_lt ha ha h

end Timekeeping

namespace Bounds

variable [Timekeeping α] [Strict α] {low high : α}

theorem defined_of_lt (h : low < high) : Defined low ∧ Defined high :=
  ⟨Strict.defined_of_lt h, Strict.defined_of_le (Timekeeping.le_of_lt h)⟩

/-- Ends that are not told to be reversed are in order, unless one of them is undefined. -/
theorem lt_iff_defined (h : ¬ high ≤ low) : low < high ↔ Defined low ∧ Defined high := by
  constructor
  · exact defined_of_lt
  · rintro ⟨hlow, hhigh⟩
    exact (Timekeeping.lt_iff_not_le hlow hhigh).2 h

/-- **Whatever is moved between two ends in order lies between them**, undefined numbers included. -/
theorem between_of_lt (h : low < high) (x : α) : low ≤ clampTo low high x ∧ clampTo low high x ≤ high := by
  obtain ⟨hlow, hhigh⟩ := defined_of_lt h
  unfold clampTo Scalar.greatest Scalar.least
  by_cases hx : x < high
  · rw [if_pos hx]
    by_cases hl : low < x
    · rw [if_pos hl]
      exact ⟨Timekeeping.le_of_lt hl, Timekeeping.le_of_lt hx⟩
    · rw [if_neg hl]
      exact ⟨Timekeeping.le_self hlow, Timekeeping.le_of_lt h⟩
  · -- an undefined number is not below the upper end, so it is moved there
    rw [if_neg hx, if_pos h]
    exact ⟨Timekeeping.le_of_lt h, Timekeeping.le_self hhigh⟩

omit [Timekeeping α] in
/-- Nothing is moved between two ends of which one is undefined. -/
theorem defined_of_between {x : α} (h : low ≤ clampTo low high x ∧ clampTo low high x ≤ high) :
    Defined low ∧ Defined high := by
  refine ⟨?_, Strict.defined_of_le h.2⟩
  have hx : Defined (clampTo low high x) := Strict.defined_of_le h.1
  unfold clampTo Scalar.greatest at hx
  split at hx
  · next hlow => exact Strict.defined_of_lt hlow
  · exact hx

variable {b : Bounds α}

theorem Wide.definite (h : b.Wide) : b.Definite := ⟨defined_of_lt h.x, defined_of_lt h.z⟩

/-- **A box with an inside encloses every point that is moved into it.** -/
theorem Wide.encloses_clamp (h : b.Wide) (p : Vec3 α) : b.Encloses (b.clamp p) where
  x := between_of_lt h.x p.x
  y := rfl
  z := between_of_lt h.z p.z

omit [Timekeeping α] in
theorem Encloses.definite {p : Vec3 α} (h : b.Encloses (b.clamp p)) : b.Definite :=
  ⟨defined_of_between h.x, defined_of_between h.z⟩

end Bounds

/-! ## Targets of walks -/

/-- **A brain that aims into its box**: if the box has an inside, the target of a walk under way lies there. -/
def Brain.AimsInside (brain : Brain α) : Prop :=
  brain.bounds.Wide → brain.state.walk = .walking → brain.bounds.Encloses brain.state.targetPosition

section Targets

variable [Timekeeping α] [Strict α]

/-- **A target is picked inside**, from whatever pose; without an answer, nothing but a draw has happened. -/
theorem Walk.pickTarget_inside (s : Scene α κ τ) (h : s.brain.bounds.Wide) :
    (∃ fault, Walk.pickTarget.run s = (.error fault, { s with source := s.source.draw.2 })) ∨
      ∃ t, Walk.pickTarget.run s = (.ok (), t) ∧ t.brain.bounds = s.brain.bounds ∧ t.brain.state.walk = .walking ∧
        s.brain.bounds.Encloses t.brain.state.targetPosition := by
  obtain ⟨fault, hr⟩ | ⟨turn, -, hr⟩ := Walk.pickTarget_cases s
  · exact .inl ⟨fault, hr⟩
  · exact .inr ⟨_, hr, rfl, rfl, h.encloses_clamp _⟩

theorem Walk.aimsInside_pickTarget :
    Obeys (keeping fun s => s.brain.AimsInside) (Walk.pickTarget : Play α κ τ Unit) := by
  intro s h
  obtain ⟨fault, hr⟩ | ⟨turn, -, hr⟩ := Walk.pickTarget_cases s
  · rw [hr]
    exact h
  · rw [hr]
    exact fun hwide _ => hwide.encloses_clamp _

omit [Timekeeping α] [Strict α] in
theorem Walk.aimsInside_stride : Obeys (keeping fun s => s.brain.AimsInside) (Walk.stride : Play α κ τ Unit) := by
  intro s h
  obtain ⟨fault, hr⟩ | ⟨sine, ⟨fault, hr⟩ | ⟨orientation, -, hr | hr⟩⟩ := Walk.stride_cases s
  · rw [hr]
    exact h
  · rw [hr]
    exact h
  · rw [hr]
    exact h
  · rw [hr]
    -- the bot has arrived and does not walk
    intro _ hwalk
    cases hwalk

theorem Walk.aimsInside_frame : Obeys (keeping fun s => s.brain.AimsInside) (Walk.frame : Play α κ τ Unit) := by
  intro s h
  rw [Walk.frame, run_get_bind]
  split
  · exact Walk.aimsInside_stride s h
  · rw [run_bind, Scene.run_draw]
    dsimp only
    rw [run_get_bind]
    split
    · exact Walk.aimsInside_pickTarget { s with source := s.source.draw.2 } h
    · exact h

/-- **Every frame of a brain aims inside.** -/
theorem Brain.aimsInside_frame (ending : Nat → τ) (delta : α) :
    Obeys (keeping fun s => s.brain.AimsInside) (Brain.frame ending delta : Play α κ τ Unit) :=
  Brain.obeys_frame ending delta (fun _ _ h => h)
    (by
      rintro s t ⟨_, _, _, -, rfl⟩ h
      exact h)
    ((Wave.obeys_frame ending).imp <| by
      rintro s t ⟨_, _, _, _, _, _, _, -, rfl⟩ h
      exact h)
    (by
      rintro s t ⟨_, _, _, _, -, rfl⟩ h
      exact h)
    (by
      rintro s t ⟨_, _, _, _, _, -, rfl⟩ h
      exact h)
    Walk.aimsInside_frame

namespace Bot

variable {γ : Type} [DecidableEq γ] {Aside : BotStage α γ → BotStage α γ → Prop} {s t : BotStage α γ}

/-- **All brains aim inside** after any course. -/
theorem Course.aimsInside (h : Course Aside s t) (haside : ∀ s t, Aside s t → t.cast.brains = s.cast.brains)
    (hs : ∀ brain ∈ s.cast.brains, brain.AimsInside) : ∀ brain ∈ t.cast.brains, brain.AimsInside := by
  refine h.forall_brains haside ?_ (fun _ delta => Brain.aimsInside_frame _ delta) ?_ ?_ hs
  · intro settings bounds clips spawn avatar _ hwalk
    cases hwalk
  · exact fun number => (Wave.obeys_stop number).imp <| by
      rintro s t ⟨_, _, _, _, _, _, _, -, rfl⟩ h
      exact h
  · exact Brain.obeys_close fun _ _ _ h => h

end Bot

end Targets

/-! ## Accepted boxes -/

theorem BotConfig.unreversed_of_ofData {d : Data} {config : BotConfig Float}
    (h : BotConfig.ofData d = .accepted config) : config.spawn.Unreversed := by
  cases d with
  | map e =>
    obtain ⟨-, hspawn, -⟩ := (BotConfig.ofEntries_eq_accepted_iff e config).1 h
    refine Data.of_fieldOr hspawn ?_ fun d b hb => ?_
    · constructor <;> decide
    · cases d with
      | map e =>
        obtain ⟨-, hx, hz⟩ := (Bounds.ofEntries_eq_accepted_iff e b).1 hb
        exact ⟨hx, hz⟩
      | _ => cases hb
  | _ => cases h

/-- **Accepted boxes**: the ends of an axis are in order, unless one of them is undefined.  If none is, the box encloses
every point that is moved into it, every target that is picked, from whatever pose, and the target of every walk of a
course; and if one is, it encloses no point that is moved into it. -/
theorem BotConfig.encloses_of_ofData {d : Data} {config : BotConfig Float} (h : BotConfig.ofData d = .accepted config) :
    (config.spawn.xMin < config.spawn.xMax ↔ Defined config.spawn.xMin ∧ Defined config.spawn.xMax) ∧
    (config.spawn.zMin < config.spawn.zMax ↔ Defined config.spawn.zMin ∧ Defined config.spawn.zMax) ∧
    (∀ p, config.spawn.Encloses (config.spawn.clamp p) ↔ config.spawn.Definite) ∧
    (config.spawn.Definite →
      (∀ {κ τ : Type} (s : Scene Float κ τ), s.brain.bounds = config.spawn →
        (∃ fault, Walk.pickTarget.run s = (.error fault, { s with source := s.source.draw.2 })) ∨
          ∃ t, Walk.pickTarget.run s = (.ok (), t) ∧ t.brain.bounds = s.brain.bounds ∧ t.brain.state.walk = .walking ∧
            config.spawn.Encloses t.brain.state.targetPosition) ∧
      ∀ {γ : Type} [DecidableEq γ] {Aside : BotStage Float γ → BotStage Float γ → Prop} {s t : BotStage Float γ},
        (∀ s t, Aside s t → t.cast.brains = s.cast.brains) → s.cast.brains = [] → Bot.Course Aside s t →
        ∀ brain ∈ t.cast.brains, brain.bounds = config.spawn → brain.state.walk = .walking →
          config.spawn.Encloses brain.state.targetPosition) := by
  obtain ⟨hxs, hzs⟩ := BotConfig.unreversed_of_ofData h
  have hx := Bounds.lt_iff_defined hxs
  have hz := Bounds.lt_iff_defined hzs
  have hwide : config.spawn.Definite → config.spawn.Wide := fun hd => ⟨hx.2 hd.x, hz.2 hd.z⟩
  refine ⟨hx, hz, fun p => ?_, fun hd => ⟨?_, ?_⟩⟩
  · exact ⟨Bounds.Encloses.definite, fun hd => (hwide hd).encloses_clamp p⟩
  · intro κ τ s hs
    rw [← hs]
    exact Walk.pickTarget_inside s (hs ▸ hwide hd)
  · intro γ _ Aside s t haside hnone hcourse brain hbrain hbounds hwalk
    have hs : ∀ brain ∈ s.cast.brains, brain.AimsInside := by simp [hnone]
    have haims : brain.AimsInside := hcourse.aimsInside haside hs brain hbrain
    rw [← hbounds]
    exact haims (hbounds ▸ hwide hd) hwalk

/-- A box that is endless to one side, and a point without coordinates. -/
theorem BotConfig.encloses_of_ofData_endless :
    let d : Data := .map [(.text "spawn", .map [(.text "x_min", .text "-inf"), (.text "x_max", .int 4)])]
    let config : BotConfig Float := { BotConfig.standard with spawn := ⟨-1.0 / 0.0, 4.0, 20.0, 25.0, 2.5⟩ }
    BotConfig.ofData d = .accepted config ∧
      config.spawn.Encloses (config.spawn.clamp ⟨0.0 / 0.0, 0.0 / 0.0, 1.0 / 0.0⟩) := by
  intro d config
  have haccepted : BotConfig.ofData d = .accepted config := by rfl
  have hdefinite : config.spawn.Definite := by constructor <;> decide
  exact ⟨haccepted, ((BotConfig.encloses_of_ofData haccepted).2.2.1 _).2 hdefinite⟩

/-- An undefined end is accepted. -/
example : ∃ config : BotConfig Float,
    BotConfig.ofData (.map [(.text "spawn", .map [(.text "x_min", .text "nan")])]) = .accepted config ∧
      ¬ Defined config.spawn.xMin :=
  ⟨{ BotConfig.standard with spawn := ⟨0.0 / 0.0, 25.0, 20.0, 25.0, 2.5⟩ }, by rfl, by decide⟩

end Bystander
