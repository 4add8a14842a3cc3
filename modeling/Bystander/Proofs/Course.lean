import Bystander.Proofs.Company
/-! # All that a bot can live through

A course is any row of starts, with any configurations, stops, updates of one brain, and frames with any guests, who may
do in turn whatever happens in a course.  What else may happen is left open (`Aside`).  A rule that each of these obeys
is obeyed by the course as a whole (`Course.obeys`).
-/
namespace Bystander.Bot

open Act (Obeys)

variable {α γ : Type} [Scalar α] [DecidableEq γ]

inductive Course (Aside : BotStage α γ → BotStage α γ → Prop) : BotStage α γ → BotStage α γ → Prop
  | refl (s : BotStage α γ) : Course Aside s s
  | trans {s t u : BotStage α γ} : Course Aside s t → Course Aside t u → Course Aside s u
  | aside {s t : BotStage α γ} : Aside s t → Course Aside s t
  | start (config : BotConfig α) (s : BotStage α γ) : Course Aside s ((start config).run s).2
  | update (serial : Nat) (delta : α) (s : BotStage α γ) :
    Course Aside s ((onBrain serial (Brain.frame (.waveEnd serial) delta)).run s).2
  | frame (guests : Guests α γ) (delta : α) :
    (∀ g s, Course Aside s ((guests.onTimer g).run s).2) →
    (∀ g s, Course Aside s ((guests.onFrame g delta).run s).2) →
    ∀ s, Course Aside s ((step guests delta).run s).2
  | stop (s : BotStage α γ) : Course Aside s (stop.run s).2

variable {Aside : BotStage α γ → BotStage α γ → Prop} {s t : BotStage α γ}

theorem Course.frame_absent {Aside : BotStage α Empty → BotStage α Empty → Prop} (delta : α) (s : BotStage α Empty) :
    Course Aside s ((step .absent delta).run s).2 :=
  .frame .absent delta nofun nofun s

/-- **A course obeys what its parts obey.** -/
theorem Course.obeys {R : BotStage α γ → BotStage α γ → Prop} [Steady R] (h : Course Aside s t)
    (haside : ∀ s t, Aside s t → R s t)
    (hstart : ∀ config, Obeys R (Bot.start config : Act (Fault α) (BotStage α γ) Bool))
    (hupdate : ∀ serial delta,
      Obeys R (onBrain serial (Brain.frame (.waveEnd serial) delta) : Act (Fault α) (BotStage α γ) Unit))
    (hframe : ∀ (guests : Guests α γ) (delta : α), (∀ g, Obeys R (guests.onTimer g)) →
      (∀ g, Obeys R (guests.onFrame g delta)) → Obeys R (step guests delta))
    (hstop : Obeys R (Bot.stop : Act (Fault α) (BotStage α γ) Unit)) : R s t := by
  induction h with
  | refl s => exact Steady.refl s
  | trans _ _ ih ih' => exact Steady.trans ih ih'
  | aside h => exact haside _ _ h
  | start config s => exact hstart config s
  | update serial delta s => exact hupdate serial delta s
  | frame guests delta _ _ s htimers hframes => exact hframe guests delta htimers hframes s
  | stop s => exact hstop s

/-! ## What all brains have in common -/

omit [Scalar α] [DecidableEq γ] in
/-- A rule for one brain, read as a rule for the company. -/
theorem forall_onBrain {β : Type} {P : Brain α → Prop} {serial : Nat} {play : Play α (Callback γ) (Alarm γ) β}
    (h : Obeys (keeping fun s => P s.brain) play) :
    Obeys (keeping fun s : BotStage α γ => ∀ brain ∈ s.cast.brains, P brain) (onBrain serial play) := by
  refine obeys_onBrain fun s brain hb hs other hother => ?_
  obtain hold | rfl := List.mem_or_eq_of_mem_set hother
  · exact hs other hold
  · exact h (scene s brain) (hs brain (List.mem_of_getElem? hb))

/-- **What a brain has from its opening on**, whatever it does, all brains have after a course. -/
theorem Course.forall_brains {P : Brain α → Prop} (h : Course Aside s t)
    (haside : ∀ s t, Aside s t → t.cast.brains = s.cast.brains)
    (hopening : ∀ settings bounds clips spawn avatar, P (.opening settings bounds clips spawn avatar))
    (hframe : ∀ serial delta,
      Obeys (keeping fun s => P s.brain) (Brain.frame (.waveEnd serial) delta : Play α (Callback γ) (Alarm γ) Unit))
    (hstop : ∀ number, Obeys (keeping fun s => P s.brain) (Wave.stop number : Play α (Callback γ) (Alarm γ) Unit))
    (hclose : Obeys (keeping fun s => P s.brain) (Brain.close : Play α (Callback γ) (Alarm γ) Unit))
    (hs : ∀ brain ∈ s.cast.brains, P brain) : ∀ brain ∈ t.cast.brains, P brain := by
  refine h.obeys (R := keeping fun s => ∀ brain ∈ s.cast.brains, P brain) ?_ ?_ ?_ ?_ ?_ hs
  · intro s t hst hs
    rwa [haside s t hst]
  · intro config
    refine obeys_start (fun _ _ hs => hs) (fun _ _ _ hs => hs) fun s appearance journal hs brain hb => ?_
    obtain hold | hnew := List.mem_append.1 hb
    · exact hs brain hold
    · rw [List.mem_singleton.1 hnew]
      exact hopening ..
  · exact fun serial delta => forall_onBrain (hframe serial delta)
  · intro guests delta htimers hframes
    exact obeys_step (fun _ _ _ hs => hs) (fun s _ scheduler _ _ _ _ => forall_onBrain (hstop _) { s with scheduler })
      (fun _ _ _ _ _ _ hs => hs) htimers (fun serial => forall_onBrain (hframe serial delta)) hframes
  · exact obeys_stop (fun _ _ hs => hs) (fun _ => forall_onBrain hclose) fun _ _ hs => hs

end Bystander.Bot
