import Bystander.Proofs.Errand
import Bystander.Proofs.Queue
/-! # What deeds make of a scheduler

A scheduler changes by its deeds alone.  So the scheduler after a part of a history is what the deeds of that part make
of the one before it (`Scheduler.Undergoes`), and what is to be known of it is found by going through the deeds one by
one.  Every errand goes on by deeds that may happen where they do (`Errand.gains_told`), so that what each deed keeps is
kept by all errands, by induction on `Chronicle.Gains`.  An errand that does only deeds of some kind has only such deeds
written down (`Errand.Does`).
-/
namespace Bystander

open Act (Obeys run_bind run_bind_eq_ok run_get_bind run_modify_bind run_orElse)
open Scalar (Elapses)

variable {α κ τ ρ : Type} [Scalar α]

namespace Deed

def accepted? : Deed α κ τ → Option (Timer α τ)
  | accepted t .. => some t
  | _ => none

def fired? : Deed α κ τ → Option (Timer α τ)
  | fired t => some t
  | _ => none

end Deed

def acceptedIn (moments : List (Moment α κ τ)) : List (Timer α τ) := moments.filterMap fun m => m.deed.accepted?

def firedIn (moments : List (Moment α κ τ)) : List (Timer α τ) := moments.filterMap fun m => m.deed.fired?

namespace Deed

/-- What a deed makes of the scheduler before it. -/
def effect [BEq κ] (s : Scheduler α κ τ) : Deed α κ τ → Scheduler α κ τ
  | accepted t _ _ => { s with timers := Scheduler.enqueue t s.timers, nextSerial := s.nextSerial + 1 }
  | connected k => s.connect k
  | disconnected k => s.disconnect k
  | advanced delta => { s with now := s.now + delta, frameCount := s.frameCount + 1 }
  | fired _ => { s with timers := s.timers.tail }
  | refused _ | broke .. | calling | called .. => s

/-- What holds of a deed and the scheduler before it. -/
def Fits (s : Scheduler α κ τ) : Deed α κ τ → Prop
  | accepted t since delay =>
    Elapses delay ∧ since = s.now ∧ t = ⟨s.now + delay / 1000.0, s.nextSerial, t.purpose⟩
  | fired t => s.timers.head? = some t
  | _ => True

/-- When a deed may happen, by the scheduler before it and the record so far: a timer fires when it is the first that is
due, its failure comes after it, and the callbacks begin when no timer is due. -/
def Happens [BEq κ] (s : Scheduler α κ τ) (earlier : List (Moment α κ τ)) : Deed α κ τ → Prop
  | advanced delta => ¬ delta < 0.0
  | fired t => s.takeDue = some (t, (fired t).effect s)
  | broke t _ => t ∈ firedIn earlier
  | calling => s.takeDue = none
  | deed => deed.Fits s

theorem Happens.fits [BEq κ] {s : Scheduler α κ τ} {earlier : List (Moment α κ τ)} {deed : Deed α κ τ}
    (h : deed.Happens s earlier) : deed.Fits s := by
  cases deed with
  | fired t =>
    obtain ⟨rest, hq, -, -⟩ := Scheduler.takeDue_eq_some h
    rw [Fits, hq, List.head?_cons]
  | accepted t since delay => exact h
  | _ => trivial

/-- An accepted timer is the one that its registration adds. -/
theorem setTimeout_of_fits [BEq κ] {s : Scheduler α κ τ} {t : Timer α τ} {since delay : α}
    (h : (accepted t since delay : Deed α κ τ).Fits s) :
    s.setTimeout t.purpose delay = .ok ((accepted t since delay).effect s) := by
  obtain ⟨helapses, -, ht⟩ := h
  rw [Scheduler.setTimeout, if_pos ((Scheduler.acceptsDelay_iff delay).2 helapses), effect, ← ht]

/-- A deed that moves the clock on by a delta of a kind, if it moves it on at all. -/
def Within (Q : α → Prop) : Deed α κ τ → Prop
  | advanced delta => Q delta
  | _ => True

omit [Scalar α] in
theorem Within.imp {P Q : α → Prop} {deed : Deed α κ τ} (h : deed.Within P) (hPQ : ∀ delta, P delta → Q delta) :
    deed.Within Q := by
  cases deed <;> first | exact hPQ _ h | exact h

/-- A deed that arranges things for later, where timers are registered only for delays of a kind. -/
def Arranges (P : α → Prop) : Deed α κ τ → Prop
  | accepted _ _ delay => P delay
  | refused _ | connected _ | disconnected _ => True
  | _ => False

omit [Scalar α] in
theorem Arranges.imp {P Q : α → Prop} {deed : Deed α κ τ} (h : deed.Arranges P) (hPQ : ∀ delay, P delay → Q delay) :
    deed.Arranges Q := by
  cases deed <;> first | exact hPQ _ h | exact h

end Deed

/-- **What a scheduler undergoes**: each of the moments, the latest first, is a deed with what it makes of the scheduler
before it. -/
inductive Scheduler.Undergoes [BEq κ] (s : Scheduler α κ τ) : List (Moment α κ τ) → Scheduler α κ τ → Prop
  | nothing : Undergoes s [] s
  | next {moments : List (Moment α κ τ)} {t : Scheduler α κ τ} {deed : Deed α κ τ} (h : Undergoes s moments t)
    (hfits : deed.Fits t) : Undergoes s (⟨deed, deed.effect t⟩ :: moments) (deed.effect t)

namespace Scheduler

variable [BEq κ] {s t u : Scheduler α κ τ}

theorem Undergoes.trans {earlier later : List (Moment α κ τ)} (hst : s.Undergoes earlier t)
    (htu : t.Undergoes later u) : s.Undergoes (later ++ earlier) u := by
  induction htu with
  | nothing => exact hst
  | next _ hfits ih => exact ih.next hfits

/-- **The record can be cut at each of its moments.** -/
theorem Undergoes.of_suffix {moments : List (Moment α κ τ)} (h : s.Undergoes moments t) {m : Moment α κ τ}
    {earlier : List (Moment α κ τ)} (hm : m :: earlier <:+ moments) : s.Undergoes (m :: earlier) m.scheduler := by
  induction h with
  | nothing => cases List.suffix_nil.1 hm
  | next h hfits ih =>
    rcases List.suffix_cons_iff.1 hm with heq | hm
    · cases heq
      exact h.next hfits
    · exact ih hm

/-- **No timer is lost**: those that were there and those accepted since are those that have fired and those pending. -/
theorem Undergoes.balance (h : s.Undergoes moments t) :
    (acceptedIn moments ++ s.timers).Perm (firedIn moments ++ t.timers) := by
  induction h with
  | nothing => exact .refl _
  | @next earlier t deed _ hfits ih =>
    cases deed with
    | accepted timer since delay =>
      have hqueue : (firedIn earlier ++ enqueue timer t.timers).Perm (firedIn earlier ++ timer :: t.timers) :=
        (perm_enqueue timer t.timers).append_left _
      exact (ih.cons timer).trans (hqueue.trans List.perm_middle).symm
    | fired timer =>
      obtain ⟨rest, hrest⟩ := List.head?_eq_some_iff.1 hfits
      rw [Deed.effect, hrest, List.tail_cons]
      rw [hrest] at ih
      exact ih.trans List.perm_middle
    | connected k =>
      rw [Deed.effect, Scheduler.connect]
      split <;> exact ih
    | _ => exact ih

end Scheduler

namespace Chronicle

variable [BEq κ] {P Q : Deed α κ τ → Prop}

/-- A deed done and written down. -/
def doing (c : Chronicle α κ τ ρ) (deed : Deed α κ τ) : Chronicle α κ τ ρ :=
  ⟨{ c.stage with scheduler := deed.effect c.stage.scheduler }, ⟨deed, deed.effect c.stage.scheduler⟩ :: c.latestFirst⟩

/-- **How a record goes on**: a deed of some kind is done where it may happen, or something changes aside from the
scheduler. -/
inductive Gains (P : Deed α κ τ → Prop) (c : Chronicle α κ τ ρ) : Chronicle α κ τ ρ → Prop
  | nothing : Gains P c c
  | own {c' : Chronicle α κ τ ρ} (h : Gains P c c') {stage : Stage α κ τ ρ}
    (hstage : stage.scheduler = c'.stage.scheduler) : Gains P c ⟨stage, c'.latestFirst⟩
  | deed {c' : Chronicle α κ τ ρ} (h : Gains P c c') {deed : Deed α κ τ} (hP : P deed)
    (hhappens : deed.Happens c'.stage.scheduler c'.latestFirst) : Gains P c (c'.doing deed)

theorem Gains.trans {c c' c'' : Chronicle α κ τ ρ} (h : Gains P c c') (h' : Gains P c' c'') : Gains P c c'' := by
  induction h' with
  | nothing => exact h
  | own _ hstage ih => exact ih.own hstage
  | deed _ hP hhappens ih => exact ih.deed hP hhappens

instance : Steady (Gains (ρ := ρ) P) where
  refl _ := .nothing
  trans := Gains.trans

theorem Gains.imp {c c' : Chronicle α κ τ ρ} (h : Gains P c c') (hPQ : ∀ deed, P deed → Q deed) : Gains Q c c' := by
  induction h with
  | nothing => exact .nothing
  | own _ hstage ih => exact ih.own hstage
  | deed _ hP hhappens ih => exact ih.deed (hPQ _ hP) hhappens

/-- **What is gained**: the record is longer by deeds of the kind, and the scheduler is what they make of it. -/
theorem Gains.moments {c c' : Chronicle α κ τ ρ} (h : Gains P c c') :
    ∃ moments, c'.latestFirst = moments ++ c.latestFirst ∧ c.stage.scheduler.Undergoes moments c'.stage.scheduler ∧
      ∀ m ∈ moments, P m.deed := by
  induction h with
  | nothing => exact ⟨[], rfl, .nothing, List.forall_mem_nil _⟩
  | own _ hstage ih =>
    obtain ⟨moments, hrecord, hundergoes, hP⟩ := ih
    exact ⟨moments, hrecord, hstage ▸ hundergoes, hP⟩
  | deed _ hP hhappens ih =>
    obtain ⟨moments, hrecord, hundergoes, hmoments⟩ := ih
    exact ⟨_ :: moments, congrArg _ hrecord, hundergoes.next hhappens.fits, List.forall_mem_cons.2 ⟨hP, hmoments⟩⟩

theorem Gains.suffix {c c' : Chronicle α κ τ ρ} (h : Gains P c c') : c.latestFirst <:+ c'.latestFirst := by
  obtain ⟨moments, hrecord, -⟩ := h.moments
  exact ⟨moments, hrecord.symm⟩

/-- Of what kind the deeds are can be read off the record. -/
theorem Gains.of_record {c c' : Chronicle α κ τ ρ} (h : Gains Q c c') :
    ∀ {moments : List (Moment α κ τ)}, c'.latestFirst = moments ++ c.latestFirst → (∀ m ∈ moments, P m.deed) →
      Gains P c c' := by
  induction h with
  | nothing => exact fun _ _ => .nothing
  | own _ hstage ih => exact fun hrecord hP => (ih hrecord hP).own hstage
  | @deed c' h deed _ hhappens ih =>
    intro moments hrecord hP
    obtain ⟨earlier, hearlier⟩ := h.suffix
    obtain rfl : moments = ⟨deed, deed.effect c'.stage.scheduler⟩ :: earlier := by
      refine List.append_cancel_right (hrecord.symm.trans ?_)
      rw [List.cons_append, hearlier]
      rfl
    obtain ⟨hfirst, hrest⟩ := List.forall_mem_cons.1 hP
    exact (ih hearlier.symm hrest).deed hfirst hhappens

/-! ## What is recorded goes on by deeds -/

theorem gains_own {change : Stage α κ τ ρ → Stage α κ τ ρ} (h : ∀ s, (change s).scheduler = s.scheduler) :
    Obeys (Gains P) (plain (modify change)) := fun c => Gains.nothing.own (h c.stage)

theorem gains_operation {deed : Scheduler α κ τ → Deed α κ τ}
    {f : Scheduler α κ τ → Except (Fault α) (Scheduler α κ τ)} (hrefused : ∀ fault, P (.refused fault))
    (h : ∀ s s' earlier, f s = .ok s' → P (deed s) ∧ (deed s).Happens s earlier ∧ s' = (deed s).effect s) :
    Obeys (Gains P) (operation deed f : Act (Fault α) (Chronicle α κ τ ρ) Unit) := by
  intro c
  rw [operation, run_get_bind, run_bind, admitting, run_orElse, plain, Act.run_zoom, Stage.run_scheduling]
  cases hf : f c.stage.scheduler with
  | ok s' =>
    obtain ⟨hP, hhappens, rfl⟩ := h _ s' c.latestFirst hf
    exact Gains.nothing.deed hP hhappens
  | error fault => exact Gains.nothing.deed (hrefused fault) trivial

theorem gains_book {purpose : τ} {delay : α} (hrefused : ∀ fault, P (.refused fault))
    (haccepted : ∀ t since, P (.accepted t since delay)) :
    Obeys (Gains P) (operation (booked purpose delay) (Scheduler.setTimeout purpose delay) :
      Act (Fault α) (Chronicle α κ τ ρ) Unit) :=
  gains_operation hrefused fun _ _ _ hs =>
    ⟨haccepted _ _, ⟨(Scheduler.setTimeout_eq_ok hs).1, rfl, rfl⟩, (Scheduler.setTimeout_eq_ok hs).2⟩

theorem gains_connect {k : κ} (hrefused : ∀ fault, P (.refused fault)) (hconnected : P (.connected k)) :
    Obeys (Gains P) (operation (fun _ => .connected k) fun s => .ok (s.connect k) :
      Act (Fault α) (Chronicle α κ τ ρ) Unit) :=
  gains_operation hrefused fun _ _ _ hs => ⟨hconnected, trivial, (Except.ok.inj hs).symm⟩

theorem gains_disconnect {k : κ} (hrefused : ∀ fault, P (.refused fault)) (hdisconnected : P (.disconnected k)) :
    Obeys (Gains P) (operation (fun _ => .disconnected k) fun s => .ok (s.disconnect k) :
      Act (Fault α) (Chronicle α κ τ ρ) Unit) :=
  gains_operation hrefused fun _ _ _ hs => ⟨hdisconnected, trivial, (Except.ok.inj hs).symm⟩

theorem gains_advance {delta : α} (hrefused : ∀ fault, P (.refused fault))
    (hadvanced : ¬ delta < 0.0 → P (.advanced delta)) :
    Obeys (Gains P) (operation (fun _ => .advanced delta) (Scheduler.advance delta) :
      Act (Fault α) (Chronicle α κ τ ρ) Unit) :=
  gains_operation hrefused fun _ _ _ hs =>
    ⟨hadvanced (Scheduler.advance_eq_ok hs).1, (Scheduler.advance_eq_ok hs).1, (Scheduler.advance_eq_ok hs).2⟩

/-- **What a timer is for may fail**, after the timer has fired. -/
theorem gains_broke {act : Act (Fault α) (Chronicle α κ τ ρ) Unit} {t : Timer α τ}
    (hbroke : ∀ fault, P (.broke t fault)) (hact : Obeys (Gains P) act) {c : Chronicle α κ τ ρ}
    (ht : t ∈ firedIn c.latestFirst) : Gains P c ((admitting (.broke t) act).run c).2 := by
  have hrun := hact c
  rw [admitting, run_orElse]
  rcases hr : act.run c with ⟨fault | u, after⟩
  · rw [hr] at hrun
    exact hrun.deed (hbroke fault) ((hrun.suffix.filterMap _).subset ht)
  · rw [hr] at hrun
    exact hrun

theorem gains_fireDue {onTimer : τ → Act (Fault α) (Chronicle α κ τ ρ) Unit} (hfired : ∀ t, P (.fired t))
    (hbroke : ∀ t fault, P (.broke t fault)) (hTimer : ∀ purpose, Obeys (Gains P) (onTimer purpose)) :
    ∀ limit, Obeys (Gains P) (fireDue onTimer limit)
  | 0 => by
    intro c
    rw [fireDue, run_get_bind]
    cases c.stage.scheduler.takeDue <;> exact .nothing
  | limit + 1 => by
    intro c
    rw [fireDue, run_get_bind]
    cases hdue : c.stage.scheduler.takeDue with
    | none => exact .nothing
    | some due =>
      obtain ⟨t, scheduler⟩ := due
      obtain rfl : scheduler = (Deed.fired t).effect c.stage.scheduler := by
        obtain ⟨rest, hq, -, rfl⟩ := Scheduler.takeDue_eq_some hdue
        rw [Deed.effect, hq, List.tail_cons]
      have hfirst : Gains P c (c.doing (.fired t)) := Gains.nothing.deed (hfired t) hdue
      have hbroken := hfirst.trans (gains_broke (hbroke t) (hTimer t.purpose) List.mem_cons_self)
      dsimp only
      rw [run_modify_bind, note, run_modify_bind]
      exact Act.rel_run_bind hbroken fun _ => gains_fireDue hfired hbroke hTimer limit

theorem gains_callAll {onFrame : κ → α → Act (Fault α) (Chronicle α κ τ ρ) Unit} {delta : α}
    (hcalled : ∀ k, P (.called k delta)) (hFrame : ∀ k, Obeys (Gains P) (onFrame k delta)) :
    ∀ callbacks, Obeys (Gains P) (callAll onFrame delta callbacks)
  | [] => Act.obeys_pure ()
  | k :: rest => by
    refine Obeys.bind (fun c => Gains.nothing.deed (hcalled k) trivial) fun _ => ?_
    exact (hFrame k).bind fun _ => gains_callAll hcalled hFrame rest

omit [BEq κ] in
/-- A loop that has got through leaves no timer that is due. -/
theorem takeDue_of_run_fireDue {onTimer : τ → Act (Fault α) (Chronicle α κ τ ρ) Unit} :
    ∀ {limit : Nat} {c c' : Chronicle α κ τ ρ}, (fireDue onTimer limit).run c = (.ok (), c') →
      c'.stage.scheduler.takeDue = none
  | 0, c, c', h => by
    rw [fireDue, run_get_bind] at h
    cases hdue : c.stage.scheduler.takeDue with
    | none =>
      rw [hdue] at h
      cases h
      exact hdue
    | some due =>
      rw [hdue] at h
      cases h
  | limit + 1, c, c', h => by
    rw [fireDue, run_get_bind] at h
    cases hdue : c.stage.scheduler.takeDue with
    | none =>
      rw [hdue] at h
      cases h
      exact hdue
    | some due =>
      rw [hdue] at h
      dsimp only at h
      rw [run_modify_bind, note, run_modify_bind] at h
      obtain ⟨_, _, -, hrest⟩ := run_bind_eq_ok h
      exact takeDue_of_run_fireDue hrest

/-- **A frame**: its callbacks begin when no timer is due. -/
theorem gains_step {Q : α → Prop} {onTimer : τ → Act (Fault α) (Chronicle α κ τ ρ) Unit}
    {onFrame : κ → α → Act (Fault α) (Chronicle α κ τ ρ) Unit} (spare : Nat) {delta : α}
    (hdelta : ¬ delta < 0.0 → Q delta) (hTimer : ∀ purpose, Obeys (Gains (Deed.Within Q)) (onTimer purpose))
    (hFrame : ∀ k, Obeys (Gains (Deed.Within Q)) (onFrame k delta)) :
    Obeys (Gains (Deed.Within Q)) (step onTimer onFrame spare delta) := by
  refine (gains_advance (fun _ => trivial) hdelta).bind fun _ c => ?_
  rw [run_get_bind, run_bind]
  have hfired := gains_fireDue (fun _ => trivial) (fun _ _ => trivial) hTimer
    (c.stage.scheduler.timers.length + spare) c
  rcases hr : (fireDue onTimer (c.stage.scheduler.timers.length + spare)).run c with ⟨fault | u, after⟩
  · rw [hr] at hfired
    exact hfired
  · rw [hr] at hfired
    dsimp only
    rw [note, run_modify_bind, run_get_bind]
    have hcalling : Gains (Deed.Within Q) c (after.doing .calling) :=
      hfired.deed trivial (takeDue_of_run_fireDue hr)
    exact hcalling.trans (gains_callAll (fun _ => trivial) hFrame _ _)

end Chronicle

namespace Errand

variable [BEq κ]

/-- **Every errand goes on by deeds**, and by frames that have elapsed. -/
theorem gains_told : ∀ errand : Errand α κ τ ρ, Obeys (Chronicle.Gains (Deed.Within Elapses)) errand.told
  | .done => Act.obeys_pure ()
  | .fail fault => Act.obeys_throw fault
  | .own change h next =>
    (Chronicle.gains_own h).bind fun _ => Act.obeys_get.bind fun c => gains_told (next c.stage)
  | .book _ _ next =>
    (Chronicle.gains_book (fun _ => trivial) fun _ _ => trivial).observe.bind fun result =>
      gains_told (next (Act.fault result))
  | .connect _ next => (Chronicle.gains_connect (fun _ => trivial) trivial).bind fun _ => gains_told next
  | .disconnect _ next => (Chronicle.gains_disconnect (fun _ => trivial) trivial).bind fun _ => gains_told next
  | .step spare _ hd onTimer onFrame next => by
    refine Obeys.bind (Obeys.observe ?_) fun result => gains_told (next (Act.fault result))
    exact Chronicle.gains_step spare (fun hforth => ⟨hd.resolve_right hforth, hforth⟩)
      (fun purpose => gains_told (onTimer purpose)) fun k => gains_told (onFrame k _)

/-- **An errand does only deeds of some kind**: wherever it is carried out, these are all that is written down. -/
def Does (P : Deed α κ τ → Prop) (errand : Errand α κ τ ρ) : Prop :=
  ∀ c, ∃ moments, (errand.told.run c).2.latestFirst = moments ++ c.latestFirst ∧ ∀ m ∈ moments, P m.deed

theorem Does.imp {P Q : Deed α κ τ → Prop} {errand : Errand α κ τ ρ} (h : errand.Does P)
    (hPQ : ∀ deed, P deed → Q deed) : errand.Does Q := by
  intro c
  obtain ⟨moments, hc, hP⟩ := h c
  exact ⟨moments, hc, fun m hm => hPQ _ (hP m hm)⟩

theorem Does.gains {P : Deed α κ τ → Prop} {errand : Errand α κ τ ρ} (h : errand.Does P) :
    Obeys (Chronicle.Gains P) errand.told := by
  intro c
  obtain ⟨moments, hc, hP⟩ := h c
  exact (errand.gains_told c).of_record hc hP

section Rules

variable {P : Deed α κ τ → Prop} {next : Errand α κ τ ρ} (hrefused : ∀ fault, P (.refused fault))

theorem does_of_gains {errand : Errand α κ τ ρ} (h : Obeys (Chronicle.Gains P) errand.told) : errand.Does P := by
  intro c
  obtain ⟨moments, hc, -, hP⟩ := (h c).moments
  exact ⟨moments, hc, hP⟩

theorem does_done : (.done : Errand α κ τ ρ).Does P := does_of_gains (Act.obeys_pure ())

include hrefused

theorem does_connect {k : κ} (hk : P (.connected k)) (h : next.Does P) : (Errand.connect k next).Does P :=
  does_of_gains ((Chronicle.gains_connect hrefused hk).bind fun _ => h.gains)

theorem does_disconnect {k : κ} (hk : P (.disconnected k)) (h : next.Does P) : (Errand.disconnect k next).Does P :=
  does_of_gains ((Chronicle.gains_disconnect hrefused hk).bind fun _ => h.gains)

theorem does_book {purpose : τ} {delay : α} {next : Option (Fault α) → Errand α κ τ ρ}
    (haccepted : ∀ t since, P (.accepted t since delay)) (h : ∀ answer, (next answer).Does P) :
    (Errand.book purpose delay next).Does P :=
  does_of_gains ((Chronicle.gains_book hrefused haccepted).observe.bind fun result => (h (Act.fault result)).gains)

end Rules

end Errand
end Bystander
