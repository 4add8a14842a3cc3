import Bystander.Proofs.WrittenBack
/-! # What is not declared does not count

A schema says which names a tree declares at each level.  Leaving out entries that are not declared, at any level and in
any number, makes no difference to what is read: the same values are accepted, or the same issues are told
(`ofData_of_thins`).  Issues are the same when they agree in kind, place and message; a report that also quotes the
value at the place quotes what is left of it.  Of the sections of behaviours something is asked even where they are not
declared: they are maps under texts.  A section that is not of this form is refused, so it cannot be left out without a
difference.
-/
namespace Bystander

/-! ## Checks that come out alike -/

/-- **Two checks come out alike**: both accept related values, or both tell the same issues. -/
inductive Checked.Rel {β γ : Type} (R : β → γ → Prop) : Checked β → Checked γ → Prop
  | accepted {b : β} {c : γ} (h : R b c) : Rel R (.accepted b) (.accepted c)
  | rejected (issues : List Issue) : Rel R (.rejected issues) (.rejected issues)

namespace Checked

variable {β γ δ ε : Type} {R : β → γ → Prop} {S : δ → ε → Prop}

theorem Rel.refl {R : β → β → Prop} (hR : ∀ b, R b b) (b : Checked β) : Rel R b b := by
  cases b with
  | accepted b => exact .accepted (hR b)
  | rejected issues => exact .rejected issues

theorem Rel.of_eq {a b : Checked β} (h : a = b) : Rel Eq a b := h ▸ .refl (fun _ => rfl) a

theorem Rel.eq {a b : Checked β} (h : Rel Eq a b) : a = b := by
  cases h with
  | accepted h => rw [h]
  | rejected issues => rfl

theorem Rel.imp {Q : β → γ → Prop} {a : Checked β} {b : Checked γ} (h : Rel R a b) (hRQ : ∀ b c, R b c → Q b c) :
    Rel Q a b := by
  cases h with
  | accepted h => exact .accepted (hRQ _ _ h)
  | rejected issues => exact .rejected issues

theorem Rel.under {a : Checked β} {b : Checked γ} (h : Rel R a b) (place : Place) :
    Rel R (a.under place) (b.under place) := by
  cases h with
  | accepted h => exact .accepted h
  | rejected issues => exact .rejected _

theorem Rel.field {f : Checked (β → δ)} {g : Checked (γ → ε)} {a : Checked β} {b : Checked γ}
    (hf : Rel (fun f g => ∀ b c, R b c → S (f b) (g c)) f g) (h : Rel R a b) : Rel S (f.field a) (g.field b) := by
  cases hf with
  | accepted hf =>
    cases h with
    | accepted h => exact .accepted (hf _ _ h)
    | rejected issues => exact .rejected issues
  | rejected earlier =>
    cases h with
    | accepted h => exact .rejected earlier
    | rejected later => exact .rejected (earlier ++ later)

theorem Rel.andThen {a : Checked β} {b : Checked γ} {f : β → Checked δ} {g : γ → Checked ε} (h : Rel R a b)
    (hf : ∀ b c, R b c → Rel S (f b) (g c)) : Rel S (a.andThen f) (b.andThen g) := by
  cases h with
  | accepted h => exact hf _ _ h
  | rejected issues => exact .rejected issues

end Checked

/-! ## Schemas -/

/-- What a tree declares. -/
inductive Schema where
  /-- A single setting, under which nothing is declared. -/
  | setting
  /-- A record with named fields. -/
  | record (fields : List (String × Schema))
  /-- A map all of whose keys spell texts.  It has named fields too, and the other entries are of one form. -/
  | table (fields : List (String × Schema)) (other : Schema)

/-- The sections of behaviours with the names in them. -/
def Settings.parts : List (String × List String) :=
  [("view", ViewSettings.names), ("wave", WaveSettings.names), ("sound", SoundSettings.names),
    ("head", HeadSettings.names), ("walk", WalkSettings.names)]

namespace Schema

def settings (names : List String) : List (String × Schema) := names.map fun name => (name, .setting)

def part (names : List String) : Schema := .table (settings names) .setting

/-- The sections of behaviours with the settings in them; other sections are sections too. -/
def sections : Schema := .table (Settings.parts.map fun e => (e.1, .part e.2)) (.part [])

def names : Schema → List String
  | .setting => []
  | .record fields => fields.map Prod.fst
  | .table fields _ => fields.map Prod.fst

/-- A key under which nothing is declared. -/
def Undeclared : Schema → Data → Prop
  | .setting, _ => True
  | .record fields, k => ∀ name ∈ fields.map Prod.fst, k ≠ .text name
  | .table fields _, k => ∀ name ∈ fields.map Prod.fst, k.toText ≠ .accepted name

/-- Where a map is due, a map under texts. -/
def Fits : Schema → Data → Prop
  | .table _ _, d => ∃ named, d.toTextMap .accepted = .accepted named
  | _, _ => True

/-- What is asked of every entry, declared or not. -/
def Proper : Schema → Data → Data → Prop
  | .table _ other, k, v => (∃ name, k.toText = .accepted name) ∧ other.Fits v
  | _, _, _ => True

/-- **An idle entry**: it is not declared, and it is of the form that is asked of all entries. -/
def Idle (s : Schema) (k v : Data) : Prop := s.Undeclared k ∧ s.Proper k v

theorem undeclared_text {s : Schema} {key : String} (h : key ∉ s.names) : s.Undeclared (.text key) := by
  cases s with
  | setting => trivial
  | record fields =>
    rintro name hname hkey
    cases hkey
    exact h hname
  | table fields other =>
    rintro name hname hkey
    cases hkey
    exact h hname

/-- The schema of what stands under a key. -/
def under : Schema → Data → Schema
  | .setting, _ => .setting
  | .record fields, k =>
    match k with
    | .text name => (fields.lookup name).getD .setting
    | _ => .setting
  | .table fields other, k =>
    match k.toText with
    | .accepted name => (fields.lookup name).getD other
    | .rejected _ => other

end Schema

mutual

/-- **The second tree is the first one without some entries** that may go, at any level. -/
inductive Thins (MayGo : Schema → Data → Data → Prop) : Schema → Data → Data → Prop
  | refl (s : Schema) (d : Data) : Thins MayGo s d d
  | map {s : Schema} {es fs : List (Data × Data)} (h : ThinsEntries MayGo s es fs) : Thins MayGo s (.map es) (.map fs)

inductive ThinsEntries (MayGo : Schema → Data → Data → Prop) : Schema → List (Data × Data) → List (Data × Data) → Prop
  | nil (s : Schema) : ThinsEntries MayGo s [] []
  | drop {s : Schema} {k v : Data} {es fs : List (Data × Data)} (hgo : MayGo s k v) (h : ThinsEntries MayGo s es fs) :
    ThinsEntries MayGo s ((k, v) :: es) fs
  | keep {s : Schema} {k v w : Data} {es fs : List (Data × Data)} (hv : Thins MayGo (s.under k) v w)
    (h : ThinsEntries MayGo s es fs) : ThinsEntries MayGo s ((k, v) :: es) ((k, w) :: fs)

end

/-- What a configuration declares. -/
def BotConfig.fields : List (String × Schema) :=
  [
    ("version", .setting), ("spawn", .record (Schema.settings Bounds.names)),
    ("assets", .record (Schema.settings AssetsConfig.names)),
    ("simulation", .record (Schema.settings SimulationConfig.names)),
    ("behaviors", .sections)]

def BotConfig.schema : Schema := .record fields

open Data

/-! ## Single settings -/

/-- A reader for which all maps are the same: it reads single settings. -/
def Blind {β : Type} (read : Data → Checked β) : Prop := ∀ es fs, read (.map es) = read (.map fs)

theorem blind_toFloat : Blind toFloat := fun _ _ => rfl

theorem blind_toBool : Blind toBool := fun _ _ => rfl

theorem blind_toInt : Blind toInt := fun _ _ => rfl

theorem blind_toText : Blind toText := fun _ _ => rfl

theorem blind_toPair : Blind toPair := fun _ _ => rfl

theorem Blind.toOption {β : Type} {read : Data → Checked β} (h : Blind read) : Blind (Data.toOption read) :=
  fun es fs => congrArg (Checked.map some) (h es fs)

theorem Blind.andThen {β γ : Type} {read : Data → Checked β} (h : Blind read) (f : β → Checked γ) :
    Blind fun d => (read d).andThen f :=
  fun es fs => congrArg (Checked.andThen · f) (h es fs)

theorem blind_version : Blind versionOfData := blind_toText.andThen _

theorem blind_toRate (high : Float) : Blind (toRate high) := (blind_toFloat.andThen _).andThen _

theorem blind_toFloatFrom (low : Float) : Blind (toFloatFrom low) := blind_toFloat.andThen _

theorem blind_toIntBetween (low high : Int) : Blind (toIntBetween low high) := blind_toInt.andThen _

theorem Thins.read_eq {β : Type} {read : Data → Checked β} (hread : Blind read) {s : Schema} {v w : Data}
    (h : Thins Schema.Idle s v w) : read v = read w := by
  cases h with
  | refl => rfl
  | map h => exact hread _ _

/-! ## Fields -/

section Fields

variable {β γ : Type} {R : Data → Data → Prop} {S : β → γ → Prop} {es fs : List (Data × Data)} {name : String}

theorem rel_fieldOr {default : β} {default' : γ} {read : Data → Checked β} {read' : Data → Checked γ}
    (h : Option.Rel R (lookup name es) (lookup name fs)) (hdefault : S default default')
    (hread : ∀ v w, R v w → Checked.Rel S (read v) (read' w)) :
    Checked.Rel S (fieldOr es name default read) (fieldOr fs name default' read') := by
  unfold fieldOr
  generalize lookup name es = found at h ⊢
  generalize lookup name fs = found' at h ⊢
  cases h with
  | none => exact .accepted hdefault
  | some h => exact (hread _ _ h).under _

/-- **Entries that agree on some names**: a single setting under one of these is read alike. -/
def Agree (names : List String) (es fs : List (Data × Data)) : Prop :=
  ∀ name ∈ names, ∀ {β : Type} (default : β) {read : Data → Checked β}, Blind read →
    fieldOr es name default read = fieldOr fs name default read

theorem agree_of_lookup {names : List String} {s : String → Schema}
    (h : ∀ name ∈ names, Option.Rel (Thins Schema.Idle (s name)) (lookup name es) (lookup name fs)) :
    Agree names es fs := by
  intro name hname β default read hread
  refine (rel_fieldOr (h name hname) rfl fun v w hvw => ?_).eq
  rw [hvw.read_eq hread]
  exact .refl (fun _ => rfl) _

theorem ViewSettings.ofEntries_congr (h : Agree names es fs) : ofEntries es = ofEntries fs := by
  unfold ViewSettings.ofEntries
  dsimp only
  rw [h "enabled" (by decide) _ blind_toBool, h "voxel_fps" (by decide) _ blind_toFloat]

theorem WaveSettings.ofEntries_congr (h : Agree names es fs) : ofEntries es = ofEntries fs := by
  unfold WaveSettings.ofEntries
  dsimp only
  rw [h "chance" (by decide) _ blind_toFloat, h "frequency_range" (by decide) _ blind_toPair,
    h "amplitude_range" (by decide) _ blind_toPair, h "min_duration_ms" (by decide) _ blind_toFloat,
    h "duration_jitter_ms" (by decide) _ blind_toFloat, h "shoulder_bias" (by decide) _ blind_toFloat,
    h "shoulder_phase" (by decide) _ blind_toFloat, h "elbow_bias" (by decide) _ blind_toFloat,
    h "elbow_frequency_scale" (by decide) _ blind_toFloat, h "spine_bias" (by decide) _ blind_toFloat,
    h "palm_out_yaw" (by decide) _ blind_toFloat]

theorem SoundSettings.ofEntries_congr (h : Agree names es fs) : ofEntries es = ofEntries fs := by
  unfold SoundSettings.ofEntries
  dsimp only
  rw [h "chance" (by decide) _ blind_toFloat]

theorem HeadSettings.ofEntries_congr (h : Agree names es fs) : ofEntries es = ofEntries fs := by
  unfold HeadSettings.ofEntries
  dsimp only
  rw [h "chance" (by decide) _ blind_toFloat, h "pitch_range" (by decide) _ blind_toFloat,
    h "pitch_rate" (by decide) _ blind_toFloat, h "stop_tolerance" (by decide) _ blind_toFloat]

theorem WalkSettings.ofEntries_congr (h : Agree names es fs) : ofEntries es = ofEntries fs := by
  unfold WalkSettings.ofEntries
  dsimp only
  rw [h "chance" (by decide) _ blind_toFloat, h "big_move_chance" (by decide) _ blind_toFloat,
    h "turn_range" (by decide) _ blind_toFloat, h "move_range_small" (by decide) _ blind_toFloat,
    h "move_range_big" (by decide) _ blind_toFloat.toOption, h "move_rate" (by decide) _ blind_toFloat,
    h "turn_rate" (by decide) _ blind_toFloat, h "stop_tolerance" (by decide) _ blind_toFloat,
    h "walk_frequency" (by decide) _ blind_toFloat, h "walk_amplitude" (by decide) _ blind_toFloat]

theorem Bounds.ofEntries_congr (h : Agree names es fs) : ofEntries es = ofEntries fs := by
  unfold Bounds.ofEntries
  dsimp only
  rw [h "x_min" (by decide) _ blind_toFloat, h "x_max" (by decide) _ blind_toFloat,
    h "z_min" (by decide) _ blind_toFloat, h "z_max" (by decide) _ blind_toFloat,
    h "y_pelvis" (by decide) _ blind_toFloat]

theorem AssetsConfig.ofEntries_congr (h : Agree names es fs) : ofEntries es = ofEntries fs := by
  unfold AssetsConfig.ofEntries
  dsimp only
  rw [h "base_url" (by decide) _ blind_toText, h "bot_number" (by decide) _ (blind_toIntBetween 1 100).toOption]

theorem SimulationConfig.ofEntries_congr (h : Agree names es fs) : ofEntries es = ofEntries fs := by
  unfold SimulationConfig.ofEntries
  dsimp only
  rw [h "fps" (by decide) _ (blind_toRate 1000.0), h "duration_seconds" (by decide) _ (blind_toFloatFrom 0.0),
    h "realtime" (by decide) _ blind_toBool, h "seed" (by decide) _ blind_toInt.toOption]

end Fields

/-! ## Records -/

/-- **A thinned record keeps its fields**, each thinned by its own schema. -/
theorem rel_lookup_of_thins {fields : List (String × Schema)} {name : String} (hname : name ∈ fields.map Prod.fst) :
    ∀ {es fs : List (Data × Data)}, ThinsEntries Schema.Idle (.record fields) es fs →
      Option.Rel (Thins Schema.Idle ((fields.lookup name).getD .setting)) (lookup name es) (lookup name fs)
  | _, _, .nil _ => .none
  | _, _, .drop (k := k) (v := v) hgo h => by
    have hother (es : List (Data × Data)) : lookup name ((k, v) :: es) = lookup name es := by
      cases k with
      | text key =>
        have hne : (key == name) = false := by
          refine beq_eq_false_iff_ne.2 ?_
          rintro rfl
          exact hgo.1 key hname rfl
        rw [lookup_text_cons, hne]
        rfl
      | _ => rfl
    rw [hother]
    exact rel_lookup_of_thins hname h
  | _, _, .keep (k := k) (v := v) (w := w) hv h => by
    have hrest := rel_lookup_of_thins hname h
    cases k with
    | text key =>
      rw [lookup_text_cons, lookup_text_cons]
      by_cases hkey : key = name
      · subst hkey
        rw [beq_self_eq_true]
        exact .some hv
      · rw [beq_eq_false_iff_ne.2 hkey]
        exact hrest
    | _ => exact hrest

/-- A field of a thinned record is read alike if its reader does not see that its own value is thinned. -/
theorem rel_fieldOr_of_thins {β : Type} {S : β → β → Prop} {fields : List (String × Schema)}
    {es fs : List (Data × Data)} (h : ThinsEntries Schema.Idle (.record fields) es fs) (name : String)
    (hname : name ∈ fields.map Prod.fst) (default : β) (hdefault : S default default) {read : Data → Checked β}
    (hread : ∀ v w, Thins Schema.Idle ((fields.lookup name).getD .setting) v w → Checked.Rel S (read v) (read w)) :
    Checked.Rel S (fieldOr es name default read) (fieldOr fs name default read) :=
  rel_fieldOr (rel_lookup_of_thins hname h) hdefault hread

theorem lookup_settings {names : List String} {name : String} (h : name ∈ names) :
    (Schema.settings names).lookup name = some .setting := by
  induction names with
  | nil => cases h
  | cons first names ih =>
    rw [Schema.settings, List.map_cons, List.lookup_cons]
    by_cases hname : name = first
    · rw [hname, beq_self_eq_true]
    · rw [beq_eq_false_iff_ne.2 hname]
      exact ih ((List.mem_cons.1 h).resolve_left hname)

theorem map_fst_settings (names : List String) : (Schema.settings names).map Prod.fst = names := by
  rw [Schema.settings, List.map_map]
  exact List.map_id' names

theorem Thins.toModel_eq {β : Type} {names : List String} {read : List (Data × Data) → Checked β}
    (hread : ∀ es fs, Agree names es fs → read es = read fs) {v w : Data}
    (h : Thins Schema.Idle (.record (Schema.settings names)) v w) : toModel read v = toModel read w := by
  cases h with
  | refl => rfl
  | map h =>
    refine hread _ _ (agree_of_lookup (s := fun _ => .setting) fun name hname => ?_)
    have hfield := rel_lookup_of_thins ((map_fst_settings names).symm ▸ hname) h
    rwa [lookup_settings hname] at hfield

/-! ## Maps under texts -/

section Tables

variable {β γ : Type}

/-- **Named values of which some that are not listed are left out**; those that stay are related by name. -/
inductive Named (names : List String) (Q : String → β → γ → Prop) : List (String × β) → List (String × γ) → Prop
  | nil : Named names Q [] []
  | drop {name : String} {b : β} {bs : List (String × β)} {cs : List (String × γ)} (hname : name ∉ names)
    (h : Named names Q bs cs) : Named names Q ((name, b) :: bs) cs
  | keep {name : String} {b : β} {c : γ} {bs : List (String × β)} {cs : List (String × γ)} (hb : Q name b c)
    (h : Named names Q bs cs) : Named names Q ((name, b) :: bs) ((name, c) :: cs)

/-- **Named values that agree on the listed names.** -/
def Same (names : List String) (Q : String → β → γ → Prop) (bs : List (String × β)) (cs : List (String × γ)) : Prop :=
  ∀ name ∈ names, Option.Rel (Q name) (bs.lookup name) (cs.lookup name)

variable {names : List String} {Q : String → β → γ → Prop}

theorem Same.refl {Q : String → β → β → Prop} (hQ : ∀ name b, Q name b b) (bs : List (String × β)) :
    Same names Q bs bs := by
  intro name _
  cases bs.lookup name with
  | none => exact .none
  | some b => exact .some (hQ name b)

theorem Same.setEntry {bs : List (String × β)} {cs : List (String × γ)} (h : Same names Q bs cs) {name : String} {b : β}
    {c : γ} (hb : Q name b c) : Same names Q (setEntry name b bs) (setEntry name c cs) := by
  intro other hother
  rw [lookup_setEntry, lookup_setEntry]
  by_cases hname : other = name
  · rw [if_pos hname, if_pos hname, hname]
    exact .some hb
  · rw [if_neg hname, if_neg hname]
    exact h other hother

theorem Same.setEntry_left {bs : List (String × β)} {cs : List (String × γ)} (h : Same names Q bs cs) {name : String}
    (hname : name ∉ names) (b : β) : Same names Q (Data.setEntry name b bs) cs := by
  intro other hother
  have hne : other ≠ name := by
    rintro rfl
    exact hname hother
  rw [lookup_setEntry, if_neg hne]
  exact h other hother

/-- The entries of a map come one after the other, and of those under one name the last counts. -/
theorem Named.same {bs : List (String × β)} {cs : List (String × γ)} (h : Named names Q bs cs) :
    ∀ {known : List (String × β)} {known' : List (String × γ)}, Same names Q known known' →
      Same names Q (bs.foldl (fun known (k, v) => Data.setEntry k v known) known)
        (cs.foldl (fun known (k, v) => Data.setEntry k v known) known') := by
  induction h with
  | nil => exact fun hknown => hknown
  | drop hname _ ih => exact fun hknown => ih (hknown.setEntry_left hname _)
  | keep hb _ ih => exact fun hknown => ih (hknown.setEntry hb)

variable {read : Data → Checked β} {read' : Data → Checked γ} {fields : List (String × Schema)} {other : Schema}

theorem rel_textEntries (hfit : ∀ v, other.Fits v → ∃ b, read v = .accepted b)
    (hread : ∀ k v w, Thins Schema.Idle ((Schema.table fields other).under k) v w →
      Checked.Rel (fun b c => ∀ name, k.toText = .accepted name → Q name b c) (read v) (read' w)) :
    ∀ {es fs : List (Data × Data)}, ThinsEntries Schema.Idle (.table fields other) es fs →
      Checked.Rel (Named (fields.map Prod.fst) Q) (Checked.textEntries read es) (Checked.textEntries read' fs)
  | _, _, .nil _ => .accepted .nil
  | _, _, .drop (k := k) (v := v) hgo h => by
    obtain ⟨hundeclared, ⟨name, hk⟩, hv⟩ := hgo
    obtain ⟨b, hb⟩ := hfit v hv
    have hrest := rel_textEntries hfit hread h
    rw [Checked.textEntries, hk, hb]
    generalize Checked.textEntries read _ = named at hrest ⊢
    generalize Checked.textEntries read' _ = named' at hrest ⊢
    cases hrest with
    | accepted hrest => exact .accepted (.drop (fun hname => hundeclared name hname hk) hrest)
    | rejected issues => exact .rejected issues
  | _, _, .keep (k := k) (v := v) (w := w) hv h => by
    have hrest := rel_textEntries hfit hread h
    have hvalue := (hread k v w hv).under (Place.ofKey k)
    -- Key, value and rest may each be refused; the issues of both sides then come in the same order.
    rw [Checked.textEntries, Checked.textEntries]
    refine Checked.Rel.field (R := Named (fields.map Prod.fst) Q) (Checked.Rel.field (Checked.Rel.field
      (R := fun a b => a = b ∧ k.toText = .accepted a) (.accepted ?_) ?_) hvalue) hrest
    · rintro name _ ⟨rfl, hk⟩ b c hb bs cs hbs
      exact .keep (hb name hk) hbs
    · cases k.toText with
      | accepted name => exact .accepted ⟨rfl, rfl⟩
      | rejected issues => exact .rejected _

/-- **A map under texts agrees on its declared names** when it is thinned. -/
theorem Thins.rel_toTextMap {es fs : List (Data × Data)} (h : ThinsEntries Schema.Idle (.table fields other) es fs)
    (hfit : ∀ v, other.Fits v → ∃ b, read v = .accepted b)
    (hread : ∀ k v w, Thins Schema.Idle ((Schema.table fields other).under k) v w →
      Checked.Rel (fun b c => ∀ name, k.toText = .accepted name → Q name b c) (read v) (read' w)) :
    Checked.Rel (Same (fields.map Prod.fst) Q) (toTextMap read (.map es)) (toTextMap read' (.map fs)) := by
  have hentries := rel_textEntries hfit hread h
  unfold toTextMap
  dsimp only
  generalize Checked.textEntries read es = named at hentries ⊢
  generalize Checked.textEntries read' fs = named' at hentries ⊢
  cases hentries with
  | accepted h => exact .accepted (h.same fun name hname => .none)
  | rejected issues => exact .rejected issues

end Tables

/-! ## Sections of behaviours -/

theorem lookup_map_snd {β γ : Type} (f : β → γ) (name : String) (bs : List (String × β)) :
    (bs.map fun e => (e.1, f e.2)).lookup name = (bs.lookup name).map f := by
  induction bs with
  | nil => rfl
  | cons e bs ih =>
    rw [List.map_cons, List.lookup_cons, List.lookup_cons]
    cases name == e.1 with
    | true => rfl
    | false => exact ih

theorem lookup_named (name : String) (bs : List (String × Data)) :
    lookup name (bs.map fun (k, v) => (.text k, v)) = bs.lookup name := by
  induction bs with
  | nil => rfl
  | cons e bs ih =>
    rw [List.map_cons, lookup_text_cons, List.lookup_cons, BEq.comm]
    cases name == e.1 with
    | true => rfl
    | false => exact ih

theorem lookup_of_notMem {β : Type} {name : String} {bs : List (String × β)} (h : name ∉ bs.map Prod.fst) :
    bs.lookup name = none := by
  refine List.lookup_eq_none_iff.2 fun e he => ?_
  rw [bne_iff_ne]
  rintro rfl
  exact h (List.mem_map_of_mem he)

theorem under_part (names : List String) (k : Data) : (Schema.part names).under k = .setting := by
  rw [Schema.part, Schema.under]
  cases k.toText with
  | rejected issues => rfl
  | accepted name =>
    change ((Schema.settings names).lookup name).getD .setting = .setting
    by_cases hname : name ∈ names
    · rw [lookup_settings hname, Option.getD_some]
    · rw [lookup_of_notMem ((map_fst_settings names).symm ▸ hname), Option.getD_none]

/-- The entries of a section that stay under its declared names. -/
abbrev SamePart (names : List String) : List (String × Data) → List (String × Data) → Prop :=
  Same names fun _ => Thins Schema.Idle .setting

theorem SamePart.refl (names : List String) (bs : List (String × Data)) : SamePart names bs bs :=
  Same.refl (fun _ => Thins.refl .setting) bs

theorem Thins.rel_part {names : List String} {v w : Data} (h : Thins Schema.Idle (.part names) v w) :
    Checked.Rel (SamePart names) (v.toTextMap .accepted) (w.toTextMap .accepted) := by
  cases h with
  | refl => exact .refl (SamePart.refl names) _
  | map h =>
    have hmap : Checked.Rel (Same ((Schema.settings names).map Prod.fst) fun _ => Thins Schema.Idle .setting)
        (toTextMap .accepted (.map _)) (toTextMap .accepted (.map _)) :=
      Thins.rel_toTextMap h (fun v _ => ⟨v, rfl⟩) fun k v w hvw => .accepted fun _ _ => under_part names k ▸ hvw
    rwa [map_fst_settings] at hmap

theorem under_sections {k : Data} {name : String} (hk : k.toText = .accepted name) :
    Schema.sections.under k = .part ((Settings.parts.lookup name).getD []) := by
  rw [Schema.sections, Schema.under, hk]
  dsimp only
  rw [lookup_map_snd]
  cases Settings.parts.lookup name with
  | none => rfl
  | some names => rfl

abbrev SameSections : List (String × List (String × Data)) → List (String × List (String × Data)) → Prop :=
  Same Settings.sectionNames fun name => SamePart ((Settings.parts.lookup name).getD [])

theorem Thins.rel_section {k v w : Data} (h : Thins Schema.Idle (Schema.sections.under k) v w) :
    Checked.Rel (fun b c => ∀ name, k.toText = .accepted name → SamePart ((Settings.parts.lookup name).getD []) b c)
      (v.toTextMap .accepted) (w.toTextMap .accepted) := by
  cases hk : k.toText with
  | accepted name =>
    rw [under_sections hk] at h
    refine h.rel_part.imp fun b c hbc other hother => ?_
    cases hother
    exact hbc
  | rejected issues =>
    -- A key that spells no text is refused, so that nothing is left to say about its value.
    have hpart : Schema.sections.under k = .part [] := by
      rw [Schema.sections, Schema.under, hk]
    rw [hpart] at h
    exact h.rel_part.imp fun _ _ _ _ hother => nomatch hother

theorem Thins.rel_sections {v w : Data} (h : Thins Schema.Idle .sections v w) :
    Checked.Rel SameSections (v.toTextMap (toTextMap .accepted)) (w.toTextMap (toTextMap .accepted)) := by
  cases h with
  | refl => exact .refl (Same.refl fun name => SamePart.refl _) _
  | map h => exact Thins.rel_toTextMap h (fun _ hv => hv) fun _ _ _ => Thins.rel_section

theorem SamePart.read_eq {β : Type} {names : List String} {read : List (Data × Data) → Checked β}
    (hread : ∀ es fs, Agree names es fs → read es = read fs) {bs cs : List (String × Data)} (h : SamePart names bs cs) :
    toRecord read (object bs) = toRecord read (object cs) := by
  refine hread _ _ (agree_of_lookup (s := fun _ => .setting) fun name hname => ?_)
  rw [lookup_named, lookup_named]
  exact h name hname

theorem SameSections.ofEntries_eq {bs cs : List (String × List (String × Data))} (h : SameSections bs cs) :
    Settings.ofEntries (bs.map fun (k, s) => (.text k, .object s)) =
      Settings.ofEntries (cs.map fun (k, s) => (.text k, .object s)) := by
  have hsection : ∀ name ∈ Settings.sectionNames, ∀ {β : Type} (default : β) {read : List (Data × Data) → Checked β},
      (∀ es fs, Agree ((Settings.parts.lookup name).getD []) es fs → read es = read fs) →
      fieldOr (bs.map fun (k, s) => (.text k, .object s)) name default (toRecord read) =
        fieldOr (cs.map fun (k, s) => (.text k, .object s)) name default (toRecord read) := by
    intro name hname β default read hread
    have hlookup (bs : List (String × List (String × Data))) :
        lookup name (bs.map fun (k, s) => (.text k, .object s)) = (bs.lookup name).map object := by
      rw [← lookup_map_snd object, ← lookup_named, List.map_map]
      rfl
    refine Checked.Rel.eq (rel_fieldOr (R := fun v w => toRecord read v = toRecord read w) ?_ rfl fun v w hvw => ?_)
    · rw [hlookup, hlookup]
      have hnamed := h name hname
      generalize bs.lookup name = found at hnamed ⊢
      generalize cs.lookup name = found' at hnamed ⊢
      cases hnamed with
      | none => exact .none
      | some hpart => exact .some (hpart.read_eq hread)
    · rw [hvw]
      exact .refl (fun _ => rfl) _
  unfold Settings.ofEntries
  dsimp only
  rw [hsection "view" (by decide) _ fun _ _ => ViewSettings.ofEntries_congr,
    hsection "wave" (by decide) _ fun _ _ => WaveSettings.ofEntries_congr,
    hsection "sound" (by decide) _ fun _ _ => SoundSettings.ofEntries_congr,
    hsection "head" (by decide) _ fun _ _ => HeadSettings.ofEntries_congr,
    hsection "walk" (by decide) _ fun _ _ => WalkSettings.ofEntries_congr]

/-- The settings that the sections give together do not tell whether idle entries are there. -/
theorem Thins.rel_sectionsOfData {v w : Data} (h : Thins Schema.Idle .sections v w) :
    Checked.Rel (fun b c => b.2 = c.2) (sectionsOfData v) (sectionsOfData w) := by
  refine h.rel_sections.andThen fun b c hbc => ?_
  dsimp only
  rw [SameSections.ofEntries_eq hbc]
  cases Settings.ofEntries (c.map fun (k, s) => (.text k, .object s)) with
  | accepted settings => exact .accepted rfl
  | rejected issues => exact .rejected _

/-! ## What is asked of all entries -/

/-- In a map under texts that is accepted every key spells a text and every value is accepted. -/
theorem of_mem_textEntries {β : Type} {read : Data → Checked β} :
    ∀ {es : List (Data × Data)} {named : List (String × β)}, Checked.textEntries read es = .accepted named →
      ∀ e ∈ es, (∃ name, e.1.toText = .accepted name) ∧ ∃ b, read e.2 = .accepted b
  | [], _, _, _, he => nomatch he
  | (k, v) :: es, named, h, e, he => by
    rw [Checked.textEntries] at h
    simp only [Checked.field_eq_accepted_iff, Checked.under_eq_accepted_iff] at h
    obtain ⟨_, rest, ⟨_, b, ⟨_, name, -, hname, -⟩, hb, -⟩, hrest, -⟩ := h
    rcases List.mem_cons.1 he with rfl | he
    · exact ⟨⟨name, hname⟩, b, hb⟩
    · exact of_mem_textEntries hrest e he

theorem of_mem_toTextMap {β : Type} {read : Data → Checked β} {es : List (Data × Data)} {named : List (String × β)}
    (h : toTextMap read (.map es) = .accepted named) :
    ∀ e ∈ es, (∃ name, e.1.toText = .accepted name) ∧ ∃ b, read e.2 = .accepted b := by
  unfold toTextMap at h
  dsimp only at h
  cases hentries : Checked.textEntries read es with
  | accepted entries => exact of_mem_textEntries hentries
  | rejected issues =>
    rw [hentries] at h
    cases h

theorem proper_of_sectionsOfData {es : List (Data × Data)} {b : List String × Settings Float}
    (h : sectionsOfData (.map es) = .accepted b) {k v : Data} (hmem : (k, v) ∈ es) : Schema.sections.Proper k v := by
  obtain ⟨sections, hsections, -⟩ := (Checked.andThen_eq_accepted_iff _ _ _).1 h
  exact of_mem_toTextMap hsections (k, v) hmem

/-! ## The configuration -/

namespace BotConfig

/-- **Configurations with the same values.** The list of the sections that were given is no value. -/
def Alike (b c : BotConfig Float) : Prop :=
  b.version = c.version ∧ b.spawn = c.spawn ∧ b.assets = c.assets ∧ b.simulation = c.simulation ∧
    b.settings = c.settings

theorem Alike.refl (c : BotConfig Float) : Alike c c := ⟨rfl, rfl, rfl, rfl, rfl⟩

theorem rel_ofData_of_thins {d e : Data} (h : Thins Schema.Idle schema d e) :
    Checked.Rel Alike (ofData d) (ofData e) := by
  cases h with
  | refl => exact .refl Alike.refl _
  | map h =>
    have hversion := rel_fieldOr_of_thins (S := Eq) h "version" (by decide) "1.0" rfl fun v w hvw =>
      .of_eq (hvw.read_eq blind_version)
    have hspawn := rel_fieldOr_of_thins (S := Eq) h "spawn" (by decide) .standard rfl fun v w hvw =>
      .of_eq (hvw.toModel_eq fun _ _ => Bounds.ofEntries_congr)
    have hassets := rel_fieldOr_of_thins (S := Eq) h "assets" (by decide) .standard rfl fun v w hvw =>
      .of_eq (hvw.toModel_eq fun _ _ => AssetsConfig.ofEntries_congr)
    have hsimulation := rel_fieldOr_of_thins (S := Eq) h "simulation" (by decide) .standard rfl fun v w hvw =>
      .of_eq (hvw.toModel_eq fun _ _ => SimulationConfig.ofEntries_congr)
    have hbehaviors := rel_fieldOr_of_thins (S := fun b c : List String × Settings Float => b.2 = c.2) h "behaviors"
      (by decide) ([], .standard) rfl fun v w => Thins.rel_sectionsOfData
    refine .field (.field (.field (.field (.field (.accepted ?_) hversion) hspawn) hassets) hsimulation) hbehaviors
    rintro version _ rfl spawn _ rfl assets _ rfl simulation _ rfl b c hsettings
    exact ⟨rfl, rfl, rfl, rfl, hsettings⟩

/-- Behaviours with an entry that is not of the form that is asked of all are refused. -/
theorem ofData_of_not_proper {es bs : List (Data × Data)} (hbehaviors : lookup "behaviors" es = some (.map bs))
    {k v : Data} (hmem : (k, v) ∈ bs) (hproper : ¬ Schema.sections.Proper k v) :
    ∃ issues, ofData (.map es) = .rejected issues := by
  cases hconfig : ofData (.map es) with
  | rejected issues => exact ⟨issues, rfl⟩
  | accepted c =>
    obtain ⟨-, -, -, -, hsections⟩ := (ofEntries_eq_accepted_iff es c).1 hconfig
    unfold fieldOr at hsections
    rw [hbehaviors] at hsections
    exact absurd (proper_of_sectionsOfData ((Checked.under_eq_accepted_iff _ _ _).1 hsections) hmem) hproper

/-- **Idle entries do not count.** A tree without some of them is read as before: the same values are accepted, or
issues of the same kinds, places and messages are told; the values that they quote are left out.  An entry of the
behaviours that is not of the form that is asked of all, declared or not, is never idle: the tree is refused. -/
theorem ofData_of_thins {d e : Data} (h : Thins Schema.Idle schema d e) :
    Checked.Rel Alike (ofData d) (ofData e) ∧
      ∀ es bs, d = .map es → lookup "behaviors" es = some (.map bs) → ∀ k v, (k, v) ∈ bs →
        ¬ Schema.sections.Proper k v → ∃ issues, ofData d = .rejected issues := by
  refine ⟨rel_ofData_of_thins h, ?_⟩
  rintro es bs rfl hbehaviors k v hmem hproper
  exact ofData_of_not_proper hbehaviors hmem hproper

/-- A tree with a further entry at every level. -/
def verbose : Data :=
  .object [("author", .int 7), ("spawn", .object [("x_min", .int 21), ("colour", .null)]),
    ("behaviors", .object [
      ("dance", .object [("chance", .int 1)]), ("view", .object [("interval", .int 1), ("voxel_fps", .int 30)])])]

def concise : Data :=
  .object [("spawn", .object [("x_min", .int 21)]), ("behaviors", .object [("view", .object [("voxel_fps", .int 30)])])]

theorem ofData_of_thins_verbose :
    Thins Schema.Idle schema verbose concise ∧ (∃ c, ofData verbose = .accepted c) ∧
      Checked.Rel Alike (ofData verbose) (ofData concise) := by
  have hauthor : schema.Idle (.text "author") (.int 7) := ⟨Schema.undeclared_text (by decide), trivial⟩
  have hcolour : (schema.under (.text "spawn")).Idle (.text "colour") .null :=
    ⟨Schema.undeclared_text (by decide), trivial⟩
  have hinterval : (Schema.sections.under (.text "view")).Idle (.text "interval") (.int 1) :=
    ⟨Schema.undeclared_text (by decide), ⟨_, rfl⟩, trivial⟩
  have hdance : Schema.sections.Idle (.text "dance") (.object [("chance", .int 1)]) :=
    ⟨Schema.undeclared_text (by decide), ⟨_, rfl⟩, _, rfl⟩
  have hspawn : Thins Schema.Idle (schema.under (.text "spawn")) (.object [("x_min", .int 21), ("colour", .null)])
      (.object [("x_min", .int 21)]) :=
    .map (.keep (.refl _ _) (.drop hcolour (.nil _)))
  have hview : Thins Schema.Idle (Schema.sections.under (.text "view"))
      (.object [("interval", .int 1), ("voxel_fps", .int 30)]) (.object [("voxel_fps", .int 30)]) :=
    .map (.drop hinterval (.keep (.refl _ _) (.nil _)))
  have hthins : Thins Schema.Idle schema verbose concise :=
    .map (.drop hauthor (.keep hspawn (.keep (.map (.drop hdance (.keep hview (.nil _)))) (.nil _))))
  exact ⟨hthins, ⟨_, rfl⟩, (ofData_of_thins hthins).1⟩

/-- Not all that is not declared is idle: a number that stands where a section does is refused under any name. -/
theorem ofData_of_undeclared_section :
    ¬ ∀ d e, Thins (fun s k _ => s.Undeclared k) schema d e → Checked.Rel Alike (ofData d) (ofData e) := by
  intro h
  have hundeclared : Schema.sections.Undeclared (.text "dance") := Schema.undeclared_text (by decide)
  have hdance := h (.object [("behaviors", .object [("dance", .int 5)])]) (.object [("behaviors", .object [])])
    (.map (.keep (.map (.drop hundeclared (.nil _))) (.nil _)))
  cases hdance

end BotConfig

end Bystander
