import Mathlib
import Bystander.Config.Load
/-! # How a load ends

Which file decides depends on the paths and on what lies at them, never on what a file holds (`Decides`).  What is in
the file that decides is a configuration or is refused with its path, as long as it is of the kind that a load is
prepared for (`Foreseen`).  A path that no file can have, bytes that are no text, and a value that has the form of its
kind and is none of it are not refused: they escape as they are.

Of two further things nothing is said.  A parser that limits how deeply a document is nested gives up beyond its limit,
and that escapes as well; here there is no limit.  And a text is decoded as a whole before any of it is parsed.  Where
it is decoded piece by piece, a malformed line that stands far enough before the first bad byte is met first, and the
file is refused with its path.
-/
namespace Bystander

/-! ## Characters of a path -/

namespace Text

/-- The pieces of a text have its characters, but for the marks. -/
theorem mem_pieces {mark c : Char} (hc : c ≠ mark) (cs : List Char) : (∃ p ∈ pieces mark cs, c ∈ p) ↔ c ∈ cs := by
  induction cs with
  | nil => simp [pieces]
  | cons d cs ih =>
    rw [pieces, List.foldr_cons, ← pieces, List.mem_cons, ← ih]
    cases hp : pieces mark cs with
    | nil => exact absurd hp (pieces_ne_nil mark cs)
    | cons head rest =>
      dsimp only
      by_cases hd : d = mark
      · rw [if_pos (beq_iff_eq.2 hd)]
        have hcd : c ≠ d := fun h => hc (h.trans hd)
        simp [hcd]
      · rw [if_neg (by rwa [beq_iff_eq])]
        simp [or_assoc]

end Text

namespace Path

theorem mem_intercalate {c : Char} (hc : c ≠ '/') (steps : List String) :
    c ∈ (String.intercalate "/" steps).toList ↔ ∃ step ∈ steps, c ∈ step.toList := by
  rw [String.toList_intercalate]
  induction steps with
  | nil => simp
  | cons step steps ih =>
    cases steps with
    | nil => simp
    | cons next steps =>
      rw [List.map_cons, List.map_cons, List.intercalate_cons_cons, ← List.map_cons, List.mem_append, List.mem_append,
        ih]
      simp [hc]

/-- The steps of a path have its characters, but for slashes and points. -/
theorem mem_steps {c : Char} (hslash : c ≠ '/') (hpoint : c ≠ '.') (path : String) :
    (∃ step ∈ steps path, c ∈ step.toList) ↔ c ∈ path.toList := by
  rw [← Text.mem_pieces hslash path.toList, steps]
  constructor
  · rintro ⟨step, hstep, hc⟩
    obtain ⟨p, hp, rfl⟩ := List.mem_map.1 hstep
    exact ⟨p, (List.mem_filter.1 hp).1, by rwa [String.toList_ofList] at hc⟩
  · rintro ⟨p, hp, hc⟩
    refine ⟨String.ofList p, List.mem_map_of_mem (List.mem_filter.2 ⟨hp, ?_⟩), by rwa [String.toList_ofList]⟩
    have hempty : p.isEmpty = false := List.isEmpty_eq_false_iff.2 (List.ne_nil_of_mem hc)
    have hstay : p ≠ ['.'] := by
      rintro rfl
      exact hpoint (List.mem_singleton.1 hc)
    rw [hempty, Bool.not_false, Bool.true_and, decide_eq_true_eq]
    exact hstay

/-- A path in its plain form has the characters of the path, but for slashes and points. -/
theorem mem_normalize {c : Char} (hslash : c ≠ '/') (hpoint : c ≠ '.') (path : String) :
    c ∈ (normalize path).toList ↔ c ∈ path.toList := by
  have hroot : c ∉ (root path).toList := by
    unfold root
    split <;> simp [hslash]
  have htext : c ∈ (root path ++ String.intercalate "/" (steps path)).toList ↔ c ∈ path.toList := by
    rw [String.toList_append, List.mem_append, mem_intercalate hslash, mem_steps hslash hpoint]
    exact or_iff_right hroot
  unfold normalize
  dsimp only
  split
  · next hempty =>
    rw [String.isEmpty_iff.1 hempty] at htext
    rw [← htext]
    simp [hpoint]
  · exact htext

end Path

/-! ## Which path decides -/

namespace Files

variable (files : Files)

theorem has_of_error {path : String} {obstacle : Obstacle} (h : files.has path = .error obstacle) :
    obstacle = .nameTooLong := by
  unfold has at h
  split at h <;> cases h
  rfl

theorem walk_ne_nullCharacter (done steps : List String) : files.walk done steps ≠ .error .nullCharacter := by
  fun_induction walk files done steps with
  | case4 done step rest next _ _ hnext ih => exact ih
  | _ => nofun

theorem locate_eq_nullCharacter_iff (path : String) :
    files.locate path = .error .nullCharacter ↔ '\x00' ∈ path.toList := by
  rw [← List.contains_iff_mem]
  unfold locate
  split
  · next hnull => exact iff_of_true rfl hnull
  · next hnull =>
    refine iff_of_false ?_ hnull
    split
    · nofun
    · exact files.walk_ne_nullCharacter _ _

theorem read_of_locate {path : String} {steps : List String} (h : files.locate path = .ok steps) :
    files.read path =
      match files.content? steps with
      | some (.file bytes) => .ok bytes
      | some .folder => .error .isFolder
      | none => .error .missing := by
  unfold read find
  rw [h]
  dsimp only [bind, Except.bind]
  cases files.content? steps with
  | none => rfl
  | some content => cases content <;> rfl

/-- Only a path with a character that no path can hold is refused for it. -/
theorem read_eq_nullCharacter_iff (path : String) :
    files.read path = .error .nullCharacter ↔ '\x00' ∈ path.toList := by
  rw [← files.locate_eq_nullCharacter_iff]
  cases hlocate : files.locate path with
  | error obstacle =>
    have hread : files.read path = .error obstacle := by
      unfold read find
      rw [hlocate]
      rfl
    rw [hread]
    exact ⟨fun h => congrArg _ (Except.error.inj h), fun h => congrArg _ (Except.error.inj h)⟩
  | ok steps =>
    rw [files.read_of_locate hlocate]
    refine iff_of_false ?_ nofun
    split <;> nofun

theorem first?_append {before : List String} (hbefore : ∀ p ∈ before, files.has p = .ok false) (rest : List String) :
    files.first? (before ++ rest) = files.first? rest := by
  induction before with
  | nil => rfl
  | cons path before ih =>
    rw [List.cons_append, first?, hbefore path List.mem_cons_self]
    exact ih fun p hp => hbefore p (List.mem_cons_of_mem path hp)

/-- At no path anything lies, or there is a first one of which this cannot be said. -/
theorem nowhere_or_first (paths : List String) :
    (∀ p ∈ paths, files.has p = .ok false) ∨
      ∃ before path after, paths = before ++ path :: after ∧ (∀ p ∈ before, files.has p = .ok false) ∧
        files.has path ≠ .ok false := by
  induction paths with
  | nil => exact .inl nofun
  | cons path paths ih =>
    by_cases hpath : files.has path = .ok false
    · rcases ih with hnone | ⟨before, first, after, rfl, hbefore, hfirst⟩
      · exact .inl (List.forall_mem_cons.2 ⟨hpath, hnone⟩)
      · exact .inr ⟨path :: before, first, after, rfl, List.forall_mem_cons.2 ⟨hpath, hbefore⟩, hfirst⟩
    · exact .inr ⟨[], path, paths, rfl, nofun, hpath⟩

end Files

/-- **Which path decides**: the one that is given, else the first of the default paths at which anything lies. -/
inductive Decides (files : Files) (defaults : List String) : Option String → Option String → Prop
  | given (path : String) : Decides files defaults (some path) (some path)
  | found {before after : List String} {path : String} (hdefaults : defaults = before ++ path :: after)
    (hbefore : ∀ p ∈ before, files.has p = .ok false) (hpath : files.has path = .ok true) :
    Decides files defaults none (some path)
  | none (hdefaults : ∀ p ∈ defaults, files.has p = .ok false) : Decides files defaults none none

/-- The first default path at which something may lie cannot be asked for: it is too long. -/
def Unsearchable (files : Files) (defaults : List String) : Prop :=
  ∃ before path after, defaults = before ++ path :: after ∧ (∀ p ∈ before, files.has p = .ok false) ∧
    files.has path = .error .nameTooLong

theorem decides_or_unsearchable (files : Files) (given : Option String) (defaults : List String) :
    (∃ decided, Decides files defaults given decided) ∨ given = none ∧ Unsearchable files defaults := by
  cases given with
  | some path => exact .inl ⟨_, .given path⟩
  | none =>
    rcases files.nowhere_or_first defaults with hnone | ⟨before, path, after, hdefaults, hbefore, hpath⟩
    · exact .inl ⟨_, .none hnone⟩
    · cases hhas : files.has path with
      | error obstacle =>
        obtain rfl := files.has_of_error hhas
        exact .inr ⟨rfl, before, path, after, hdefaults, hbefore, hhas⟩
      | ok there =>
        cases there with
        | true => exact .inl ⟨_, .found hdefaults hbefore hhas⟩
        | false => exact absurd hhas hpath

/-! ## What a load ends with -/

variable (document : List Char → Except Yaml.Trouble Data) (files : Files)

/-- **What a load is prepared for**, where nesting has no limit: a path that a file can have, bytes that are a text, and
values that are what they have the form of. -/
def Foreseen (path : String) : Prop :=
  '\x00' ∉ path.toList ∧ ∀ bytes, files.read (Path.normalize path) = .ok bytes →
    ∃ chars, Text.decode bytes = .ok chars ∧ ∀ bad, document (Text.plainBreaks chars) ≠ .error (.value bad)

/-- **What a load of one file ends with.** -/
inductive Outcome (path : String) : Except LoadError (BotConfig Float) → Prop
  /-- The file holds a document that is accepted. -/
  | accepted {bytes : List UInt8} {chars : List Char} {data : Data} {config : BotConfig Float}
    (hread : files.read (Path.normalize path) = .ok bytes) (hdecode : Text.decode bytes = .ok chars)
    (hdocument : document (Text.plainBreaks chars) = .ok data)
    (hconfig : BotConfig.ofData (if data.isVoid then .map [] else data) = .accepted config) :
    Outcome path (.ok config)
  /-- The file is refused with its path. -/
  | refused {e : LoadError} {message : String} (hforeseen : Foreseen document files path)
    (hreport : e.report = .configuration (Path.normalize path) message) : Outcome path (.error e)
  /-- The file is not of the kind that a load is prepared for.  A bad byte counts wherever it stands, since decoding
  comes before parsing. -/
  | escaped {e : LoadError} (hforeseen : ¬ Foreseen document files path) (hreport : e.report.isOwn = false) :
    Outcome path (.error e)

theorem Yaml.BadValue.isOwn_report (bad : BadValue) : bad.report.isOwn = false := by
  cases bad <;> rfl

theorem Yaml.Trouble.report_of_ne_value {t : Trouble} (h : ¬ ∃ bad, t = .value bad) (path : String) :
    ∃ message, t.report path = .configuration path message := by
  cases t with
  | value bad => exact absurd ⟨bad, rfl⟩ h
  | _ => exact ⟨_, rfl⟩

namespace BotConfig

theorem ofFile_of_error {path : String} {obstacle : Obstacle}
    (hread : files.read (Path.normalize path) = .error obstacle) :
    ofFile document files path = .error (.unreadable (Path.normalize path) obstacle) := by
  unfold ofFile
  dsimp only
  rw [hread]
  rfl

theorem ofFile_of_ok {path : String} {bytes : List UInt8} (hread : files.read (Path.normalize path) = .ok bytes) :
    ofFile document files path = ofBytes document (Path.normalize path) bytes := by
  unfold ofFile
  dsimp only
  rw [hread]
  rfl

theorem ofBytes_of_flaw {bytes : List UInt8} {flaw : Text.Flaw} (hdecode : Text.decode bytes = .error flaw)
    (path : String) : ofBytes document path bytes = .error (.undecodable path flaw.inPieces) := by
  unfold ofBytes
  rw [hdecode]
  rfl

theorem ofBytes_of_trouble {bytes : List UInt8} {chars : List Char} {trouble : Yaml.Trouble}
    (hdecode : Text.decode bytes = .ok chars) (hdocument : document (Text.plainBreaks chars) = .error trouble)
    (path : String) : ofBytes document path bytes = .error (.unparsable path trouble) := by
  unfold ofBytes
  rw [hdecode]
  dsimp only [Except.mapError, bind, Except.bind]
  rw [hdocument]

theorem ofBytes_of_data {bytes : List UInt8} {chars : List Char} {data : Data}
    (hdecode : Text.decode bytes = .ok chars) (hdocument : document (Text.plainBreaks chars) = .ok data)
    (path : String) : ofBytes document path bytes =
      match ofData (if data.isVoid then .map [] else data) with
      | .accepted config => .ok config
      | .rejected issues => .error (.invalid path issues) := by
  unfold ofBytes
  rw [hdecode]
  dsimp only [Except.mapError, bind, Except.bind]
  rw [hdocument]
  rfl

theorem ofBytes_outcome {path : String} {bytes : List UInt8} (hread : files.read (Path.normalize path) = .ok bytes)
    (hpath : '\x00' ∉ path.toList) :
    Outcome document files path (ofBytes document (Path.normalize path) bytes) := by
  -- The bytes are known, so what is foreseen is a matter of the text alone.
  have hforeseen : Foreseen document files path ↔
      ∃ chars, Text.decode bytes = .ok chars ∧ ∀ bad, document (Text.plainBreaks chars) ≠ .error (.value bad) := by
    refine ⟨fun h => h.2 bytes hread, fun h => ⟨hpath, fun _ hbytes => ?_⟩⟩
    cases hread.symm.trans hbytes
    exact h
  cases hdecode : Text.decode bytes with
  | error flaw =>
    rw [ofBytes_of_flaw document hdecode]
    refine .escaped (fun h => ?_) rfl
    obtain ⟨chars, hchars, -⟩ := hforeseen.1 h
    cases hdecode.symm.trans hchars
  | ok chars =>
    cases hdocument : document (Text.plainBreaks chars) with
    | error trouble =>
      rw [ofBytes_of_trouble document hdecode hdocument]
      by_cases hbad : ∃ bad, trouble = .value bad
      · obtain ⟨bad, rfl⟩ := hbad
        refine .escaped (fun h => ?_) bad.isOwn_report
        obtain ⟨_, hchars, hvalue⟩ := hforeseen.1 h
        cases hdecode.symm.trans hchars
        exact hvalue bad hdocument
      · obtain ⟨message, hmessage⟩ := trouble.report_of_ne_value hbad (Path.normalize path)
        refine .refused (hforeseen.2 ⟨chars, hdecode, fun bad h => hbad ⟨bad, ?_⟩⟩) hmessage
        exact Except.error.inj (hdocument.symm.trans h)
    | ok data =>
      have hprepared : Foreseen document files path :=
        hforeseen.2 ⟨chars, hdecode, fun bad h => nomatch hdocument.symm.trans h⟩
      rw [ofBytes_of_data document hdecode hdocument]
      cases hconfig : ofData (if data.isVoid then .map [] else data) with
      | accepted config => exact .accepted hread hdecode hdocument hconfig
      | rejected issues => exact .refused hprepared rfl

theorem ofFile_outcome (path : String) : Outcome document files path (ofFile document files path) := by
  have hnull : files.read (Path.normalize path) = .error .nullCharacter ↔ '\x00' ∈ path.toList := by
    rw [Files.read_eq_nullCharacter_iff, Path.mem_normalize (by decide) (by decide)]
  cases hread : files.read (Path.normalize path) with
  | ok bytes =>
    rw [ofFile_of_ok document files hread]
    exact ofBytes_outcome document files hread fun hmem => nomatch hread.symm.trans (hnull.2 hmem)
  | error obstacle =>
    rw [ofFile_of_error document files hread]
    by_cases hobstacle : obstacle = .nullCharacter
    · subst hobstacle
      exact .escaped (fun hforeseen => hforeseen.1 (hnull.1 hread)) rfl
    · have hpath : '\x00' ∉ path.toList := fun hmem =>
        hobstacle (Except.error.inj (hread.symm.trans (hnull.2 hmem)))
      exact .refused ⟨hpath, fun bytes hbytes => nomatch hread.symm.trans hbytes⟩ (if_neg hobstacle)

/-- **A load fails only as declared, if its file is of a kind that is foreseen.**  One file, decoded as a whole and then
parsed by any parser, ends in one of the three ways.  The path that
decides is read and no other; where none decides the standard configuration is taken, which is as accepted as any.  One
path decides, unless the search for it ends at a path that is too long. -/
theorem loadBy_outcome (given : Option String) (defaults : List String) :
    (∀ path, Outcome document files path (ofFile document files path)) ∧
      (∀ path, Decides files defaults given (some path) →
        loadBy document files given defaults = ofFile document files path) ∧
      (Decides files defaults given none →
        loadBy document files given defaults = .ok .standard ∧ ofData (.map []) = .accepted .standard) ∧
      ((∃ decided, Decides files defaults given decided) ∨
        given = none ∧ Unsearchable files defaults ∧
          ∃ e, loadBy document files given defaults = .error e ∧ e.report.isOwn = false) := by
  refine ⟨ofFile_outcome document files, fun path hpath => ?_, fun hnone => ?_, ?_⟩
  · cases hpath with
    | given => rfl
    | found hdefaults hbefore hpath =>
      rw [loadBy, hdefaults, files.first?_append hbefore, Files.first?, hpath]
  · cases hnone with
    | none hdefaults =>
      have hfirst := files.first?_append hdefaults []
      rw [List.append_nil] at hfirst
      rw [loadBy, hfirst]
      exact ⟨rfl, rfl⟩
  · rcases decides_or_unsearchable files given defaults with hdecides | ⟨rfl, hlong⟩
    · exact .inl hdecides
    · refine .inr ⟨rfl, hlong, ?_⟩
      obtain ⟨before, path, after, rfl, hbefore, hpath⟩ := hlong
      rw [loadBy, files.first?_append hbefore, Files.first?, hpath]
      exact ⟨_, rfl, rfl⟩

/-- Files of which one, at the second of three paths, holds a number where the box is due. -/
def boxless : Files := ⟨[(["b.yaml"], .file [0x73, 0x70, 0x61, 0x77, 0x6E, 0x3A, 0x20, 0x35])]⟩

theorem loadBy_outcome_boxless :
    Decides boxless ["a.yaml", "b.yaml", "c.yaml"] none (some "b.yaml") ∧
      loadBy Yaml.document boxless none ["a.yaml", "b.yaml", "c.yaml"] =
        .error (.invalid "b.yaml" [.plain .modelType [.key "spawn"]]) := by
  have hbefore : ∀ p ∈ ["a.yaml"], boxless.has p = .ok false := by
    intro p hp
    cases List.mem_singleton.1 hp
    rfl
  have hdecides : Decides boxless ["a.yaml", "b.yaml", "c.yaml"] none (some "b.yaml") := .found rfl hbefore rfl
  have hread : boxless.read (Path.normalize "b.yaml") = .ok [0x73, 0x70, 0x61, 0x77, 0x6E, 0x3A, 0x20, 0x35] := by rfl
  have hdecode : Text.decode [0x73, 0x70, 0x61, 0x77, 0x6E, 0x3A, 0x20, 0x35] = .ok "spawn: 5".toList := by cbv
  have hdocument : Yaml.document (Text.plainBreaks "spawn: 5".toList) = .ok (.map [(.text "spawn", .int 5)]) := by cbv
  have hconfig : ofData (.map [(.text "spawn", .int 5)]) = .rejected [.plain .modelType [.key "spawn"]] := by rfl
  have hfile : ofFile Yaml.document boxless "b.yaml" =
      .error (.invalid (Path.normalize "b.yaml") [.plain .modelType [.key "spawn"]]) := by
    rw [ofFile_of_ok _ _ hread, ofBytes_of_data _ hdecode hdocument, if_neg (by decide), hconfig]
  exact ⟨hdecides, ((loadBy_outcome Yaml.document boxless none _).2.1 "b.yaml" hdecides).trans hfile⟩

end BotConfig
end Bystander
