/-! # Trees of plain data

Settings files, settings given on the fly and the details of an error are trees of this one type.  A map keeps its
entries in the order in which their keys first came; a later value for the same key replaces the earlier one.
-/
namespace Bystander

inductive Data where
  | null
  | bool (value : Bool)
  | int (value : Int)
  | float (value : Float)
  | text (value : String)
  | bytes (value : List UInt8)
  | list (items : List Data)
  | map (entries : List (Data × Data))
  /-- A value of a kind that no setting accepts, such as a date or a set. -/
  | other (label : String)
deriving Inhabited

namespace Data

/-- The number that a truth value or a number stands for, when two of different kinds are compared as keys. -/
def numeric? : Data → Option (Int ⊕ Float)
  | .bool b => some (.inl (if b then 1 else 0))
  | .int n => some (.inl n)
  | .float x => if x.isFinite && Float.ofInt x.toInt64.toInt == x && x.abs < 9.0e18 then some (.inl x.toInt64.toInt) else some (.inr x)
  | _ => none

/-- Whether two keys are one key: equal texts, equal numbers, or both null. -/
def sameKey (a b : Data) : Bool :=
  match a, b with
  | .null, .null => true
  | .text s, .text t => s == t
  | .bytes s, .bytes t => s == t
  | .other s, .other t => s == t
  | a, b =>
    match numeric? a, numeric? b with
    | some (.inl m), some (.inl n) => m == n
    | some (.inr x), some (.inr y) => x == y
    | _, _ => false

/-- Entries with one more: in place of an entry with the same key, else at the end. -/
def insertEntry (key value : Data) : List (Data × Data) → List (Data × Data)
  | [] => [(key, value)]
  | (k, v) :: rest => if sameKey k key then (k, value) :: rest else (k, v) :: insertEntry key value rest

/-- Named values with one more: in place of one with the same name, else at the end. -/
def setEntry {β : Type} (name : String) (value : β) : List (String × β) → List (String × β)
  | [] => [(name, value)]
  | (k, v) :: rest => if k == name then (k, value) :: rest else (k, v) :: setEntry name value rest

def lookup (key : String) : List (Data × Data) → Option Data
  | [] => none
  | (.text k, v) :: rest => if k == key then some v else lookup key rest
  | _ :: rest => lookup key rest

def object (entries : List (String × Data)) : Data := .map (entries.map fun (k, v) => (.text k, v))

theorem lookup_text_cons (key k : String) (v : Data) (rest : List (Data × Data)) :
    lookup key ((.text k, v) :: rest) = if k == key then some v else lookup key rest := rfl

theorem lookup_setEntry {β : Type} (name other : String) (value : β) (entries : List (String × β)) :
    (setEntry name value entries).lookup other = if other = name then some value else entries.lookup other := by
  induction entries with
  | nil =>
    by_cases h : other = name
    · simp [setEntry, h]
    · have hb : (other == name) = false := beq_eq_false_iff_ne.2 h
      simp [setEntry, List.lookup_cons, h, hb]
  | cons e rest ih =>
    obtain ⟨k, v⟩ := e
    by_cases hk : k = name
    · subst hk
      cases hb : other == k
      · simp only [setEntry, beq_self_eq_true, if_true, List.lookup_cons, hb, if_neg (ne_of_beq_false hb)]
      · simp only [setEntry, beq_self_eq_true, if_true, List.lookup_cons, eq_of_beq hb]
    · have hn : (k == name) = false := beq_eq_false_iff_ne.2 hk
      cases hb : other == k
      · simp only [setEntry, hn, Bool.false_eq_true, if_false, List.lookup_cons, hb, ih]
      · have h : ¬other = name := fun h => hk ((eq_of_beq hb).symm.trans h)
        simp only [setEntry, hn, Bool.false_eq_true, if_false, List.lookup_cons, hb, if_neg h]

theorem setEntry_of_notMem {β : Type} {name : String} {value : β} {entries : List (String × β)}
    (h : name ∉ entries.map Prod.fst) : setEntry name value entries = entries ++ [(name, value)] := by
  induction entries with
  | nil => rfl
  | cons e rest ih =>
    rw [List.map_cons, List.mem_cons, not_or] at h
    have hne : (e.1 == name) = false := beq_eq_false_iff_ne.2 (Ne.symm h.1)
    rw [setEntry, hne, ih h.2]
    rfl

end Data
end Bystander
