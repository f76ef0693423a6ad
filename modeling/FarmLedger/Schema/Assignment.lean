/-
# FarmLedger.Schema.Assignment — a value for each of finitely many names

An assignment gives every name its value. It is a function; `settle` computes its values once and
looks them up from then on, which changes what reading costs and not what is read
(`settle_eq`).
-/
namespace FarmLedger

/-- A value for every name. -/
structure Assignment {Name : Type} (Value : Name → Type) where
  value : (name : Name) → Value name

namespace Assignment

variable {Name : Type} {Value : Name → Type}

instance : CoeFun (Assignment Value) fun _ => (name : Name) → Value name := ⟨value⟩

@[ext]
theorem ext {a b : Assignment Value} (h : ∀ name, a name = b name) : a = b := by
  cases a; cases b; congr; exact funext h

/-- The value that a list of pairs gives a name. -/
def lookup? [DecidableEq Name] (name : Name) :
    List ((name : Name) × Value name) → Option (Value name)
  | [] => none
  | ⟨other, value⟩ :: pairs =>
    if h : other = name then some (h ▸ value) else lookup? name pairs

/-- The same assignment with the values of the listed names computed. -/
def settle [DecidableEq Name] (names : List Name) (a : Assignment Value) : Assignment Value :=
  let pairs := names.map fun name => (⟨name, a name⟩ : (name : Name) × Value name)
  ⟨fun name => (lookup? name pairs).getD (a name)⟩

theorem lookup?_map [DecidableEq Name] (a : Assignment Value) (names : List Name) (name : Name) :
    ∀ value, lookup? name (names.map fun name => (⟨name, a name⟩ : (name : Name) × Value name))
      = some value → value = a name := by
  induction names with
  | nil => simp [lookup?]
  | cons other names ih =>
    intro value h
    simp only [List.map_cons, lookup?] at h
    split at h
    · next same => subst same; exact (Option.some.inj h).symm
    · exact ih value h

@[simp]
theorem settle_eq [DecidableEq Name] (names : List Name) (a : Assignment Value) :
    a.settle names = a := by
  ext name
  simp only [settle]
  cases h : lookup? name (names.map fun name => (⟨name, a name⟩ : (name : Name) × Value name)) with
  | none => rfl
  | some value => exact lookup?_map a names name value h

def set [DecidableEq Name] (a : Assignment Value) (name : Name) (value : Value name) :
    Assignment Value :=
  ⟨fun other => if h : name = other then h ▸ value else a other⟩

@[simp]
theorem set_same [DecidableEq Name] (a : Assignment Value) (name : Name) (value : Value name) :
    a.set name value name = value := by
  simp [set]

theorem set_other [DecidableEq Name] (a : Assignment Value) {name other : Name}
    (value : Value name) (h : name ≠ other) : a.set name value other = a other := by
  simp [set, h]

end Assignment

end FarmLedger
