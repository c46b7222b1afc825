import Mathlib.Tactic.Common

namespace RmdsBridge.Handles

/-- What is done with a handle, under which something may be opened again after it was closed. -/
inductive Use (H : Type)
  | opened (h : H)
  | used (h : H)
  | closed (h : H)
  deriving DecidableEq, Repr

variable {H : Type}

def Closed (h : H) : List (Use H) → Prop
  | [] => False
  | .opened a :: us => a ≠ h ∧ Closed h us
  | .used _ :: us => Closed h us
  | .closed a :: us => a = h ∨ Closed h us

def Sound : List (Use H) → Prop
  | [] => True
  | .opened _ :: us => Sound us
  | .used h :: us | .closed h :: us => ¬ Closed h us ∧ Sound us

section

variable [DecidableEq H]

instance Closed.decidable (h : H) : ∀ us, Decidable (Closed h us)
  | [] => inferInstanceAs (Decidable False)
  | .opened a :: us =>
    have := Closed.decidable h us
    inferInstanceAs (Decidable (a ≠ h ∧ Closed h us))
  | .used _ :: us => Closed.decidable h us
  | .closed a :: us =>
    have := Closed.decidable h us
    inferInstanceAs (Decidable (a = h ∨ Closed h us))

instance Sound.decidable : ∀ us : List (Use H), Decidable (Sound us)
  | [] => inferInstanceAs (Decidable True)
  | .opened _ :: us => Sound.decidable us
  | .used h :: us =>
    have := Sound.decidable us
    inferInstanceAs (Decidable (¬ Closed h us ∧ Sound us))
  | .closed h :: us =>
    have := Sound.decidable us
    inferInstanceAs (Decidable (¬ Closed h us ∧ Sound us))

end

variable {h a : H} {us : List (Use H)}

@[simp] theorem closed_nil : ¬ Closed h [] := id

@[simp] theorem closed_opened : Closed h (.opened a :: us) ↔ a ≠ h ∧ Closed h us := Iff.rfl

@[simp] theorem closed_closed : Closed h (.closed a :: us) ↔ a = h ∨ Closed h us := Iff.rfl

@[simp] theorem sound_nil : Sound ([] : List (Use H)) := trivial

@[simp] theorem sound_opened : Sound (.opened a :: us) ↔ Sound us := Iff.rfl

@[simp] theorem sound_closed : Sound (.closed a :: us) ↔ ¬ Closed a us ∧ Sound us := Iff.rfl

end RmdsBridge.Handles
