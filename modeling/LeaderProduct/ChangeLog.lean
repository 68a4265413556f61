/-! A log of changes, each with what it found and what it left. -/
namespace ChangeLog

universe u v
variable {C : Type u} {V : Type v} [DecidableEq V] (old new : C → V)

/-- The value that the log leads to, if its changes fit together. -/
def replay : V → List C → Option V
  | value, [] => some value
  | value, c :: rest => if old c = value then replay (new c) rest else none

variable {old new}

theorem replay_append (value : V) (log later : List C) : replay old new value (log ++ later) =
    (replay old new value log).bind (fun reached => replay old new reached later) := by
  induction log generalizing value with
  | nil => rfl
  | cons c rest ih =>
    simp only [List.cons_append, replay]
    split
    · exact ih (new c)
    · rfl

theorem replay_concat (value : V) (log : List C) (c : C) : replay old new value (log ++ [c]) =
    (replay old new value log).bind (fun reached => if old c = reached then some (new c) else none) :=
  replay_append value log [c]

theorem replay_extend {value reached : V} {log : List C} (led : replay old new value log = some reached)
    {c : C} (found : old c = reached) : replay old new value (log ++ [c]) = some (new c) := by
  rw [replay_concat, led, Option.bind_some, if_pos found]

end ChangeLog
