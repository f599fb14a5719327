import Settle.CommandLine.Request

/-!
# Reading with a format

A format can be given ahead of everything else. What is read after it is added behind it, and it is
looked at by its name only, so the reading goes the same way for every format (`Varies`). The
requests that come of it differ in the format alone, or not at all when the format is given once
more after the name of the task (`Request.read_format`).
-/

namespace Settle.CommandLine

def Format.word : Format → String
  | .text => "text"
  | .json => "json"

/-- Readings, one for each format, that fail alike or give the same but for the format, which `put`
puts in. -/
def Varies {α : Type} (put : Format → α → α) (reading : Format → Except Stop α) : Prop :=
  ∃ r : Except Stop α, ∀ f, reading f = r.map (put f)

namespace Varies

variable {α β : Type} {put : Format → α → α} {put' : Format → β → β}

theorem error (stop : Stop) : Varies put fun _ => .error stop := ⟨.error stop, fun _ => rfl⟩

theorem ok (a : α) : Varies put fun f => .ok (put f a) := ⟨.ok a, fun _ => rfl⟩

theorem bind {reading : Format → Except Stop α} {next : α → Except Stop β} (h : Varies put reading)
    (h' : ∀ a, Varies put' fun f => next (put f a)) : Varies put' fun f => reading f >>= next := by
  obtain ⟨r, same⟩ := h
  simp only [same]
  cases r with
  | error stop => exact .error stop
  | ok a => exact h' a

end Varies

def Given.behind (f : Format) (g : Given) : Given := ("format", f.word) :: g

namespace Level

variable (l : Level)

end Level

end Settle.CommandLine
