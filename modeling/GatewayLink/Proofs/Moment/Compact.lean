import GatewayLink.Proofs.Moment.Parts

/-! The moments that compact texts show.
A text shows a date with a year of four digits, a clock and an offset of less than a day. The offset can carry
the moment over the end of these years, so that its date in UTC has a year that the layout cannot hold; but it
carries it no further than into the next day. -/

namespace GatewayLink

namespace Date

theorem year_ofDayNumber_plain {n : Int} (first : -719528 ≤ n) (last : n ≤ 2932896) :
    0 ≤ (ofDayNumber n).year ∧ (ofDayNumber n).year ≤ 9999 := by
  obtain ⟨cycle, year, day, month, ⟨low, high⟩, whole, begun, ends, monthOf, shown⟩ :=
    exists_ofDayNumber n
  rw [shown]
  dsimp only
  -- the first and the last of these days fall into the last year of a cycle
  rcases (show year = 399 ∨ year ≤ 398 by omega) with rfl | early
  · split <;> omega
  · have begins : 0 ≤ cycle := by omega
    have ends : cycle ≤ 24 := by omega
    split <;> omega

end Date

namespace Moment

/-- A moment that was read from a compact text has a year of four digits in UTC, or an offset has carried it
into the day before these years or after them. -/
theorem date_of_readCompact {text : String} {m : Moment} (read : readCompact text = .ok m) :
    (0 ≤ m.date.year ∧ m.date.year ≤ 9999) ∨ m.date = ⟨-1, 12, 31⟩ ∨ m.date = ⟨10000, 1, 1⟩ := by
  obtain ⟨p, inRange, rfl⟩ := Parts.exists_of_readCompact read
  obtain ⟨first, last⟩ := inRange.day_bounds
  obtain rfl := Except.ok.inj (inRange.readCompact_text.symm.trans read)
  have day : inRange.moment.date = Date.ofDayNumber (p.seconds / 86400) := rfl
  obtain ⟨n, ofDay⟩ : ∃ n, p.seconds / 86400 = n := ⟨_, rfl⟩
  rw [day]
  rw [ofDay] at first last ⊢
  by_cases before : n = -719529
  · right; left
    rw [before]
    decide
  · by_cases after : n = 2932897
    · right; right
      rw [after]
      decide
    · left
      exact Date.year_ofDayNumber_plain (by omega) (by omega)

end Moment

end GatewayLink
