import GatewayLink.Proofs.Body.Reencoding
import GatewayLink.Proofs.Body.Writing

/-! Status reports that were read and are written again.
The expanded layout shows whole seconds, second 60 included, so what it was read from it can show again. Still a
report whose time is a leap second is refused, as if its time had a fraction. -/

namespace GatewayLink

open Json Json.Members Reading

namespace Moment

/-- The moment came from an expanded text. -/
def IsExpanded (m : Moment) : Prop := ∃ text, readExpanded text = .ok m

theorem IsExpanded.shown {m : Moment} (expanded : m.IsExpanded) :
    ∃ date clock, ofClock? date clock 0 0 = some m := by
  obtain ⟨text, read⟩ := expanded
  unfold readExpanded at read
  dsimp only at read
  split at read
  · unfold readExpandedChars at read
    obtain ⟨⟨date, cs⟩, -, read⟩ := exists_of_bind_eq_ok read
    obtain ⟨⟨clock, cs⟩, -, read⟩ := exists_of_bind_eq_ok read
    obtain ⟨-, -, read⟩ := exists_of_bind_eq_ok read
    obtain ⟨-, -, read⟩ := exists_of_bind_eq_ok read
    refine ⟨date, clock, ?_⟩
    unfold ofClock at read
    split at read
    · next shown =>
      cases read
      exact shown
    · cases read
  · cases read

theorem IsExpanded.nanos {m : Moment} (expanded : m.IsExpanded) :
    m.nanos = 0 ∨ m.nanos = billion := by
  obtain ⟨date, clock, shown⟩ := expanded.shown
  rw [(ofUnix?_eq_some.mp shown).2]
  split
  · exact .inr (Nat.zero_add billion)
  · exact .inl rfl

theorem IsExpanded.fraction {m : Moment} (expanded : m.IsExpanded) : m.fraction = 0 := by
  rcases expanded.nanos with whole | leap
  · rw [Moment.fraction, whole, Nat.zero_mod]
  · rw [Moment.fraction, leap, Nat.mod_self]

theorem IsExpanded.fits_iff {m : Moment} (expanded : m.IsExpanded) :
    m.fitsExpanded = true ↔ m.isLeapSecond = false := by
  rw [fitsExpanded_iff, isLeapSecond, decide_eq_false_iff_not]
  have positive : 0 < billion := by decide
  rcases expanded.nanos with whole | leap <;> omega

end Moment

theorem StatusReport.isExpanded_of_ofJson {v : Json} {r : StatusReport} (given : (ofJson v).Gives r) :
    ∀ t ∈ r.time, t.IsExpanded := by
  unfold ofJson at given
  split at given
  · exact exists_text_of_moment (gives_ofMembers.mp given).1
  · cases given

namespace Body

theorem isExpanded_of_decode {octets : List UInt8} {b : Body}
    (decoded : decode .uplink octets = .ok b) : ∀ r ∈ b.status, ∀ t ∈ r.time, t.IsExpanded := by
  unfold decode at decoded
  split at decoded
  · next m _ =>
    obtain ⟨frames, status, rfl, -, given⟩ := gives_of_uplink decoded
    obtain ⟨report, reported⟩ := exists_report m
    rw [gives_readStatus_iff reported] at given
    rintro r member
    cases given with
    | none => cases member
    | some given =>
      cases member
      exact StatusReport.isExpanded_of_ofJson given
  · cases decoded

def report (r : StatusReport) : Body := .uplink [] (some r)

theorem forall_floats_report {r : StatusReport} {P : Binary64 → Prop} :
    (∀ x ∈ (report r).floats, P x) ↔ ∀ x ∈ r.floats, P x := by
  simp [floats, report, uplink]

/-- What was read from the expanded layout is shown by it again, and fits it unless it is a leap second. So a report
that was read is written again and comes back, as far as its floats do, unless its time is a leap second; then it
is refused, although its text would be read. -/
theorem encode_decoded_report (text : String) (m : Moment) (octets : List UInt8) (r : StatusReport) :
    (Moment.readExpanded text = .ok m →
      (m.fitsExpanded = true ↔ m.isLeapSecond = false) ∧
        Moment.readExpanded m.expandedText = .ok m) ∧
    (decode .uplink octets = .ok (report r) →
      (∀ t ∈ r.time, t.isLeapSecond = true →
        (report r).encode .uplink = .error (.packet (.statusTime t))) ∧
      ((∀ t ∈ r.time, t.isLeapSecond = false) → ∃ written,
        (report r).encode .uplink = .ok written ∧
          (decode .uplink written = .ok (report r) ↔ ∀ x ∈ r.floats, x.Survives))) := by
  refine ⟨fun read => ?_, fun decoded => ⟨fun t time leap => ?_, fun plain => ?_⟩⟩
  · have expanded : m.IsExpanded := ⟨text, read⟩
    exact ⟨expanded.fits_iff, Moment.readExpanded_whole expanded.fraction⟩
  · have expanded := isExpanded_of_decode decoded r rfl t time
    have fine : t.nanos ≠ 0 := by
      intro whole
      rw [Moment.isLeapSecond, whole] at leap
      exact absurd leap (by decide)
    have refused : (report r).Refused .uplink (.packet (.statusTime t)) :=
      .statusTime (fun foreign => foreign rfl) (List.forall_mem_nil _) rfl time fine
    rw [encode, check_eq_error.mpr refused]
    rfl
  · have checked : (report r).check .uplink = .ok () := by
      refine check_iff.mpr ⟨rfl, List.forall_mem_nil _, ?_⟩
      rintro _ ⟨⟩ t time
      have expanded := isExpanded_of_decode decoded r rfl t time
      exact Moment.fitsExpanded_iff.mp (expanded.fits_iff.mpr (plain t time))
    refine ⟨(report r).octets .uplink, encode_eq_ok.mpr ⟨checked, rfl⟩, ?_⟩
    rw [decode_octets checked, forall_floats_report]
    exact and_iff_left (List.forall_mem_nil _)

def reportText (time : String) : List UInt8 :=
  octetsOfText ("\x7b\"stat\":\x7b\"time\":\"" ++ time ++ "\"\x7d\x7d")

def reportAt (time : Moment) : Body := report { StatusReport.empty with time := some time }

/-- A time with the other suffix and with numbers of one digit is written again in the usual way. -/
theorem encode_decoded_report_loose :
    decode .uplink (reportText "2014-1-12  8:59:28 UTC") = .ok (reportAt ⟨1389517168, 0, by decide⟩) ∧
      ∃ written, (reportAt ⟨1389517168, 0, by decide⟩).encode .uplink = .ok written ∧
        decode .uplink written = .ok (reportAt ⟨1389517168, 0, by decide⟩) := by
  have decoded : decode .uplink (reportText "2014-1-12  8:59:28 UTC") =
      .ok (reportAt ⟨1389517168, 0, by decide⟩) := by decide +kernel
  obtain ⟨written, encoded, back⟩ :=
    ((encode_decoded_report "2014-1-12  8:59:28 UTC" ⟨1389517168, 0, by decide⟩ _ _).2 decoded).2
      (by decide)
  exact ⟨decoded, written, encoded, back.mpr (by decide +kernel)⟩

/-- The leap second that ended 2016 is read, and the layout shows it as it was given, but it is refused for a
fraction of a second, which it has not. -/
theorem encode_decoded_report_leapSecond :
    let t : Moment := ⟨1483228799, 1000000000, by decide⟩
    decode .uplink (reportText "2016-12-31 23:59:60 GMT") = .ok (reportAt t) ∧
      t.expandedText = "2016-12-31 23:59:60 GMT" ∧ t.fraction = 0 ∧
        (reportAt t).encode .uplink = .error (.packet (.statusTime t)) := by
  decide +kernel

end Body

end GatewayLink
