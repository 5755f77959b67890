import GatewayLink.Proofs.Body.RoundTrip
import GatewayLink.Proofs.Body.Stages
import GatewayLink.Proofs.Moment.Compact

/-! Bodies that were read and are written again.
The moments of a body that was read came from texts of their layouts, and a written body can only be read if its
radio times have years of four digits. -/

namespace GatewayLink

open Json Json.Members Reading

/-- The moment came from a compact text. -/
def Moment.IsCompact (m : Moment) : Prop := ∃ text, readCompact text = .ok m

theorem Moment.IsCompact.date {m : Moment} (compact : m.IsCompact) :
    m.HasPlainYear ∨ m.date = ⟨-1, 12, 31⟩ ∨ m.date = ⟨10000, 1, 1⟩ := by
  obtain ⟨text, read⟩ := compact
  exact date_of_readCompact read

theorem Json.Members.text_of_moment {m : Members} {key : String} {o : Option Moment}
    {read : String → Except Moment.Fault Moment} (given : (m.moment read key).Gives o) :
    m.optional text? key = some none ∧ o = none ∨
      ∃ text t, m.optional text? key = some (some text) ∧ o = some t ∧ read text = .ok t := by
  obtain ⟨form, found, converted⟩ := gives_convert.mp given
  cases form with
  | none =>
    cases converted
    exact .inl ⟨found, rfl⟩
  | some text =>
    cases done : read text with
    | error fault => simp [ifPresent, done, Except.mapError, Except.map] at converted
    | ok t =>
      simp only [ifPresent, done, Except.mapError, Except.map, Except.ok.injEq] at converted
      exact .inr ⟨text, t, found, converted.symm, done⟩

theorem Json.Members.exists_text_of_moment {m : Members} {key : String} {o : Option Moment}
    {read : String → Except Moment.Fault Moment} (given : (m.moment read key).Gives o) :
    ∀ t ∈ o, ∃ text, read text = .ok t := by
  rintro t member
  rcases text_of_moment given with ⟨-, rfl⟩ | ⟨text, t', -, rfl, done⟩
  · cases member
  · cases member
    exact ⟨text, done⟩

theorem Rewritten.plain_of_moment {fields : List (String × Option Json)} {m : Members}
    {key : String} {o again : Option Moment} (known : Rewritten fields m)
    (value : fieldValue? key fields = o.map fun t => .text t.compactText)
    (given : (m.moment Moment.readCompact key).Gives again) : ∀ t ∈ o, t.HasPlainYear := by
  rintro t rfl
  have written : m.optional text? key = some (some t.compactText) :=
    optional_of_get? (known.kept value fun _ => rfl) rfl fun _ => rfl
  rcases text_of_moment given with ⟨found, -⟩ | ⟨text, t', found, -, read⟩
  · cases written.symm.trans found
  · cases written.symm.trans found
    by_contra year
    rw [Moment.readCompact_signed year] at read
    cases read

theorem Reading.entries_of_forEach {α β : Type} {read : α → Reading β} {items : List α}
    {bs : List β} (given : (Reading.forEach read items).Gives bs) :
    (∀ b ∈ bs, ∃ v ∈ items, (read v).Gives b) ∧ ∀ v ∈ items, ∃ b, (read v).Gives b := by
  induction gives_forEach_iff.mp given with
  | nil => exact ⟨nofun, nofun⟩
  | @cons v b items bs here later ih =>
    obtain ⟨back, forth⟩ := ih (gives_forEach_iff.mpr later)
    refine ⟨List.forall_mem_cons.mpr ⟨⟨v, List.mem_cons_self, here⟩, fun c member => ?_⟩,
      List.forall_mem_cons.mpr ⟨⟨b, here⟩, forth⟩⟩
    obtain ⟨w, there, gives⟩ := back c member
    exact ⟨w, List.mem_cons_of_mem v there, gives⟩

theorem Json.reread_of_mem {items again : List Json} (reread : rereadItems? items = some again) :
    ∀ v ∈ items, ∃ w ∈ again, v.reread? = some w := by
  induction rereadItems?_eq_some.mp reread with
  | nil => exact nofun
  | @cons v w items again here later ih =>
    refine List.forall_mem_cons.mpr ⟨⟨w, List.mem_cons_self, here⟩, fun u member => ?_⟩
    obtain ⟨x, there, read⟩ := ih (rereadItems?_eq_some.mpr later) u member
    exact ⟨x, List.mem_cons_of_mem w there, read⟩

theorem UplinkFrame.isCompact_of_ofJson {v : Json} {f : UplinkFrame} (given : (ofJson v).Gives f) :
    ∀ t ∈ f.time, t.IsCompact := by
  unfold ofJson at given
  split at given
  · exact exists_text_of_moment (gives_ofMembers.mp given).1
  · cases given

theorem DownlinkCommand.isCompact_of_ofJson {v : Json} {c : DownlinkCommand}
    (given : (ofJson v).Gives c) : ∀ t ∈ c.time?, t.IsCompact := by
  unfold ofJson at given
  split at given
  · exact exists_text_of_moment (gives_ofMembers.mp given).2.2.1
  · cases given

theorem UplinkFrame.plain_of_readsBack {f again : UplinkFrame}
    (back : ReadsBack f.toJson ofJson again) : ∀ t ∈ f.time, t.HasPlainYear := by
  obtain ⟨v, reread, given⟩ := back
  obtain ⟨m, members, rfl⟩ := Option.map_eq_some_iff.mp reread
  exact (rewritten_of_reread members).plain_of_moment rfl (gives_ofMembers.mp given).1

theorem DownlinkCommand.plain_of_readsBack {c again : DownlinkCommand}
    (back : ReadsBack c.toJson ofJson again) : ∀ t ∈ c.time?, t.HasPlainYear := by
  obtain ⟨v, reread, given⟩ := back
  obtain ⟨m, members, rfl⟩ := Option.map_eq_some_iff.mp reread
  exact (rewritten_of_reread members).plain_of_moment (by simp [DataRate.fields])
    (gives_ofMembers.mp given).2.2.1

namespace Body

theorem gives_of_uplink {m : Members} {b : Body} (read : ofMembers .uplink m = .ok b) :
    ∃ frames status, b = uplink frames status ∧ (readFrames m).Gives frames ∧
      (readStatus m).Gives status := by
  unfold ofMembers at read
  dsimp only at read
  split at read
  · cases read
  · obtain ⟨g, status, first, reported, rfl⟩ := gives_seq.mp (result_eq_ok.mp read)
    obtain ⟨frames, given, rfl⟩ := gives_map.mp first
    exact ⟨frames, status, rfl, given, reported⟩

theorem gives_of_downlink {m : Members} {b : Body} (read : ofMembers .downlink m = .ok b) :
    ∃ c, b = downlink c ∧ (readCommand m).Gives c := by
  unfold ofMembers at read
  dsimp only at read
  split at read
  · cases read
  · split at read
    · cases read
    · obtain ⟨c, given, rfl⟩ := gives_map.mp (result_eq_ok.mp read)
      exact ⟨c, rfl, given⟩

theorem isCompact_of_decode {direction : Direction} {octets : List UInt8} {b : Body}
    (decoded : decode direction octets = .ok b) : ∀ t ∈ b.radioTimes, t.IsCompact := by
  unfold decode at decoded
  split at decoded
  · cases direction with
    | uplink =>
      obtain ⟨frames, status, rfl, given, -⟩ := gives_of_uplink decoded
      refine forall_radioTimes_uplink.mpr fun f member => ?_
      unfold readFrames at given
      split at given
      · obtain ⟨v, -, read⟩ := (entries_of_forEach given).1 f member
        exact UplinkFrame.isCompact_of_ofJson read
      · cases given
    | downlink =>
      obtain ⟨c, rfl, given⟩ := gives_of_downlink decoded
      refine forall_radioTimes_downlink.mpr ?_
      unfold readCommand at given
      split at given
      · exact DownlinkCommand.isCompact_of_ofJson given
      · cases given
  · cases decoded

/-- A written body can only be read if its radio times have a year of four digits. -/
theorem plain_of_decode_octets {direction : Direction} {b again : Body}
    (checked : b.check direction = .ok ())
    (decoded : decode direction (b.octets direction) = .ok again) :
    ∀ t ∈ b.radioTimes, t.HasPlainYear := by
  obtain ⟨frames, status, command⟩ := b
  cases direction with
  | uplink =>
    obtain ⟨rfl, -, -⟩ := checkUplink_eq_ok.mp checked
    refine forall_radioTimes_uplink.mpr fun f member => ?_
    obtain ⟨m, reread, read⟩ := (decode_octets_eq_ok rfl).mp decoded
    obtain ⟨framesAgain, _, -, given, -⟩ := gives_of_uplink read
    obtain ⟨items, found, reads⟩ := readFrames_rewritten (rewritten_of_reread reread) rfl
    rw [reads] at given
    -- the list is read as a whole or not at all, so this frame was read as well, whatever it gave
    obtain ⟨v, there, rereadFrame⟩ :=
      reread_of_mem found f.toJson (List.mem_map_of_mem member)
    obtain ⟨frameAgain, givenFrame⟩ := (entries_of_forEach given).2 v there
    exact UplinkFrame.plain_of_readsBack ⟨v, rereadFrame, givenFrame⟩
  | downlink =>
    obtain ⟨rfl, rfl, c, rfl, -⟩ := checkDownlink_eq_ok.mp checked
    obtain ⟨m, -, read⟩ := (decode_octets_eq_ok rfl).mp decoded
    obtain ⟨commandAgain, rfl, -⟩ := gives_of_downlink read
    exact forall_radioTimes_downlink.mpr
      (DownlinkCommand.plain_of_readsBack (decode_downlink.mp decoded))

end Body

end GatewayLink
