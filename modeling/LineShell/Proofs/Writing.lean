import LineShell.Command.Diagnostic

/-!
# Writing to steady sinks

A sink is steady if no call to it fails as long as it has room, and every call that it answers takes
at least one byte. It may take few bytes at a time, interrupt as often as it likes and, once it is
full, refuse every call in another way: of what is written it accepts exactly the first bytes that
it has room for, and writing fails exactly if there are more. A diagnostic is written in pieces, but
what is accepted of it is the front of its line. Of a sink that is not steady this much is still
true: it takes the front of what is written, and all of it unless a call fails (`Sink.TookFront`,
`report_cases`).
-/

namespace LineShell

namespace Sink

/-- The sink after it has been offered bytes, in one call after another. -/
def offered (s : Sink) (bs : List Bytes) : Sink :=
  bs.foldl (fun s b => (s.write b).2) s

/-- Whatever has been offered before, while there is room an answered call takes something and does
not fail. -/
structure Steady (s : Sink) : Prop where
  portion_pos : ∀ n k, s.portion n = some k → 0 < k
  faults_eq_none : ∀ bs, (s.offered bs).room ≠ some 0 → s.faults (s.offered bs).answered = none

/-- A call changes nothing of how a sink is made. -/
theorem made_of_write {s s' : Sink} {b : Bytes} {r : WriteResult} (hw : s.write b = (r, s')) :
    s'.portion = s.portion ∧ s'.faults = s.faults ∧ s'.flushFault = s.flushFault := by
  unfold write at hw
  split at hw
  · cases hw
    exact ⟨rfl, rfl, rfl⟩
  · split at hw
    · cases hw
      exact ⟨rfl, rfl, rfl⟩
    · split at hw
      · split at hw
        · cases hw
          exact ⟨rfl, rfl, rfl⟩
        · cases hw
          exact ⟨rfl, rfl, rfl⟩
      · cases hw
        exact ⟨rfl, rfl, rfl⟩

theorem Steady.of_write {s s' : Sink} (hs : s.Steady) {b : Bytes} {r : WriteResult}
    (hw : s.write b = (r, s')) : s'.Steady := by
  obtain ⟨hportion, hfaults, _⟩ := made_of_write hw
  have hoffered : ∀ bs, s'.offered bs = s.offered (b :: bs) := fun bs => by
    rw [offered, offered, List.foldl_cons, hw]
  refine { portion_pos := ?_, faults_eq_none := ?_ }
  · rw [hportion]
    exact hs.portion_pos
  · intro bs hroom
    rw [hoffered] at hroom ⊢
    rw [hfaults]
    exact hs.faults_eq_none (b :: bs) hroom

theorem Steady.share_pos {s : Sink} (hs : s.Steady) {n : Nat} (hn : 0 < n)
    (hroom : s.room ≠ some 0) : 0 < s.share n := by
  have hportion : 0 < (s.portion s.answered).getD n := by
    cases hp : s.portion s.answered with
    | none => simpa using hn
    | some k => simpa using hs.portion_pos _ k hp
  have hleft : 0 < s.room.getD n := by
    cases hr : s.room with
    | none => simpa using hn
    | some r =>
      have hne : r ≠ 0 := fun h0 => hroom (by rw [hr, h0])
      simpa using Nat.pos_of_ne_zero hne
  unfold share
  omega

/-- What one call to a steady sink can do with some bytes: nothing but be interrupted, refuse them
for want of room, or take its share of them. -/
theorem Steady.write_cases {s : Sink} (hs : s.Steady) {b : Bytes} (hb : b ≠ []) :
    (∃ k, s.write b = (.interrupted, { s with pending := k })) ∨
    (s.room = some 0 ∧ ∃ r, s.write b = (r, s.answer) ∧ (r = .took 0 ∨ ∃ f, r = .failed f)) ∨
    (s.room ≠ some 0 ∧
      s.write b = (.took (s.share b.length),
        { s.answer with
          room := s.room.map (· - s.share b.length)
          accepted := s.accepted ++ b.take (s.share b.length) })) := by
  unfold write
  cases s.pending with
  | succ k => exact Or.inl ⟨k, rfl⟩
  | zero =>
    by_cases hroom : s.room = some 0
    · refine Or.inr (Or.inl ⟨hroom, ?_⟩)
      cases s.fault? with
      | some f => exact ⟨_, rfl, Or.inr ⟨f, rfl⟩⟩
      | none =>
        simp only [if_pos (And.intro hroom hb)]
        cases s.refusal with
        | fails f _ => exact ⟨_, rfl, Or.inr ⟨f, rfl⟩⟩
        | takeNothing => exact ⟨_, rfl, Or.inl rfl⟩
    · have hnone : s.faults s.answered = none := hs.faults_eq_none [] hroom
      simp only [fault?, hnone, Option.filter_none]
      rw [if_neg fun h => hroom h.1]
      exact Or.inr (Or.inr ⟨hroom, rfl⟩)

/-- How many of a number of bytes there is room for. -/
def fits (s : Sink) (n : Nat) : Nat :=
  min n (s.room.getD n)

/-- There is no room for so many bytes. -/
def Exceeded (s : Sink) (n : Nat) : Prop :=
  ∃ limit ∈ s.room, limit < n

instance (s : Sink) (n : Nat) : Decidable (s.Exceeded n) :=
  inferInstanceAs (Decidable (∃ limit ∈ s.room, limit < n))

theorem fits_le (s : Sink) (n : Nat) : s.fits n ≤ n :=
  Nat.min_le_left _ _

theorem fits_eq_iff (s : Sink) (n : Nat) : s.fits n = n ↔ ¬ s.Exceeded n := by
  unfold fits Exceeded
  cases s.room with
  | none => simp
  | some limit =>
    simp only [Option.getD_some, Option.mem_some, exists_eq_left']
    omega

/-- What writing `b` to a sink does if it is steady: the sink `s'` behind it, and the fault if there
is one. -/
structure Wrote (s : Sink) (b : Bytes) (fault : Option Fault) (s' : Sink) : Prop where
  steady : s'.Steady
  accepted : s'.accepted.toList = s.accepted.toList ++ b.take (s.fits b.length)
  room : s'.room = s.room.map (· - b.length)
  fault_eq_none_iff : fault = none ↔ s.fits b.length = b.length

theorem Wrote.nil {s : Sink} (hs : s.Steady) : Wrote s [] none s where
  steady := hs
  accepted := by simp
  room := by cases s.room <;> rfl
  fault_eq_none_iff := by simp [fits]

/-- Without room nothing is taken. -/
theorem Wrote.refused {s s' : Sink} {b : Bytes} {f : Fault} (hs' : s'.Steady)
    (hroom : s.room = some 0) (hb : b ≠ []) (hsame : s'.room = s.room ∧ s'.accepted = s.accepted) :
    Wrote s b (some f) s' where
  steady := hs'
  accepted := by simp [hsame, fits, hroom]
  room := by simp [hsame, hroom]
  fault_eq_none_iff := by
    have hpos := List.length_pos_iff.2 hb
    have hnone : s.fits b.length = 0 := by simp [fits, hroom]
    rw [hnone]
    exact iff_of_false (by simp) (by omega)

/-- What is taken first is the front; the rest is still to be written. -/
theorem Wrote.cons {s s' s'' : Sink} {b : Bytes} {n : Nat} {fault : Option Fault}
    (hn : n ≤ s.fits b.length) (hacc : s'.accepted.toList = s.accepted.toList ++ b.take n)
    (hroom : s'.room = s.room.map (· - n)) (hrest : Wrote s' (b.drop n) fault s'') :
    Wrote s b fault s'' := by
  have hfits : s.fits b.length = n + s'.fits (b.drop n).length := by
    rcases hr : s.room with _ | r
    · simp only [fits, hroom, hr, List.length_drop, Option.map_none, Option.getD_none] at hn ⊢
      omega
    · simp only [fits, hroom, hr, List.length_drop, Option.map_some, Option.getD_some] at hn ⊢
      omega
  have hle : n ≤ b.length := Nat.le_trans hn (s.fits_le _)
  refine { steady := hrest.steady, accepted := ?_, room := ?_, fault_eq_none_iff := ?_ }
  · -- accepted
    rw [hrest.accepted, hacc, hfits, List.take_add]
    simp
  · -- room
    rw [hrest.room, hroom, List.length_drop, Option.map_map]
    cases s.room with
    | none => rfl
    | some r => simp only [Option.map_some, Function.comp_apply, Option.some.injEq]; omega
  · -- fault_eq_none_iff
    rw [hrest.fault_eq_none_iff, hfits, List.length_drop]
    omega

theorem share_le_fits (s : Sink) (n : Nat) : s.share n ≤ s.fits n := by
  unfold share fits
  omega

theorem Steady.wrote_writeAll {s : Sink} (hs : s.Steady) (b : Bytes) :
    Wrote s b (s.writeAll b).1 (s.writeAll b).2 := by
  fun_induction writeAll s b with
  | case1 s => exact Wrote.nil hs
  | case2 s b hb s' hw =>
    rcases hs.write_cases hb with ⟨k, heq⟩ | ⟨hroom, r, heq, _⟩ | ⟨hroom, heq⟩
    · rw [hw] at heq
      cases heq
    · have hsteady := hs.of_write hw
      rw [hw] at heq
      cases heq
      exact Wrote.refused hsteady hroom hb ⟨rfl, rfl⟩
    · -- a call that is answered while there is room takes at least one byte
      have hpos := hs.share_pos (List.length_pos_iff.2 hb) hroom
      rw [hw] at heq
      injection heq with htook
      injection htook with htook
      omega
  | case3 s b hb n s' hw ih =>
    rcases hs.write_cases hb with ⟨k, heq⟩ | ⟨hroom, r, heq, hr⟩ | ⟨hroom, heq⟩
    · rw [hw] at heq
      cases heq
    · rw [hw] at heq
      cases heq
      rcases hr with hr | ⟨f, hr⟩ <;> cases hr
    · have hrest := ih (hs.of_write hw)
      have hle := s.share_le_fits b.length
      rw [hw] at heq
      injection heq with htook hsink
      injection htook with htook
      rw [← htook] at hle hsink
      rw [hsink] at hrest ⊢
      exact Wrote.cons hle (by simp) rfl hrest
  | case4 s b hb s' hw ih =>
    rcases hs.write_cases hb with ⟨k, heq⟩ | ⟨hroom, r, heq, hr⟩ | ⟨hroom, heq⟩
    · have hrest := ih (hs.of_write hw)
      rw [hw] at heq
      injection heq with _ hsink
      rw [hsink] at hrest ⊢
      exact { hrest with }
    · rw [hw] at heq
      cases heq
      rcases hr with hr | ⟨f, hr⟩ <;> cases hr
    · rw [hw] at heq
      cases heq
  | case5 s b hb f s' hw =>
    rcases hs.write_cases hb with ⟨k, heq⟩ | ⟨hroom, r, heq, _⟩ | ⟨hroom, heq⟩
    · rw [hw] at heq
      cases heq
    · have hsteady := hs.of_write hw
      rw [hw] at heq
      cases heq
      exact Wrote.refused hsteady hroom hb ⟨rfl, rfl⟩
    · rw [hw] at heq
      cases heq

/-- What is written behind something that was written in full. -/
theorem Wrote.append {s s' s'' : Sink} {b c : Bytes} {fault : Option Fault}
    (hb : Wrote s b none s') (hc : Wrote s' c fault s'') : Wrote s (b ++ c) fault s'' := by
  have hfits := hb.fault_eq_none_iff.1 rfl
  have hle : b.length ≤ s.fits (b ++ c).length := by
    unfold fits at hfits ⊢
    rw [List.length_append]
    cases hr : s.room with
    | none => simp
    | some r =>
      simp only [hr, Option.getD_some] at hfits ⊢
      omega
  refine Wrote.cons hle ?_ hb.room (by simpa using hc)
  rw [hb.accepted, hfits, List.take_left, List.take_length]

theorem Wrote.fault_ne_none_iff {s s' : Sink} {b : Bytes} {fault : Option Fault}
    (hb : Wrote s b fault s') : fault ≠ none ↔ s.Exceeded b.length := by
  rw [Ne, hb.fault_eq_none_iff, fits_eq_iff, Decidable.not_not]

/-- Behind something that could not be written in full nothing is taken. -/
theorem Wrote.append_of_fault {s s' : Sink} {b : Bytes} {f : Fault} (hb : Wrote s b (some f) s')
    (c : Bytes) : Wrote s (b ++ c) (some f) s' := by
  obtain ⟨r, hr, hlt⟩ := hb.fault_ne_none_iff.1 (Option.some_ne_none f)
  have hfits : ∀ n, s.fits n = min n r := fun n => by simp [fits, Option.mem_def.1 hr]
  refine { steady := hb.steady, accepted := ?_, room := ?_, fault_eq_none_iff := ?_ }
  · -- accepted
    have hmin : min b.length r = r := by omega
    have hmin' : min (b ++ c).length r = r := by rw [List.length_append]; omega
    rw [hb.accepted, hfits, hfits, hmin, hmin', List.take_append_of_le_length (by omega)]
  · -- room
    rw [hb.room, hr, List.length_append]
    simp only [Option.map_some, Option.some.injEq]
    omega
  · -- fault_eq_none_iff
    rw [hfits, List.length_append]
    exact iff_of_false (by simp) (by omega)

/-- Texts are accepted one behind another as if they were written at once, even if an earlier one
could not be written in full. -/
theorem Wrote.trans {s s' s'' : Sink} {b c : Bytes} {fault fault' : Option Fault}
    (hb : Wrote s b fault s') (hc : Wrote s' c fault' s'') :
    Wrote s (b ++ c) (fault.or fault') s'' := by
  cases fault with
  | none => exact hb.append hc
  | some f =>
    obtain ⟨r, hr, hlt⟩ := hb.fault_ne_none_iff.1 (Option.some_ne_none f)
    have hfull : s'.room = some 0 := by
      rw [hb.room, hr, Option.map_some, Option.some.injEq]
      omega
    have hall := hb.append_of_fault c
    refine { steady := hc.steady, accepted := ?_, room := ?_, fault_eq_none_iff := ?_ }
    · -- accepted
      rw [hc.accepted, hall.accepted]
      simp [fits, hfull]
    · -- room
      rw [hc.room, hfull, ← hall.room, hfull]
      simp
    · -- fault_eq_none_iff
      exact hall.fault_eq_none_iff

/-- Behind what was written before, a text cannot be written in full if there was no room for all of
it together. -/
theorem Wrote.fault_ne_none_iff_behind {s s' s'' : Sink} {b c : Bytes} {fault fault' : Option Fault}
    (hb : Wrote s b fault s') (hc : Wrote s' c fault' s'') :
    fault' ≠ none ↔ c ≠ [] ∧ s.Exceeded (b ++ c).length := by
  rw [hc.fault_ne_none_iff, ← List.length_pos_iff]
  unfold Exceeded
  rw [hb.room]
  cases s.room with
  | none => simp
  | some limit =>
    simp only [Option.map_some, Option.mem_some, exists_eq_left', List.length_append]
    omega

/-- Pieces are accepted as if they were written at once. -/
theorem Steady.wrote_writeEach {s : Sink} (hs : s.Steady) (pieces : List Bytes) :
    Wrote s pieces.flatten (s.writeEach pieces).1 (s.writeEach pieces).2 := by
  induction pieces generalizing s with
  | nil => exact Wrote.nil hs
  | cons b rest ih =>
    have hfirst := hs.wrote_writeAll b
    simp only [writeEach, List.flatten_cons]
    split
    · next s' hw =>
      rw [hw] at hfirst
      exact hfirst.append (ih hfirst.steady)
    · next f s' hw =>
      rw [hw] at hfirst
      exact hfirst.append_of_fault rest.flatten

/-- A sink that accepts everything that is written to it. -/
structure AcceptsAll (s : Sink) : Prop extends Steady s where
  room_eq_none : s.room = none

theorem acceptsAll_unlimited : unlimited.AcceptsAll where
  portion_pos := by simp [unlimited]
  faults_eq_none := by simp [unlimited]
  room_eq_none := rfl

theorem keptSince_eq_length {s s' : Sink} {front : Bytes}
    (h : s'.accepted.toList = s.accepted.toList ++ front) : s'.keptSince s = front.length := by
  have hlen := congrArg List.length h
  simp only [Array.length_toList, List.length_append] at hlen
  unfold keptSince
  omega

end Sink

/-- What is accepted of a diagnostic by a steady sink is the front of its line. -/
theorem report_of_steady {sink : Sink} (hs : sink.Steady) (message : List Bytes) :
    ∃ fault, Sink.Wrote sink (diagnosticLine message.flatten) fault (report message sink).2 ∧
      (report message sink).1
        = .diagnosed (diagnosticLine message.flatten)
              (sink.fits (diagnosticLine message.flatten).length)
            :: (fault.map fun f => Entry.logged (.diagnosticLost f)).toList := by
  have hw := hs.wrote_writeEach (diagnosticPieces message)
  rw [flatten_diagnosticPieces] at hw
  refine ⟨_, hw, ?_⟩
  have hkept := Sink.keptSince_eq_length hw.accepted
  rw [List.length_take, Nat.min_eq_left (sink.fits_le _)] at hkept
  simp only [report, hkept]

/-- A sink that accepts everything accepts the whole line of a diagnostic, and nothing is lost. -/
theorem report_of_acceptsAll {sink : Sink} (hs : sink.AcceptsAll) (message : List Bytes) :
    (report message sink).1
        = [.diagnosed (diagnosticLine message.flatten)
            (diagnosticLine message.flatten).length] ∧
      (report message sink).2.AcceptsAll ∧
      (report message sink).2.accepted.toList
        = sink.accepted.toList ++ diagnosticLine message.flatten := by
  obtain ⟨fault, hw, hjournal⟩ := report_of_steady hs.toSteady message
  have hfits : ∀ n, sink.fits n = n := fun n => by simp [Sink.fits, hs.room_eq_none]
  have hnone : fault = none := hw.fault_eq_none_iff.2 (hfits _)
  have hroom : (report message sink).2.room = none := by
    rw [hw.room, hs.room_eq_none]
    rfl
  refine ⟨?_, { hw.steady with room_eq_none := hroom }, ?_⟩
  · rw [hjournal, hfits, hnone]
    rfl
  · rw [hw.accepted, hfits, List.take_length]

/-! ## What any sink takes -/

/-- How many bytes a call has taken. -/
def WriteResult.taken : WriteResult → Nat
  | took n => n
  | interrupted => 0
  | failed _ => 0

namespace Sink

theorem accepted_write {s s' : Sink} {b : Bytes} {r : WriteResult} (hw : s.write b = (r, s')) :
    r.taken ≤ b.length ∧ s'.accepted.toList = s.accepted.toList ++ b.take r.taken := by
  unfold write at hw
  split at hw
  · cases hw
    simp [WriteResult.taken]
  · split at hw
    · cases hw
      simp [WriteResult.taken, answer]
    · split at hw
      · split at hw
        · cases hw
          simp [WriteResult.taken, answer]
        · cases hw
          simp [WriteResult.taken, answer]
      · cases hw
        refine ⟨?_, by simp [WriteResult.taken]⟩
        show s.share b.length ≤ b.length
        unfold share
        omega

/-- The front of `b` was taken on the way from `s` to `s'`, and all of it unless there was a
fault. -/
def TookFront (s : Sink) (b : Bytes) (fault : Option Fault) (s' : Sink) : Prop :=
  ∃ kept ≤ b.length, s'.accepted.toList = s.accepted.toList ++ b.take kept ∧
    (fault = none ↔ kept = b.length)

section TookFront

variable {s s' s'' : Sink} {b c : Bytes} {fault : Option Fault}

theorem TookFront.nil (s : Sink) : TookFront s [] none s :=
  ⟨0, Nat.le_refl 0, by simp, by simp⟩

theorem TookFront.nothing {f : Fault} (hb : b ≠ [])
    (hsame : s'.accepted.toList = s.accepted.toList) : TookFront s b (some f) s' := by
  have hpos := List.length_pos_iff.2 hb
  refine ⟨0, Nat.zero_le _, by simpa using hsame, ?_⟩
  exact iff_of_false (by simp) (by omega)

theorem TookFront.behind {n : Nat} (hn : n ≤ b.length)
    (hfront : s'.accepted.toList = s.accepted.toList ++ b.take n)
    (hrest : TookFront s' (b.drop n) fault s'') : TookFront s b fault s'' := by
  obtain ⟨kept, hkept, haccepted, hfault⟩ := hrest
  rw [List.length_drop] at hkept hfault
  refine ⟨n + kept, by omega, ?_, ?_⟩
  · rw [haccepted, hfront, List.take_add, List.append_assoc]
  · rw [hfault]
    omega

theorem TookFront.append (hb : TookFront s b none s') (hc : TookFront s' c fault s'') :
    TookFront s (b ++ c) fault s'' := by
  obtain ⟨kept, _, haccepted, hfault⟩ := hb
  have hall : kept = b.length := hfault.1 rfl
  subst hall
  refine TookFront.behind (n := b.length) (by simp) ?_ (by simpa using hc)
  simpa using haccepted

theorem TookFront.append_of_fault {f : Fault} (hb : TookFront s b (some f) s') (c : Bytes) :
    TookFront s (b ++ c) (some f) s' := by
  obtain ⟨kept, hkept, haccepted, hfault⟩ := hb
  have hne : kept ≠ b.length := fun hall => absurd (hfault.2 hall) (by simp)
  refine ⟨kept, ?_, ?_, iff_of_false (by simp) ?_⟩
  · rw [List.length_append]
    omega
  · rw [haccepted, List.take_append_of_le_length hkept]
  · rw [List.length_append]
    omega

end TookFront

/-- Writing ends with the first answered call that takes nothing. -/
theorem writeAll_of_took_zero {s s' : Sink} {b : Bytes} (hb : b ≠ [])
    (hw : s.write b = (.took 0, s')) :
    s.writeAll b = (some .writeZero, s') := by
  rw [writeAll, dif_neg hb]
  split <;> simp_all

theorem tookFront_writeAll (s : Sink) (b : Bytes) :
    TookFront s b (s.writeAll b).1 (s.writeAll b).2 := by
  fun_induction writeAll s b with
  | case1 s => exact .nil s
  | case2 s b hb s' hw =>
    exact .nothing hb (by simpa [WriteResult.taken] using (accepted_write hw).2)
  | case3 s b hb n s' hw ih =>
    obtain ⟨hle, hfront⟩ := accepted_write hw
    exact .behind hle hfront ih
  | case4 s b hb s' hw ih =>
    obtain ⟨hle, hfront⟩ := accepted_write hw
    exact .behind hle hfront ih
  | case5 s b hb f s' hw =>
    exact .nothing hb (by simpa [WriteResult.taken] using (accepted_write hw).2)

theorem tookFront_writeEach (s : Sink) (pieces : List Bytes) :
    TookFront s pieces.flatten (s.writeEach pieces).1 (s.writeEach pieces).2 := by
  induction pieces generalizing s with
  | nil => exact .nil s
  | cons b rest ih =>
    have hfirst := s.tookFront_writeAll b
    simp only [writeEach, List.flatten_cons]
    split
    · next s' hw =>
      rw [hw] at hfirst
      exact hfirst.append (ih s')
    · next f s' hw =>
      rw [hw] at hfirst
      exact hfirst.append_of_fault rest.flatten

end Sink

/-- A diagnostic is written in full, or it is cut short and this is warned about. Whatever the sink
is like, it takes the front of the line. -/
theorem report_cases (message : List Bytes) (sink : Sink) :
    ∃ kept, (report message sink).2.accepted.toList
        = sink.accepted.toList ++ (diagnosticLine message.flatten).take kept ∧
      ((kept = (diagnosticLine message.flatten).length ∧
          (report message sink).1 = [.diagnosed (diagnosticLine message.flatten) kept]) ∨
        (kept < (diagnosticLine message.flatten).length ∧ ∃ f,
          (report message sink).1
            = [.diagnosed (diagnosticLine message.flatten) kept,
                .logged (.diagnosticLost f)])) := by
  have htook := sink.tookFront_writeEach (diagnosticPieces message)
  rw [flatten_diagnosticPieces] at htook
  obtain ⟨kept, hle, haccepted, hfault⟩ := htook
  have hkept := Sink.keptSince_eq_length haccepted
  rw [List.length_take, Nat.min_eq_left hle] at hkept
  refine ⟨kept, haccepted, ?_⟩
  simp only [report, hkept]
  cases hf : (sink.writeEach (diagnosticPieces message)).1 with
  | none =>
    rw [hf] at hfault
    exact Or.inl ⟨hfault.1 rfl, rfl⟩
  | some f =>
    rw [hf] at hfault
    have hne : kept ≠ (diagnosticLine message.flatten).length :=
      fun hall => absurd (hfault.2 hall) (by simp)
    exact Or.inr ⟨Nat.lt_of_le_of_ne hle hne, f, rfl⟩

end LineShell
