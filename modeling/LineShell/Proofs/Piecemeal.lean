import LineShell.Proofs.Arrivals
import LineShell.Proofs.Stream

/-!
# Input in pieces

A supply delivers its bytes in pieces of any size, and a buffer of any capacity stands between it
and the reader of lines. Neither can be told from the lines: two streams from whose supplies the
same arrives, one thing after another, give the same results of reads (`readEach_of_sameArrivals`).
-/

namespace LineShell

/-- The same arrives, one thing after another. Behind all that is listed there are ends of file for
ever. -/
def SameArrivals (a b : List Arrival) : Prop :=
  ∀ n, a.getD n .endOfFile = b.getD n .endOfFile

namespace SameArrivals

theorem refl (a : List Arrival) : SameArrivals a a := fun _ => rfl

theorem symm {a b : List Arrival} (hab : SameArrivals a b) : SameArrivals b a :=
  fun n => (hab n).symm

theorem trans {a b c : List Arrival} (hab : SameArrivals a b) (hbc : SameArrivals b c) :
    SameArrivals a c :=
  fun n => (hab n).trans (hbc n)

theorem append_left (front : List Arrival) {a b : List Arrival} (hab : SameArrivals a b) :
    SameArrivals (front ++ a) (front ++ b) := by
  induction front with
  | nil => exact hab
  | cons x front ih =>
    intro n
    cases n with
    | zero => rfl
    | succ n => exact ih n

/-- An end of file at the end makes no difference. -/
theorem endOfFile_nil : SameArrivals [.endOfFile] [] := by
  intro n
  cases n <;> rfl

theorem head_eq {x y : Arrival} {a b : List Arrival} (hab : SameArrivals (x :: a) (y :: b)) :
    x = y := hab 0

theorem tail {x y : Arrival} {a b : List Arrival} (hab : SameArrivals (x :: a) (y :: b)) :
    SameArrivals a b := fun n => hab (n + 1)

theorem of_nil_cons {y : Arrival} {b : List Arrival} (hab : SameArrivals [] (y :: b)) :
    y = .endOfFile ∧ SameArrivals [] b :=
  ⟨(hab 0).symm, fun n => hab (n + 1)⟩

end SameArrivals

/-- A line is read off what arrives, however it is listed, and the same is left. -/
theorem takeLine_of_sameArrivals {a b : List Arrival} (hab : SameArrivals a b) (got : Bytes) :
    (takeLine got a).1 = (takeLine got b).1 ∧
      SameArrivals (takeLine got a).2 (takeLine got b).2 := by
  induction a generalizing b got with
  | nil =>
    cases b with
    | nil => exact ⟨rfl, hab⟩
    | cons y b =>
      obtain ⟨rfl, hrest⟩ := hab.of_nil_cons
      exact ⟨rfl, hrest⟩
  | cons x a ih =>
    cases b with
    | nil =>
      obtain ⟨rfl, hrest⟩ := hab.symm.of_nil_cons
      exact ⟨rfl, hrest.symm⟩
    | cons y b =>
      obtain rfl := hab.head_eq
      cases x with
      | endOfFile => exact ⟨rfl, hab.tail⟩
      | fault f => exact ⟨rfl, hab.tail⟩
      | byte c =>
        by_cases hc : c = newline
        · simp only [takeLine, hc, if_true]
          exact ⟨trivial, hab.tail⟩
        · simp only [takeLine, if_neg hc]
          exact ih hab.tail (c :: got)

namespace Supply

/-- One line: the result and what is left to arrive are the same on both sides. -/
theorem readLine_of_sameArrivals {s t : Supply} (hs : 0 < s.capacity) (ht : 0 < t.capacity)
    (hst : SameArrivals s.arrivals t.arrivals) :
    s.readLine.1 = t.readLine.1 ∧ SameArrivals s.readLine.2.arrivals t.readLine.2.arrivals := by
  rw [readLine_eq_takeLine hs, readLine_eq_takeLine ht, arrivals_readLine hs, arrivals_readLine ht]
  exact takeLine_of_sameArrivals hst []

theorem firstLines_of_sameArrivals {s t : Supply} (hs : 0 < s.capacity) (ht : 0 < t.capacity)
    (hst : SameArrivals s.arrivals t.arrivals) (n : Nat) :
    s.firstLines n = t.firstLines n ∧
      SameArrivals (s.afterLines n).arrivals (t.afterLines n).arrivals := by
  -- the buffers may hold different bytes: what they have in common is only what is left to arrive
  induction n generalizing s t with
  | zero => exact ⟨rfl, hst⟩
  | succ n ih =>
    obtain ⟨hline, hleft⟩ := readLine_of_sameArrivals hs ht hst
    have hs' : 0 < s.readLine.2.capacity := by rwa [capacity_readLine hs]
    have ht' : 0 < t.readLine.2.capacity := by rwa [capacity_readLine ht]
    obtain ⟨hlines, hafter⟩ := ih hs' ht' hleft
    refine ⟨?_, hafter⟩
    rw [firstLines, firstLines, hline, hlines]

end Supply

namespace StreamSource

open LineReader (readEach)

/-- **Lines do not depend on how the input arrives.** Take two streams from whose supplies the same
bytes, ends of file and faults arrive, interruptions not counted, whatever the sizes of their
deliveries and the capacities of their buffers are. Then any number of reads gives the same results,
whatever prompts are shown, and behind them the same is left to arrive. -/
theorem readEach_of_sameArrivals {s t : StreamSource} (hs : 0 < s.supply.capacity)
    (ht : 0 < t.supply.capacity) (hst : SameArrivals s.supply.arrivals t.supply.arrivals)
    {texts texts' : List Bytes} (hlen : texts.length = texts'.length) :
    (readEach texts s).result = (readEach texts' t).result ∧
      SameArrivals (readEach texts s).after.supply.arrivals
        (readEach texts' t).after.supply.arrivals := by
  obtain ⟨hresult, hafter⟩ := readEach_eq texts s
  obtain ⟨hresult', hafter'⟩ := readEach_eq texts' t
  rw [hresult, hafter, hresult', hafter', hlen]
  exact Supply.firstLines_of_sameArrivals hs ht hst texts'.length

/-- A line cut in the middle, an early end of file and a fault; on the other side single bytes from
a buffer of one byte, with interruptions. -/
theorem readEach_of_sameArrivals_of_bytes :
    let s : StreamSource :=
      { supply := { script := [.bytes (utf8 "ls\nc"), .bytes (utf8 "d"), .bytes [],
                      .bytes (utf8 "x"), .fault (.os 5)] }
        prompts := .unlimited }
    let t : StreamSource :=
      { supply := { script := [.bytes (utf8 "l"), .fault .interrupted, .bytes (utf8 "s\ncd"),
                      .bytes [], .fault (.os 4), .bytes (utf8 "x"), .fault (.os 5), .bytes []]
                    capacity := 1 }
        prompts := { room := some 0 } }
    SameArrivals s.supply.arrivals t.supply.arrivals ∧
      (readEach [utf8 "$ ", utf8 "$ ", utf8 "$ ", utf8 "$ "] s).result
        = (readEach [[], [], utf8 "> ", []] t).result := by
  intro s t
  have hlist : t.supply.arrivals = s.supply.arrivals ++ [.endOfFile] := by decide
  have hst : SameArrivals s.supply.arrivals t.supply.arrivals := by
    have hmore := SameArrivals.append_left s.supply.arrivals SameArrivals.endOfFile_nil
    rw [List.append_nil] at hmore
    rw [hlist]
    exact hmore.symm
  exact ⟨hst, (readEach_of_sameArrivals (s := s) (t := t) (by decide) (by decide) hst rfl).1⟩

end StreamSource

end LineShell
