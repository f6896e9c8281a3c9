import LineShell.Proofs.Stopping
import LineShell.Proofs.Telling

/-!
# Names in messages

A name in a message is a text, whatever its bytes are: what can be read as characters is kept, and
where no character begins, the longest run of bytes that could have begun one is written as one
replacement character (`Text.lossy_append_of_maximalSubpart`). These two laws leave no choice
(`Text.eq_lossy_of_laws`), and the messages of `cd` and of programs that are not started follow the
same ones (`messages_decode_names_alike`).
-/

namespace LineShell

namespace Text

/-! ## The table, read from the characters -/

/-- Whether a byte lies in a range of the table. -/
abbrev InRange (range : UInt8 × UInt8) (b : UInt8) : Prop :=
  range.1 ≤ b ∧ b ≤ range.2

theorem followers_of_one {lead : UInt8} (h : lead.toNat ≤ 0x7F) : followers lead = some [] :=
  if_pos (UInt8.le_iff_toNat_le.2 h)

theorem followers_of_two {lead : UInt8} (h : 0xC2 ≤ lead.toNat) (h' : lead.toNat ≤ 0xDF) :
    followers lead = some [(0x80, 0xBF)] := by
  simp only [followers, UInt8.le_iff_toNat_le, UInt8.lt_iff_toNat_lt, ← UInt8.toNat_inj,
    UInt8.reduceToNat]
  rw [if_neg (by omega), if_neg (by omega), if_pos (by omega)]

theorem followers_of_three {lead : UInt8} (h : 0xE0 ≤ lead.toNat) (h' : lead.toNat ≤ 0xEF) :
    followers lead = some [(if lead.toNat = 0xE0 then 0xA0 else 0x80,
      if lead.toNat = 0xED then 0x9F else 0xBF), (0x80, 0xBF)] := by
  simp only [followers, UInt8.le_iff_toNat_le, UInt8.lt_iff_toNat_lt, ← UInt8.toNat_inj,
    UInt8.reduceToNat]
  rw [if_neg (by omega), if_neg (by omega), if_neg (by omega)]
  by_cases hfirst : lead.toNat = 0xE0
  · rw [if_pos hfirst, if_pos hfirst, if_neg (by omega)]
  · by_cases hsurrogate : lead.toNat = 0xED
    · rw [if_neg hfirst, if_pos hsurrogate, if_neg hfirst, if_pos hsurrogate]
    · rw [if_neg hfirst, if_neg hsurrogate, if_pos h', if_neg hfirst, if_neg hsurrogate]

theorem followers_of_four {lead : UInt8} (h : 0xF0 ≤ lead.toNat) (h' : lead.toNat ≤ 0xF4) :
    followers lead = some [(if lead.toNat = 0xF0 then 0x90 else 0x80,
      if lead.toNat = 0xF4 then 0x8F else 0xBF), (0x80, 0xBF), (0x80, 0xBF)] := by
  simp only [followers, UInt8.le_iff_toNat_le, UInt8.lt_iff_toNat_lt, ← UInt8.toNat_inj,
    UInt8.reduceToNat]
  rw [if_neg (by omega), if_neg (by omega), if_neg (by omega), if_neg (by omega),
    if_neg (by omega), if_neg (by omega)]
  by_cases hfirst : lead.toNat = 0xF0
  · rw [if_pos hfirst, if_pos hfirst, if_neg (by omega)]
  · by_cases hlast : lead.toNat = 0xF4
    · rw [if_neg hfirst, if_neg (by omega), if_pos hlast, if_neg hfirst, if_pos hlast]
    · rw [if_neg hfirst, if_pos (by omega), if_neg hfirst, if_neg hlast]

theorem inRange_ofNat {low high : UInt8} {n : Nat} (hlow : low.toNat ≤ n) (hhigh : n ≤ high.toNat) :
    InRange (low, high) (UInt8.ofNat n) := by
  have hsmall : n < 256 := Nat.lt_of_le_of_lt hhigh high.toNat_lt
  have hbyte : (UInt8.ofNat n).toNat = n := by
    rw [UInt8.toNat_ofNat', Nat.mod_eq_of_lt hsmall]
  constructor
  · rw [UInt8.le_iff_toNat_le, hbyte]
    exact hlow
  · rw [UInt8.le_iff_toNat_le, hbyte]
    exact hhigh

/-- The encoding of a character follows the table. -/
theorem exists_followers_utf8EncodeChar (c : Char) :
    ∃ lead bs ranges, String.utf8EncodeChar c = lead :: bs ∧ followers lead = some ranges ∧
      List.Forall₂ InRange ranges bs := by
  have hlead : ∀ {n m : Nat}, n = m → m < 256 → (UInt8.ofNat n).toNat = m := by
    intro n m hn hm
    rw [hn, UInt8.toNat_ofNat', Nat.mod_eq_of_lt hm]
  -- what follows the second byte lies in one and the same range
  have htail : ∀ n, InRange (0x80, 0xBF) (UInt8.ofNat (n % 64 + 128)) := by
    intro n
    apply inRange_ofNat <;> simp only [UInt8.reduceToNat] <;> omega
  have hvalid : c.val.toNat < 0xD800 ∨ 0xDFFF < c.val.toNat ∧ c.val.toNat < 0x110000 := c.valid
  unfold String.utf8EncodeChar
  generalize c.val.toNat = v at hvalid
  by_cases h1 : v ≤ 0x7F
  · have hone := hlead (n := v) rfl (by omega)
    exact ⟨_, _, _, if_pos h1, followers_of_one (by omega), .nil⟩
  · by_cases h2 : v ≤ 0x7FF
    · have htwo : (UInt8.ofNat (v / 64 % 32 + 192)).toNat = v / 64 + 192 :=
        hlead (by omega) (by omega)
      exact ⟨_, _, _, (if_neg h1).trans (if_pos h2), followers_of_two (by omega) (by omega),
        .cons (htail v) .nil⟩
    · by_cases h3 : v ≤ 0xFFFF
      · have hthree : (UInt8.ofNat (v / 4096 % 16 + 224)).toNat = v / 4096 + 224 :=
          hlead (by omega) (by omega)
        refine ⟨_, _, _, ((if_neg h1).trans (if_neg h2)).trans (if_pos h3),
          followers_of_three (by omega) (by omega), .cons ?_ (.cons (htail v) .nil)⟩
        rw [hthree]
        apply inRange_ofNat <;> split_ifs <;> simp only [UInt8.reduceToNat] <;> omega
      · have hfour : (UInt8.ofNat (v / 262144 % 8 + 240)).toNat = v / 262144 + 240 :=
          hlead (by omega) (by omega)
        refine ⟨_, _, _, ((if_neg h1).trans (if_neg h2)).trans (if_neg h3),
          followers_of_four (by omega) (by omega),
          .cons ?_ (.cons (htail (v / 64)) (.cons (htail v) .nil))⟩
        rw [hfour]
        apply inRange_ofNat <;> split_ifs <;> simp only [UInt8.reduceToNat] <;> omega

/-! ## Bytes that fit the table -/

theorem forall₂_low {ranges : List (UInt8 × UInt8)} (hranges : ∀ r ∈ ranges, r.1 ≤ r.2) :
    List.Forall₂ InRange ranges (ranges.map Prod.fst) := by
  rw [List.forall₂_map_right_iff, List.forall₂_same]
  intro r hr
  exact ⟨UInt8.le_refl _, hranges r hr⟩

theorem low_le_high_of_followers {lead : UInt8} {ranges : List (UInt8 × UInt8)}
    (h : followers lead = some ranges) : ∀ r ∈ ranges, r.1 ≤ r.2 := by
  have hranges : ranges.all fun r => decide (r.1.toNat ≤ r.2.toNat) := by
    unfold followers at h
    split_ifs at h <;> cases h <;> decide
  intro r hr
  exact UInt8.le_iff_toNat_le.2 (of_decide_eq_true (List.all_eq_true.1 hranges r hr))

/-- Bytes that fit can be completed. -/
theorem exists_forall₂_fitting {ranges : List (UInt8 × UInt8)} (hranges : ∀ r ∈ ranges, r.1 ≤ r.2)
    (b : Bytes) : ∃ more, List.Forall₂ InRange ranges (b.take (fitting ranges b) ++ more) := by
  induction ranges generalizing b with
  | nil => exact ⟨[], by simp [fitting]⟩
  | cons range ranges ih =>
    have hnone : ∃ more, List.Forall₂ InRange (range :: ranges) (b.take 0 ++ more) :=
      ⟨_, forall₂_low hranges⟩
    cases b with
    | nil => exact hnone
    | cons c b =>
      by_cases hc : InRange range c
      · obtain ⟨more, hmore⟩ := ih (fun r hr => hranges r (List.mem_cons_of_mem range hr)) b
        refine ⟨more, ?_⟩
        simp only [fitting, if_pos hc, List.take_succ_cons, List.cons_append]
        exact .cons hc hmore
      · simp only [fitting, if_neg hc]
        exact hnone

theorem fitting_le_length (ranges : List (UInt8 × UInt8)) (b : Bytes) :
    fitting ranges b ≤ ranges.length := by
  induction ranges generalizing b with
  | nil => exact Nat.le_refl 0
  | cons range ranges ih =>
    cases b with
    | nil => exact Nat.zero_le _
    | cons c b =>
      have hle := ih b
      simp only [fitting]
      split_ifs
      · simpa using hle
      · exact Nat.zero_le _

/-- No more of the encoding of a character stands somewhere than fits there. -/
theorem length_le_fitting {ranges : List (UInt8 × UInt8)} {bs ys b : Bytes}
    (hbs : List.Forall₂ InRange ranges bs) (hys : ys <+: bs) (hb : ys <+: b) :
    ys.length ≤ fitting ranges b := by
  induction hbs generalizing ys b with
  | nil =>
    rw [List.prefix_nil] at hys
    rw [hys]
    exact Nat.zero_le _
  | @cons range c ranges bs hc _ ih =>
    cases ys with
    | nil => exact Nat.zero_le _
    | cons y ys =>
      obtain ⟨rfl, hbehind⟩ := List.cons_prefix_cons.1 hys
      obtain ⟨rest, rfl⟩ := hb
      have hle := ih hbehind (List.prefix_append ys rest)
      simp only [List.cons_append, fitting, if_pos hc, List.length_cons]
      omega

/-! ## Parts that are no character -/

/-- Bytes with which a character could begin, or one byte. -/
def Begins (x : Bytes) : Prop :=
  x.length = 1 ∨ x ≠ [] ∧ ∃ c, x <+: String.utf8EncodeChar c

/-- In front of the bytes `v` stands a maximal part `x` that is no character: no character is
encoded at the beginning of both together, and `x` is the longest one there with which a character
could begin, or one byte if none could. -/
structure MaximalSubpart (x v : Bytes) : Prop where
  unconvertible : ∀ c, ¬ String.utf8EncodeChar c <+: x ++ v
  begins : Begins x
  longest : ∀ y, y <+: x ++ v → Begins y → y.length ≤ x.length

/-- Where a character is encoded, it is the piece that is cut off. -/
theorem cutPiece_utf8EncodeChar {c : Char} {lead : UInt8} {rest : Bytes}
    (h : String.utf8EncodeChar c <+: lead :: rest) :
    (cutPiece lead rest).1 = ⟨String.utf8EncodeChar c, true⟩ := by
  obtain ⟨first, bs, ranges, hc, hranges, hbs⟩ := exists_followers_utf8EncodeChar c
  rw [hc] at h ⊢
  obtain ⟨rfl, hprefix⟩ := List.cons_prefix_cons.1 h
  have hge := length_le_fitting hbs (List.prefix_refl bs) hprefix
  have hle := fitting_le_length ranges rest
  have hlength := hbs.length_eq
  have hfits : fitting ranges rest = bs.length := by omega
  unfold cutPiece
  rw [hranges]
  simp only [hfits, ← List.prefix_iff_eq_take.1 hprefix, hlength, beq_self_eq_true]

theorem begins_cutPiece (lead : UInt8) (rest : Bytes) : Begins (cutPiece lead rest).1.bytes := by
  unfold cutPiece
  split
  · exact Or.inl rfl
  · next ranges hranges =>
    obtain ⟨more, hmore⟩ := exists_forall₂_fitting (low_le_high_of_followers hranges) rest
    obtain ⟨c, hc⟩ := exists_char_of_followers hranges hmore
    refine Or.inr ⟨List.cons_ne_nil _ _, c, ?_⟩
    rw [hc, ← List.cons_append]
    exact List.prefix_append _ more

theorem length_le_cutPiece {lead : UInt8} {rest y : Bytes} (hy : y <+: lead :: rest)
    (hbegins : Begins y) : y.length ≤ (cutPiece lead rest).1.bytes.length := by
  have hpos : 1 ≤ (cutPiece lead rest).1.bytes.length := by
    unfold cutPiece
    split <;> simp
  rcases hbegins with hone | ⟨hne, c, hc⟩
  · rw [hone]
    exact hpos
  · obtain ⟨y0, ys, rfl⟩ := List.exists_cons_of_ne_nil hne
    obtain ⟨first, bs, ranges, hchar, hranges, hbs⟩ := exists_followers_utf8EncodeChar c
    rw [hchar] at hc
    obtain ⟨rfl, hys⟩ := List.cons_prefix_cons.1 hc
    obtain ⟨rfl, hrest⟩ := List.cons_prefix_cons.1 hy
    have hle := length_le_fitting hbs hys hrest
    have hlength := hrest.length_le
    unfold cutPiece
    rw [hranges]
    simp only [List.length_cons, List.length_take]
    omega

/-- A piece that is no character is a maximal part that is none. -/
theorem maximalSubpart_cutPiece {lead : UInt8} {rest : Bytes}
    (h : (cutPiece lead rest).1.whole = false) :
    MaximalSubpart (cutPiece lead rest).1.bytes (cutPiece lead rest).2 := by
  refine { unconvertible := ?_, begins := begins_cutPiece lead rest, longest := ?_ }
  · -- unconvertible
    intro c hc
    rw [cutPiece_append] at hc
    rw [cutPiece_utf8EncodeChar hc] at h
    cases h
  · -- longest
    intro y hy hbegins
    rw [cutPiece_append] at hy
    exact length_le_cutPiece hy hbegins

/-- There is only one maximal part in front of some bytes. -/
theorem MaximalSubpart.unique {x v x' v' : Bytes} (hx : MaximalSubpart x v)
    (hx' : MaximalSubpart x' v') (heq : x ++ v = x' ++ v') : x = x' ∧ v = v' := by
  have hle := hx'.longest x (by rw [← heq]; exact List.prefix_append x v) hx.begins
  have hge := hx.longest x' (by rw [heq]; exact List.prefix_append x' v') hx'.begins
  exact List.append_inj heq (Nat.le_antisymm hle hge)

theorem MaximalSubpart.ne_nil {x v : Bytes} (hx : MaximalSubpart x v) : x ≠ [] := by
  rcases hx.begins with hone | ⟨hne, _⟩
  · rintro rfl
    cases hone
  · exact hne

/-- The maximal part is cut off as a piece. -/
theorem maximalSubpart_iff {x v : Bytes} :
    MaximalSubpart x v ↔
      ∃ lead rest, x ++ v = lead :: rest ∧ cutPiece lead rest = (⟨x, false⟩, v) := by
  constructor
  · intro hx
    obtain ⟨lead, xs, rfl⟩ := List.exists_cons_of_ne_nil hx.ne_nil
    have hbroken : (cutPiece lead (xs ++ v)).1.whole = false := by
      by_contra hwhole
      obtain ⟨c, hc⟩ := exists_char_of_whole (Bool.not_eq_false _ ▸ hwhole)
      have happend := cutPiece_append lead (xs ++ v)
      rw [← hc] at happend
      exact hx.unconvertible c ⟨_, happend⟩
    obtain ⟨hbytes, hbehind⟩ :=
      (maximalSubpart_cutPiece hbroken).unique hx (cutPiece_append lead (xs ++ v))
    refine ⟨lead, xs ++ v, rfl, ?_⟩
    rw [← hbytes, ← hbroken]
    exact Prod.ext rfl hbehind
  · rintro ⟨lead, rest, _, hcut⟩
    have hbroken : (cutPiece lead rest).1.whole = false := by rw [hcut]
    have hmax := maximalSubpart_cutPiece hbroken
    rwa [hcut] at hmax

/-! ## The laws of lossy decoding -/

theorem lossy_utf8EncodeChar_append (c : Char) (rest : Bytes) :
    lossy (String.utf8EncodeChar c ++ rest) = String.utf8EncodeChar c ++ lossy rest := by
  obtain ⟨lead, bs, hc⟩ := List.exists_cons_of_ne_nil (String.utf8EncodeChar_ne_nil (c := c))
  have hprefix : String.utf8EncodeChar c <+: lead :: (bs ++ rest) :=
    ⟨rest, by rw [hc, List.cons_append]⟩
  have hcut := cutPiece_utf8EncodeChar hprefix
  have happend := cutPiece_append lead (bs ++ rest)
  rw [hcut, hc, List.cons_append, List.cons.injEq] at happend
  have hbehind := List.append_cancel_left happend.2
  rw [hc, List.cons_append, lossy_cons, hcut, hbehind, hc]
  rfl

theorem lossy_append_of_isText {u : Bytes} (hu : u.IsText) (rest : Bytes) :
    lossy (u ++ rest) = u ++ lossy rest := by
  obtain ⟨cs, rfl⟩ := hu
  induction cs with
  | nil => rfl
  | cons c cs ih =>
    have hcons : encode (c :: cs) = String.utf8EncodeChar c ++ encode cs := rfl
    rw [hcons, List.append_assoc, lossy_utf8EncodeChar_append, ih, List.append_assoc]

theorem lossy_of_maximalSubpart {x v : Bytes} (hx : MaximalSubpart x v) :
    lossy (x ++ v) = replacement ++ lossy v := by
  obtain ⟨lead, rest, heq, hcut⟩ := maximalSubpart_iff.1 hx
  rw [heq, lossy_cons, hcut]
  rfl

theorem lossy_append_of_maximalSubpart {u x v : Bytes} (hu : u.IsText) (hx : MaximalSubpart x v) :
    lossy (u ++ x ++ v) = u ++ replacement ++ lossy v := by
  rw [List.append_assoc, lossy_append_of_isText hu, lossy_of_maximalSubpart hx, List.append_assoc]

/-- Lossy decoding changes what is no text, and nothing else. -/
theorem lossy_eq_self_iff (b : Bytes) : lossy b = b ↔ b.IsText := by
  constructor
  · intro hb
    rw [← hb]
    exact isText_lossy b
  · intro hb
    have hall := lossy_append_of_isText hb []
    rwa [List.append_nil, lossy_nil, List.append_nil] at hall

/-- Bytes are a text, or there is a first part in them that is no character. -/
theorem isText_or_exists_maximalSubpart (b : Bytes) :
    b.IsText ∨ ∃ u x v, u.IsText ∧ MaximalSubpart x v ∧ b = u ++ x ++ v := by
  induction b using pieces_induction with
  | nil => exact Or.inl Bytes.isText_nil
  | piece lead rest ih =>
    have happend := cutPiece_append lead rest
    cases hwhole : (cutPiece lead rest).1.whole with
    | false =>
      exact Or.inr ⟨[], _, _, Bytes.isText_nil, maximalSubpart_cutPiece hwhole, happend.symm⟩
    | true =>
      obtain ⟨c, hc⟩ := exists_char_of_whole hwhole
      have hchar : Bytes.IsText (cutPiece lead rest).1.bytes := ⟨[c], by rw [← hc]; simp [encode]⟩
      rcases ih with htext | ⟨u, x, v, hu, hx, hrest⟩
      · rw [← happend]
        exact Or.inl (hchar.append htext)
      · refine Or.inr ⟨_, x, v, hchar.append hu, hx, ?_⟩
        rw [← happend, hrest]
        simp only [List.append_assoc]

/-- There is no other way to keep texts and to replace every part that is no character. -/
theorem eq_lossy_of_laws {d : Bytes → Bytes} (htext : ∀ b, b.IsText → d b = b)
    (hbroken : ∀ u x v, u.IsText → MaximalSubpart x v → d (u ++ x ++ v) = u ++ replacement ++ d v) :
    d = lossy := by
  funext b
  induction hn : b.length using Nat.strongRecOn generalizing b with
  | ind n ih =>
    rcases isText_or_exists_maximalSubpart b with hb | ⟨u, x, v, hu, hx, rfl⟩
    · rw [htext b hb, (lossy_eq_self_iff b).2 hb]
    · have hpos := List.length_pos_iff.2 hx.ne_nil
      have hlt : v.length < n := by
        rw [← hn, List.length_append, List.length_append]
        omega
      rw [hbroken u x v hu hx, lossy_append_of_maximalSubpart hu hx, ih _ hlt v rfl]

end Text

/-! ## Messages -/

open Text (lossy shownParts MaximalSubpart)

/-- Of a command that fails its message is told, and nothing else. -/
theorem diagnosed_dispatch_of_fails {σ : Type} {h : Host σ} {a : Surroundings σ} {ws : List Bytes}
    {name? : Option Bytes} {message : Bytes} (hf : Fails h a.host ws name? message) :
    (Session.dispatch h ws a).journal.diagnosed = [diagnosticLine message] := by
  obtain ⟨pieces, hpieces, rfl⟩ := Option.map_eq_some_iff.1 hf.failure_eq
  have htell : (tell (some pieces) a.diagnostics).1.diagnosed = [diagnosticLine pieces.flatten] :=
    Session.diagnosed_report pieces a.diagnostics
  have huntold := (Effect.untold_ofWords h ws a.host).diagnosed_eq_nil
  rw [Session.dispatch_eq_effect, Journal.diagnosed_append, huntold, hpieces, htell]
  rfl

/-- **Names are decoded alike in all messages.** The path of a change of directory, which is shown
part by part, and the name of a program, which is decoded at once, stand in their messages as the
same text, and these are the messages that are told when `cd` is refused and when a program is not
started. This text is always well-formed; it is the name itself exactly if the name is well-formed;
and of a name that is not, the text in front of the first part that is no character is kept, this
part becomes one replacement character, and what follows is decoded in the same way. Every name is
covered by these laws, so they leave no other way of decoding it. -/
theorem messages_decode_names_alike :
    (∀ (command b : Bytes) (e : Fault),
      (BuiltinError.changeDirectory command b e).message
          = command ++ utf8 ": " ++ lossy b ++ utf8 ": " ++ e.message ∧
        (LaunchError.spawn b e).message = lossy b ++ utf8 ": " ++ e.message) ∧
    (∀ {σ : Type} (h : Host σ) (a : Surroundings σ) (b : Bytes) (e : Fault) (more : List Bytes),
      ((h.changeDirectory b a.host).1 = .error e →
        (Session.dispatch h (utf8 "cd" :: b :: more) a).journal.diagnosed
          = [diagnosticLine (utf8 "cd: " ++ lossy b ++ utf8 ": " ++ e.message)]) ∧
      (Builtin.lookup b = none → (h.spawn b more a.host).1 = .error e →
        (Session.dispatch h (b :: more) a).journal.diagnosed
          = [diagnosticLine (lossy b ++ utf8 ": " ++ e.message)])) ∧
    (∀ b, (shownParts b).flatten = lossy b ∧ (lossy b).IsText ∧ (lossy b = b ↔ b.IsText)) ∧
    (∀ u x v, u.IsText → MaximalSubpart x v →
      lossy (u ++ x ++ v) = u ++ encode ['\uFFFD'] ++ lossy v) ∧
    (∀ b, b.IsText ∨ ∃ u x v, u.IsText ∧ MaximalSubpart x v ∧ b = u ++ x ++ v) ∧
    ∀ d : Bytes → Bytes, (∀ b, b.IsText → d b = b) →
      (∀ u x v, u.IsText → MaximalSubpart x v →
        d (u ++ x ++ v) = u ++ encode ['\uFFFD'] ++ d v) → d = lossy := by
  have hreplacement : Text.replacement = encode ['\uFFFD'] := by decide
  rw [← hreplacement]
  refine ⟨fun command b e => ⟨BuiltinError.message_changeDirectory command b e,
      LaunchError.message_spawn b e⟩, ?_,
    fun b => ⟨Text.flatten_shownParts b, Text.isText_lossy b, Text.lossy_eq_self_iff b⟩,
    fun u x v hu hx => Text.lossy_append_of_maximalSubpart hu hx,
    Text.isText_or_exists_maximalSubpart,
    fun d htext hbroken => Text.eq_lossy_of_laws htext hbroken⟩
  intro σ h a b e more
  constructor
  · intro hrefused
    exact diagnosed_dispatch_of_fails (.directory hrefused)
  · intro hname hrefused
    exact diagnosed_dispatch_of_fails (.program hname hrefused)

/-- A path with the front of a character of four bytes in it. -/
theorem messages_decode_names_alike_of_truncated :
    let x : Bytes := [0xF0, 0x9F, 0x92]
    let path := utf8 "a" ++ x ++ utf8 "b"
    (utf8 "a").IsText ∧ MaximalSubpart x (utf8 "b") ∧
      (Host.refusing.changeDirectory path ()).1 = .error (.os .accessDenied) ∧
      (Session.dispatch Host.refusing [utf8 "cd", path] ⟨(), .unlimited⟩).journal.diagnosed
        = [diagnosticLine (utf8 "cd: a\uFFFDb: Permission denied (os error 13)")] := by
  intro x path
  obtain ⟨_, htold, htexts, hparts, _⟩ := messages_decode_names_alike
  have hfront : (utf8 "a").IsText := Bytes.isText_utf8 _
  have hx : MaximalSubpart x (utf8 "b") := Text.maximalSubpart_iff.2 ⟨0xF0, _, rfl, by decide⟩
  have hrefused : (Host.refusing.changeDirectory path ()).1 = .error (.os .accessDenied) := rfl
  have hdecoded : lossy path = utf8 "a\uFFFDb" := by
    rw [hparts _ _ _ hfront hx, (htexts (utf8 "b")).2.2.2 (Bytes.isText_utf8 _)]
    decide
  refine ⟨hfront, hx, hrefused, ?_⟩
  rw [(htold Host.refusing ⟨(), .unlimited⟩ path _ []).1 hrefused, hdecoded]
  decide

end LineShell
