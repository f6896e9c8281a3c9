import LineShell.Proofs.Lines
import LineShell.Text.Lossy
import Mathlib.Data.List.Forall2
import Mathlib.Tactic.SplitIfs

/-!
# Texts as byte strings

The encoding of characters into bytes, and back. Bytes below 128 stand for the characters with these
numbers and occur in the encoding of no other ones, so a text can be cut at its newlines as bytes
(`lines_encode`). What lossy decoding gives is always the encoding of a text
(`isText_lossy`), and it brings in no bytes but those of the replacement character (`mem_lossy`).
-/

namespace LineShell

/-! ## Decoding -/

namespace Bytes

/-- A byte string that encodes a text. -/
def IsText (b : Bytes) : Prop :=
  ∃ cs, b = encode cs

theorem isText_nil : IsText [] := ⟨[], rfl⟩

theorem isText_utf8 (s : String) : IsText (utf8 s) := ⟨s.toList, rfl⟩

theorem IsText.append {a b : Bytes} (ha : IsText a) (hb : IsText b) : IsText (a ++ b) := by
  obtain ⟨cs, rfl⟩ := ha
  obtain ⟨ds, rfl⟩ := hb
  exact ⟨cs ++ ds, (encode_append cs ds).symm⟩

theorem isText_flatten {ps : List Bytes} (hps : ∀ p ∈ ps, p.IsText) : IsText ps.flatten := by
  induction ps with
  | nil => exact isText_nil
  | cons p rest ih =>
    obtain ⟨hp, hrest⟩ := List.forall_mem_cons.1 hps
    exact hp.append (ih hrest)

/-- The characters of an encoded text are found again. -/
theorem decode?_encode (cs : List Char) : decode? (encode cs) = some cs := by
  have hbytes : (⟨(encode cs).toArray⟩ : ByteArray) = cs.utf8Encode := by
    rw [List.utf8Encode, encode]
    exact ByteArray.ext (by simp)
  have hstring : String.fromUTF8 cs.utf8Encode ByteArray.isValidUTF8_utf8Encode
      = String.ofList cs := rfl
  rw [decode?, hbytes, String.fromUTF8?, dif_pos ByteArray.isValidUTF8_utf8Encode, hstring,
    Option.map_some, String.toList_ofList]

end Bytes

/-- The bytes of a character that is encoded in several of them are not below 128. -/
theorem ofNat_ne_of_lt {b : UInt8} (hb : b < 128) {n : Nat} (hn : 128 ≤ n) (hn' : n < 256) :
    b ≠ UInt8.ofNat n := by
  rintro rfl
  have hlt := UInt8.lt_iff_toNat_lt.1 hb
  rw [UInt8.toNat_ofNat', Nat.mod_eq_of_lt hn'] at hlt
  exact Nat.not_lt.2 hn hlt

/-- A byte below 128 in the encoding of a character is the character. -/
theorem mem_utf8EncodeChar_iff {b : UInt8} (hb : b < 128) (c : Char) :
    b ∈ String.utf8EncodeChar c ↔ c.toNat = b.toNat := by
  have hbyte : b.toNat < 128 := UInt8.lt_iff_toNat_lt.1 hb
  have hval : c.val.toNat = c.toNat := rfl
  have hhigh : ∀ {n : Nat}, 128 ≤ n → n < 256 → b ≠ UInt8.ofNat n := ofNat_ne_of_lt hb
  unfold String.utf8EncodeChar
  simp only [hval]
  constructor
  · intro hmem
    split at hmem
    · next hone =>
      rw [List.mem_singleton.1 hmem, UInt8.toNat_ofNat', Nat.mod_eq_of_lt (by omega)]
    · exfalso
      split at hmem
      · simp only [List.mem_cons, List.not_mem_nil, or_false] at hmem
        rcases hmem with hmem | hmem <;> exact hhigh (by omega) (by omega) hmem
      · split at hmem
        · simp only [List.mem_cons, List.not_mem_nil, or_false] at hmem
          rcases hmem with hmem | hmem | hmem <;> exact hhigh (by omega) (by omega) hmem
        · simp only [List.mem_cons, List.not_mem_nil, or_false] at hmem
          rcases hmem with hmem | hmem | hmem | hmem <;> exact hhigh (by omega) (by omega) hmem
  · intro heq
    rw [if_pos (by omega), heq]
    simp

/-! ## Lines of a text -/

theorem newline_mem_utf8EncodeChar_iff (c : Char) :
    newline ∈ String.utf8EncodeChar c ↔ c = '\n' := by
  rw [mem_utf8EncodeChar_iff (by decide)]
  constructor
  · intro hc
    exact Char.toNat_inj.1 hc
  · rintro rfl
    rfl

/-- The first line of a text, with its newline, and the text behind it. -/
def firstLine : List Char → List Char × List Char
  | [] => ([], [])
  | c :: cs => if c = '\n' then ([c], cs) else (c :: (firstLine cs).1, (firstLine cs).2)

theorem firstLine_append (cs : List Char) : (firstLine cs).1 ++ (firstLine cs).2 = cs := by
  induction cs with
  | nil => rfl
  | cons c cs ih =>
    by_cases hc : c = '\n'
    · simp [firstLine, hc]
    · simp [firstLine, hc, ih]

/-- The lines of an encoded text are its lines, encoded. -/
theorem lines_encode {cs : List Char} (hcs : cs ≠ []) :
    lines (encode cs) = encode (firstLine cs).1 :: lines (encode (firstLine cs).2) := by
  induction cs with
  | nil => exact absurd rfl hcs
  | cons c cs ih =>
    have hcons (ds : List Char) : encode (c :: ds) = String.utf8EncodeChar c ++ encode ds := rfl
    by_cases hc : c = '\n'
    · have hnewline : String.utf8EncodeChar '\n' = [newline] := by decide
      rw [hcons, firstLine, if_pos hc, hcons, hc, hnewline, List.singleton_append, lines_newline]
      rfl
    · have hmem : newline ∉ String.utf8EncodeChar c := by
        rw [newline_mem_utf8EncodeChar_iff]
        exact hc
      rw [hcons, firstLine, if_neg hc, hcons,
        lines_append_of_not_mem String.utf8EncodeChar_ne_nil hmem]
      cases cs with
      | nil => simp [firstLine, encode, lines]
      | cons d ds => rw [ih (List.cons_ne_nil d ds)]

/-! ## The table of encodings -/

/-- There is a character with every number that may belong to one. -/
theorem exists_char {n : Nat} (hn : n.isValidChar) : ∃ c : Char, c.val.toNat = n := by
  refine ⟨Char.ofNatAux n hn, ?_⟩
  unfold Char.ofNatAux
  rfl

theorem ofNat_eq_of_toNat {b : UInt8} {n : Nat} (h : b.toNat = n) : UInt8.ofNat n = b := by
  rw [← h, UInt8.ofNat_toNat]

theorem exists_char_of_two {a b : UInt8} (ha : 0xC2 ≤ a.toNat) (ha' : a.toNat ≤ 0xDF)
    (hb : 0x80 ≤ b.toNat) (hb' : b.toNat ≤ 0xBF) : ∃ c, String.utf8EncodeChar c = [a, b] := by
  obtain ⟨c, hc⟩ := exists_char (n := (a.toNat - 0xC0) * 64 + (b.toNat - 0x80)) (by left; omega)
  refine ⟨c, ?_⟩
  simp only [String.utf8EncodeChar, hc]
  rw [if_neg (by omega), if_pos (by omega), ofNat_eq_of_toNat (b := a) (by omega),
    ofNat_eq_of_toNat (b := b) (by omega)]

/-- With three bytes the shorter encodings and the surrogates are left out. -/
theorem exists_char_of_three {a b d : UInt8} (ha : 0xE0 ≤ a.toNat) (ha' : a.toNat ≤ 0xEF)
    (hb : 0x80 ≤ b.toNat) (hb' : b.toNat ≤ 0xBF) (hd : 0x80 ≤ d.toNat) (hd' : d.toNat ≤ 0xBF)
    (hshort : a.toNat = 0xE0 → 0xA0 ≤ b.toNat) (hsurrogate : a.toNat = 0xED → b.toNat ≤ 0x9F) :
    ∃ c, String.utf8EncodeChar c = [a, b, d] := by
  have hvalid : ((a.toNat - 0xE0) * 4096 + (b.toNat - 0x80) * 64
      + (d.toNat - 0x80)).isValidChar := by
    unfold Nat.isValidChar
    omega
  obtain ⟨c, hc⟩ := exists_char hvalid
  refine ⟨c, ?_⟩
  simp only [String.utf8EncodeChar, hc]
  rw [if_neg (by omega), if_neg (by omega), if_pos (by omega),
    ofNat_eq_of_toNat (b := a) (by omega), ofNat_eq_of_toNat (b := b) (by omega),
    ofNat_eq_of_toNat (b := d) (by omega)]

/-- With four bytes the shorter encodings and the numbers that are too large are left out. -/
theorem exists_char_of_four {a b d e : UInt8} (ha : 0xF0 ≤ a.toNat) (ha' : a.toNat ≤ 0xF4)
    (hb : 0x80 ≤ b.toNat) (hb' : b.toNat ≤ 0xBF) (hd : 0x80 ≤ d.toNat) (hd' : d.toNat ≤ 0xBF)
    (he : 0x80 ≤ e.toNat) (he' : e.toNat ≤ 0xBF) (hshort : a.toNat = 0xF0 → 0x90 ≤ b.toNat)
    (hlarge : a.toNat = 0xF4 → b.toNat ≤ 0x8F) : ∃ c, String.utf8EncodeChar c = [a, b, d, e] := by
  have hvalid : ((a.toNat - 0xF0) * 262144 + (b.toNat - 0x80) * 4096 + (d.toNat - 0x80) * 64
      + (e.toNat - 0x80)).isValidChar := by
    unfold Nat.isValidChar
    omega
  obtain ⟨c, hc⟩ := exists_char hvalid
  refine ⟨c, ?_⟩
  simp only [String.utf8EncodeChar, hc]
  rw [if_neg (by omega), if_neg (by omega), if_neg (by omega),
    ofNat_eq_of_toNat (b := a) (by omega), ofNat_eq_of_toNat (b := b) (by omega),
    ofNat_eq_of_toNat (b := d) (by omega), ofNat_eq_of_toNat (b := e) (by omega)]

namespace Text

/-- How many bytes follow the first byte of a character, and in which ranges they lie. Only the
first one of them may have a range of its own. -/
theorem followers_cases {lead : UInt8} {ranges : List (UInt8 × UInt8)}
    (h : followers lead = some ranges) :
    (lead.toNat ≤ 0x7F ∧ ranges = []) ∨
    (0xC2 ≤ lead.toNat ∧ lead.toNat ≤ 0xDF ∧ ranges = [(0x80, 0xBF)]) ∨
    ∃ low high : UInt8, 0x80 ≤ low.toNat ∧ high.toNat ≤ 0xBF ∧
      ((0xE0 ≤ lead.toNat ∧ lead.toNat ≤ 0xEF ∧ ranges = [(low, high), (0x80, 0xBF)] ∧
          (lead.toNat = 0xE0 → low.toNat = 0xA0) ∧ (lead.toNat = 0xED → high.toNat = 0x9F)) ∨
        (0xF0 ≤ lead.toNat ∧ lead.toNat ≤ 0xF4 ∧
          ranges = [(low, high), (0x80, 0xBF), (0x80, 0xBF)] ∧
          (lead.toNat = 0xF0 → low.toNat = 0x90) ∧ (lead.toNat = 0xF4 → high.toNat = 0x8F))) := by
  simp only [followers, UInt8.le_iff_toNat_le, UInt8.lt_iff_toNat_lt, ← UInt8.toNat_inj,
    UInt8.reduceToNat] at h
  split_ifs at h with h1 h2 h3 h4 h5 h6 h7 h8 h9 <;> cases h
  · exact Or.inl ⟨h1, rfl⟩
  · exact Or.inr (Or.inl ⟨by omega, h3, rfl⟩)
  · exact Or.inr (Or.inr ⟨0xA0, 0xBF, by decide, by decide,
      Or.inl ⟨by omega, by omega, rfl, fun _ => rfl, fun _ => by omega⟩⟩)
  · exact Or.inr (Or.inr ⟨0x80, 0x9F, by decide, by decide,
      Or.inl ⟨by omega, by omega, rfl, fun _ => by omega, fun _ => rfl⟩⟩)
  · exact Or.inr (Or.inr ⟨0x80, 0xBF, by decide, by decide,
      Or.inl ⟨by omega, h6, rfl, fun _ => by omega, fun _ => by omega⟩⟩)
  · exact Or.inr (Or.inr ⟨0x90, 0xBF, by decide, by decide,
      Or.inr ⟨by omega, by omega, rfl, fun _ => rfl, fun _ => by omega⟩⟩)
  · exact Or.inr (Or.inr ⟨0x80, 0xBF, by decide, by decide,
      Or.inr ⟨by omega, by omega, rfl, fun _ => by omega, fun _ => by omega⟩⟩)
  · exact Or.inr (Or.inr ⟨0x80, 0x8F, by decide, by decide,
      Or.inr ⟨by omega, by omega, rfl, fun _ => by omega, fun _ => rfl⟩⟩)

/-- Bytes that lie in the ranges of the table are together the encoding of a character. -/
theorem exists_char_of_followers {lead : UInt8} {ranges : List (UInt8 × UInt8)}
    (hranges : followers lead = some ranges) {bs : Bytes}
    (hbs : List.Forall₂ (fun range b => range.1 ≤ b ∧ b ≤ range.2) ranges bs) :
    ∃ c, String.utf8EncodeChar c = lead :: bs := by
  rcases followers_cases hranges with ⟨h1, rfl⟩ | ⟨ha, ha', rfl⟩ |
    ⟨low, high, hlow, hhigh, ⟨ha, ha', rfl, hlow', hhigh'⟩ | ⟨ha, ha', rfl, hlow', hhigh'⟩⟩
  all_goals
    simp only [List.forall₂_cons_left_iff, List.forall₂_nil_left_iff, UInt8.le_iff_toNat_le,
      UInt8.reduceToNat] at hbs
  · obtain ⟨c, hc⟩ := exists_char (n := lead.toNat) (by left; omega)
    refine ⟨c, ?_⟩
    simp only [String.utf8EncodeChar, hc]
    rw [if_pos h1, UInt8.ofNat_toNat, hbs]
  · obtain ⟨b, _, hb, rfl, rfl⟩ := hbs
    exact exists_char_of_two ha ha' hb.1 hb.2
  · obtain ⟨b, _, hb, ⟨d, _, hd, rfl, rfl⟩, rfl⟩ := hbs
    exact exists_char_of_three ha ha' (by omega) (by omega) hd.1 hd.2 (by omega) (by omega)
  · obtain ⟨b, _, hb, ⟨d, _, hd, ⟨e, _, he, rfl, rfl⟩, rfl⟩, rfl⟩ := hbs
    exact exists_char_of_four ha ha' (by omega) (by omega) hd.1 hd.2 he.1 he.2 (by omega) (by omega)

/-! ## Pieces -/

theorem forall₂_of_fitting {ranges : List (UInt8 × UInt8)} {b : Bytes}
    (h : fitting ranges b = ranges.length) :
    List.Forall₂ (fun range c => range.1 ≤ c ∧ c ≤ range.2) ranges (b.take ranges.length) := by
  induction ranges generalizing b with
  | nil => exact .nil
  | cons range ranges ih =>
    cases b with
    | nil => cases h
    | cons c b =>
      by_cases hc : range.1 ≤ c ∧ c ≤ range.2
      · simp only [fitting, if_pos hc, List.length_cons, Nat.add_right_cancel_iff] at h
        exact .cons hc (ih h)
      · simp [fitting, if_neg hc] at h

/-- A whole piece is the encoding of a character. -/
theorem exists_char_of_whole {lead : UInt8} {rest : Bytes}
    (h : (cutPiece lead rest).1.whole = true) :
    ∃ c, String.utf8EncodeChar c = (cutPiece lead rest).1.bytes := by
  unfold cutPiece at h ⊢
  split at h
  · cases h
  · next ranges hranges =>
    have hfits : fitting ranges rest = ranges.length := by simpa using h
    have hbytes := forall₂_of_fitting hfits
    rw [← hfits] at hbytes
    exact exists_char_of_followers hranges hbytes

/-- Cutting off a piece loses and reorders nothing. -/
theorem cutPiece_append (lead : UInt8) (rest : Bytes) :
    (cutPiece lead rest).1.bytes ++ (cutPiece lead rest).2 = lead :: rest := by
  unfold cutPiece
  split <;> simp

/-- What holds of no bytes, and of bytes whenever it holds of them behind their first piece, holds
of all bytes. -/
@[elab_as_elim]
theorem pieces_induction {motive : Bytes → Prop} (nil : motive [])
    (piece : ∀ lead rest, motive (cutPiece lead rest).2 → motive (lead :: rest)) (b : Bytes) :
    motive b := by
  induction hn : b.length using Nat.strongRecOn generalizing b with
  | ind n ih =>
    cases b with
    | nil => exact nil
    | cons lead rest =>
      have hle := cutPiece_length_le lead rest
      have hlt : (cutPiece lead rest).2.length < n := by
        rw [← hn]
        exact Nat.lt_succ_of_le hle
      exact piece lead rest (ih _ hlt _ rfl)

/-! ## Lossy decoding -/

theorem lossy_nil : lossy [] = [] := by
  simp [lossy]

theorem lossy_cons (lead : UInt8) (rest : Bytes) :
    lossy (lead :: rest)
      = (if (cutPiece lead rest).1.whole then (cutPiece lead rest).1.bytes else replacement)
        ++ lossy (cutPiece lead rest).2 := by
  rw [lossy, pieces_cons]
  rfl

/-- Lossy decoding always gives a text. -/
theorem isText_lossy (b : Bytes) : Bytes.IsText (lossy b) := by
  induction b using pieces_induction with
  | nil =>
    rw [lossy_nil]
    exact Bytes.isText_nil
  | piece lead rest ih =>
    have hpiece : Bytes.IsText
        (if (cutPiece lead rest).1.whole then (cutPiece lead rest).1.bytes else replacement) := by
      split
      · next hwhole =>
        obtain ⟨c, hc⟩ := exists_char_of_whole hwhole
        exact ⟨[c], by rw [← hc]; simp [encode]⟩
      · exact ⟨[Char.ofNat 0xFFFD], by decide⟩
    rw [lossy_cons]
    exact hpiece.append ih

/-- Lossy decoding brings in no bytes but those of the replacement character. -/
theorem mem_lossy {b : Bytes} {c : UInt8} (hc : c ∈ lossy b) : c ∈ b ∨ c ∈ replacement := by
  induction b using pieces_induction with
  | nil =>
    rw [lossy_nil] at hc
    cases hc
  | piece lead rest ih =>
    rw [← cutPiece_append lead rest, List.mem_append]
    rw [lossy_cons, List.mem_append] at hc
    rcases hc with hc | hc
    · split at hc
      · exact Or.inl (Or.inl hc)
      · exact Or.inr hc
    · rcases ih hc with hmem | hmem
      · exact Or.inl (Or.inr hmem)
      · exact Or.inr hmem

end Text

end LineShell
