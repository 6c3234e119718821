import RoadRegistry.Text.Utf8

namespace RoadRegistry.Text.Utf8

/-- The bytes that spell a character, read off the announcements of the lead byte. -/
inductive Spells : Bytes → Char → Prop where
  | one {a : UInt8} : a < 0x80 → Spells [a] (Char.ofNat a.toNat)
  | two {a b : UInt8} {lead : Lead} : ¬ a < 0x80 → lead? a = some lead →
      lead.low ≤ b ∧ b ≤ lead.high → lead.following = 1 → Spells [a, b] (char2 a b)
  | three {a b c : UInt8} {lead : Lead} : ¬ a < 0x80 → lead? a = some lead →
      lead.low ≤ b ∧ b ≤ lead.high → lead.following = 2 → isContinuation c →
      Spells [a, b, c] (char3 a b c)
  | four {a b c d : UInt8} {lead : Lead} : ¬ a < 0x80 → lead? a = some lead →
      lead.low ≤ b ∧ b ≤ lead.high → lead.following ≠ 1 → lead.following ≠ 2 →
      isContinuation c → isContinuation d → Spells [a, b, c, d] (char4 a b c d)

theorem Spells.pieces_append {bytes : Bytes} {c : Char} (h : Spells bytes c) (rest : Bytes) :
    pieces (bytes ++ rest) = .char c :: pieces rest := by
  cases h with
  | one small => rw [List.singleton_append, pieces, if_pos small]
  | two large found second length =>
    change pieces (_ :: _ :: rest) = _
    rw [pieces, if_neg large, found]
    simp only [second, length, not_true_eq_false, and_self, ite_true, ite_false]
  | three large found second length third =>
    change pieces (_ :: _ :: _ :: rest) = _
    rw [pieces, if_neg large, found]
    simp only [second, length, third, not_true_eq_false, and_self, ite_true, Nat.reduceEqDiff,
      ite_false]
  | four large found second notTwo notThree third fourth =>
    change pieces (_ :: _ :: _ :: _ :: rest) = _
    rw [pieces, if_neg large, found]
    simp only [second, notTwo, notThree, third, fourth, not_true_eq_false, and_self, ite_false]

theorem spells_of_pieces {bytes : Bytes} {c : Char} {more : List Piece}
    (h : pieces bytes = .char c :: more) :
    ∃ front rest, bytes = front ++ rest ∧ Spells front c ∧ more = pieces rest := by
  rw [pieces.eq_def] at h
  split at h
  · cases h
  · next a rest =>
    split at h
    · next small => cases h; exact ⟨[a], rest, rfl, .one small, rfl⟩
    · next large =>
      split at h
      · cases h
      · next lead found =>
        split at h
        · cases h
        · next b afterB =>
          split at h
          · cases h
          · next second =>
            rw [Classical.not_not] at second
            split at h
            · next length =>
              cases h
              exact ⟨[a, b], afterB, rfl, .two large found second length, rfl⟩
            · next notTwo =>
              split at h
              · cases h
              · next c afterC =>
                split at h
                · cases h
                · next third =>
                  rw [Classical.not_not] at third
                  split at h
                  · next length =>
                    cases h
                    exact ⟨[a, b, c], afterC, rfl, .three large found second length third, rfl⟩
                  · next notThree =>
                    split at h
                    · cases h
                    · next d afterD =>
                      split at h
                      · cases h
                      · next fourth =>
                        rw [Classical.not_not] at fourth
                        cases h
                        exact ⟨[a, b, c, d], afterD, rfl,
                          .four large found second notTwo notThree third fourth, rfl⟩

theorem lead?_two {a : UInt8} (b : UInt8) (low : 0xC2 ≤ a.toNat) (high : a.toNat ≤ 0xDF) :
    ∃ lead, lead? a = some lead ∧ lead.following = 1 ∧
      (lead.low ≤ b ∧ b ≤ lead.high ↔ 0x80 ≤ b.toNat ∧ b.toNat ≤ 0xBF) := by
  refine ⟨⟨1, 0x80, 0xBF⟩, ?_, rfl, ?_⟩
  · simp only [lead?, UInt8.le_iff_toNat_le, UInt8.reduceToNat]
    rw [if_pos ⟨low, high⟩]
  · simp only [UInt8.le_iff_toNat_le, UInt8.reduceToNat]

theorem lead?_three {a : UInt8} (b : UInt8) (low : 0xE0 ≤ a.toNat) (high : a.toNat ≤ 0xEF) :
    ∃ lead, lead? a = some lead ∧ lead.following = 2 ∧
      (lead.low ≤ b ∧ b ≤ lead.high ↔ 0x80 ≤ b.toNat ∧ b.toNat ≤ 0xBF ∧
        (a.toNat = 0xE0 → 0xA0 ≤ b.toNat) ∧ (a.toNat = 0xED → b.toNat ≤ 0x9F)) := by
  simp only [lead?, UInt8.le_iff_toNat_le, ← UInt8.toNat_inj, UInt8.reduceToNat]
  rw [if_neg (by omega)]
  by_cases first : a.toNat = 0xE0
  · rw [if_pos first]
    refine ⟨_, rfl, rfl, ?_⟩
    simp only [UInt8.reduceToNat]
    omega
  · by_cases surrogate : a.toNat = 0xED
    · rw [if_neg first, if_pos surrogate]
      refine ⟨_, rfl, rfl, ?_⟩
      simp only [UInt8.reduceToNat]
      omega
    · rw [if_neg first, if_neg surrogate, if_pos (by omega)]
      refine ⟨_, rfl, rfl, ?_⟩
      simp only [UInt8.reduceToNat]
      omega

theorem lead?_four {a : UInt8} (b : UInt8) (low : 0xF0 ≤ a.toNat) (high : a.toNat ≤ 0xF4) :
    ∃ lead, lead? a = some lead ∧ lead.following = 3 ∧
      (lead.low ≤ b ∧ b ≤ lead.high ↔ 0x80 ≤ b.toNat ∧ b.toNat ≤ 0xBF ∧
        (a.toNat = 0xF0 → 0x90 ≤ b.toNat) ∧ (a.toNat = 0xF4 → b.toNat ≤ 0x8F)) := by
  simp only [lead?, UInt8.le_iff_toNat_le, ← UInt8.toNat_inj, UInt8.reduceToNat]
  rw [if_neg (by omega), if_neg (by omega), if_neg (by omega), if_neg (by omega)]
  by_cases first : a.toNat = 0xF0
  · rw [if_pos first]
    refine ⟨_, rfl, rfl, ?_⟩
    simp only [UInt8.reduceToNat]
    omega
  · by_cases last : a.toNat = 0xF4
    · rw [if_neg first, if_pos last]
      refine ⟨_, rfl, rfl, ?_⟩
      simp only [UInt8.reduceToNat]
      omega
    · rw [if_neg first, if_neg last, if_pos (by omega)]
      refine ⟨_, rfl, rfl, ?_⟩
      simp only [UInt8.reduceToNat]
      omega

theorem lead?_range {b : UInt8} {lead : Lead} (h : lead? b = some lead) :
    (0xC2 ≤ b.toNat ∧ b.toNat ≤ 0xDF) ∨ (0xE0 ≤ b.toNat ∧ b.toNat ≤ 0xEF) ∨
      (0xF0 ≤ b.toNat ∧ b.toNat ≤ 0xF4) := by
  simp only [lead?, UInt8.le_iff_toNat_le, ← UInt8.toNat_inj, UInt8.reduceToNat] at h
  repeat' split at h
  all_goals first | omega | cases h

theorem isContinuation_iff {b : UInt8} :
    isContinuation b = true ↔ 0x80 ≤ b.toNat ∧ b.toNat ≤ 0xBF := by
  simp only [isContinuation, UInt8.le_iff_toNat_le, UInt8.reduceToNat, Bool.and_eq_true,
    decide_eq_true_eq]

theorem val_ofNat {n : Nat} (valid : n < 0xD800 ∨ 0xDFFF < n ∧ n < 0x110000) :
    (Char.ofNat n).val.toNat = n := by
  have isValid : n.isValidChar := valid
  have made : Char.ofNat n = Char.ofNatAux n isValid := dif_pos isValid
  rw [made]
  rfl

theorem encode_one {c : Char} {a : UInt8} (small : c.val.toNat ≤ 0x7F)
    (ha : a.toNat = c.val.toNat) : String.utf8EncodeChar c = [a] := by
  simp only [String.utf8EncodeChar, small, ite_true, List.cons.injEq, ← UInt8.toNat_inj,
    UInt8.toNat_ofNat', and_true]
  omega

theorem encode_two {c : Char} {a b : UInt8} (low : 0x80 ≤ c.val.toNat)
    (high : c.val.toNat ≤ 0x7FF) (ha : a.toNat = c.val.toNat / 64 + 0xC0)
    (hb : b.toNat = c.val.toNat % 64 + 0x80) : String.utf8EncodeChar c = [a, b] := by
  unfold String.utf8EncodeChar
  simp only [show ¬ c.val.toNat ≤ 0x7F by omega, high, ite_true, ite_false, List.cons.injEq,
    ← UInt8.toNat_inj, UInt8.toNat_ofNat', and_true]
  omega

theorem encode_three {c : Char} {a b d : UInt8} (low : 0x800 ≤ c.val.toNat)
    (high : c.val.toNat ≤ 0xFFFF) (ha : a.toNat = c.val.toNat / 4096 + 0xE0)
    (hb : b.toNat = c.val.toNat / 64 % 64 + 0x80) (hd : d.toNat = c.val.toNat % 64 + 0x80) :
    String.utf8EncodeChar c = [a, b, d] := by
  unfold String.utf8EncodeChar
  simp only [show ¬ c.val.toNat ≤ 0x7F by omega, show ¬ c.val.toNat ≤ 0x7FF by omega, high,
    ite_true, ite_false, List.cons.injEq, ← UInt8.toNat_inj, UInt8.toNat_ofNat', and_true]
  omega

theorem encode_four {c : Char} {a b d e : UInt8} (low : 0x10000 ≤ c.val.toNat)
    (ha : a.toNat = c.val.toNat / 262144 % 8 + 0xF0)
    (hb : b.toNat = c.val.toNat / 4096 % 64 + 0x80)
    (hd : d.toNat = c.val.toNat / 64 % 64 + 0x80) (he : e.toNat = c.val.toNat % 64 + 0x80) :
    String.utf8EncodeChar c = [a, b, d, e] := by
  unfold String.utf8EncodeChar
  simp only [show ¬ c.val.toNat ≤ 0x7F by omega, show ¬ c.val.toNat ≤ 0x7FF by omega,
    show ¬ c.val.toNat ≤ 0xFFFF by omega, ite_false, List.cons.injEq, ← UInt8.toNat_inj,
    UInt8.toNat_ofNat', and_true]
  omega

theorem lead_second_range {a b : UInt8} {lead : Lead} (found : lead? a = some lead)
    (second : lead.low ≤ b ∧ b ≤ lead.high) :
    (0x80 ≤ b.toNat ∧ b.toNat ≤ 0xBF) ∧
      ((lead.following = 1 ∧ 0xC2 ≤ a.toNat ∧ a.toNat ≤ 0xDF) ∨
      (lead.following = 2 ∧ 0xE0 ≤ a.toNat ∧ a.toNat ≤ 0xEF ∧
        (a.toNat = 0xE0 → 0xA0 ≤ b.toNat) ∧ (a.toNat = 0xED → b.toNat ≤ 0x9F)) ∨
      (lead.following = 3 ∧ 0xF0 ≤ a.toNat ∧ a.toNat ≤ 0xF4 ∧
        (a.toNat = 0xF0 → 0x90 ≤ b.toNat) ∧ (a.toNat = 0xF4 → b.toNat ≤ 0x8F))) := by
  rcases lead?_range found with ⟨low, high⟩ | ⟨low, high⟩ | ⟨low, high⟩
  · obtain ⟨same, h, length, range⟩ := lead?_two b low high
    cases h.symm.trans found
    have bounds := range.mp second
    exact ⟨bounds, .inl ⟨length, low, high⟩⟩
  · obtain ⟨same, h, length, range⟩ := lead?_three b low high
    cases h.symm.trans found
    have bounds := range.mp second
    exact ⟨⟨bounds.1, bounds.2.1⟩, .inr (.inl ⟨length, low, high, bounds.2.2⟩)⟩
  · obtain ⟨same, h, length, range⟩ := lead?_four b low high
    cases h.symm.trans found
    have bounds := range.mp second
    exact ⟨⟨bounds.1, bounds.2.1⟩, .inr (.inr ⟨length, low, high, bounds.2.2⟩)⟩

theorem Spells.encode_eq {bytes : Bytes} {c : Char} (h : Spells bytes c) :
    String.utf8EncodeChar c = bytes := by
  cases h with
  | @one a small =>
    rw [UInt8.lt_iff_toNat_lt] at small
    change a.toNat < 128 at small
    have value := val_ofNat (n := a.toNat) (by omega)
    exact encode_one (by omega) value.symm
  | @two a b lead large found second length =>
    have bounds := lead_second_range found second
    have value := val_ofNat (n := a.toNat % 32 * 64 + b.toNat % 64) (by omega)
    change (char2 a b).val.toNat = _ at value
    exact encode_two (by omega) (by omega) (by omega) (by omega)
  | @three a b c lead large found second length third =>
    rw [isContinuation_iff] at third
    have bounds := lead_second_range found second
    have value := val_ofNat (n := (a.toNat % 16 * 64 + b.toNat % 64) * 64 + c.toNat % 64)
      (by omega)
    change (char3 a b c).val.toNat = _ at value
    exact encode_three (by omega) (by omega) (by omega) (by omega) (by omega)
  | @four a b c d lead large found second notTwo notThree third fourth =>
    rw [isContinuation_iff] at third fourth
    have bounds := lead_second_range found second
    have value := val_ofNat
      (n := ((a.toNat % 8 * 64 + b.toNat % 64) * 64 + c.toNat % 64) * 64 + d.toNat % 64) (by omega)
    change (char4 a b c d).val.toNat = _ at value
    exact encode_four (by omega) (by omega) (by omega) (by omega) (by omega)

theorem not_lt_of_toNat {a : UInt8} (large : 0x80 ≤ a.toNat) : ¬ a < 0x80 := by
  rw [UInt8.lt_iff_toNat_lt]
  exact Nat.not_lt.mpr large

theorem exists_toNat {n : Nat} (small : n < 256) : ∃ a : UInt8, a.toNat = n :=
  ⟨.ofNat n, by rw [UInt8.toNat_ofNat', Nat.mod_eq_of_lt small]⟩

theorem spells_encode (c : Char) : Spells (String.utf8EncodeChar c) c := by
  have valid : c.val.toNat < 0xD800 ∨ 0xDFFF < c.val.toNat ∧ c.val.toNat < 0x110000 := c.valid
  have spelled {d : Char} {n : Nat} (value : d = Char.ofNat n) (same : n = c.val.toNat) :
      d = c := by
    rw [value, Char.ext_iff, ← UInt32.toNat_inj, val_ofNat (by omega), same]
  obtain ⟨last, hLast⟩ := exists_toNat (n := c.val.toNat % 64 + 0x80) (by omega)
  obtain ⟨third, hThird⟩ := exists_toNat (n := c.val.toNat / 64 % 64 + 0x80) (by omega)
  have isLast : isContinuation last = true := isContinuation_iff.mpr (by omega)
  have isThird : isContinuation third = true := isContinuation_iff.mpr (by omega)
  by_cases one : c.val.toNat ≤ 0x7F
  · obtain ⟨a, ha⟩ := exists_toNat (n := c.val.toNat) (by omega)
    rw [encode_one one ha, ← spelled (n := a.toNat) rfl ha]
    exact .one (by rw [UInt8.lt_iff_toNat_lt, ha]; exact Nat.lt_succ_of_le one)
  by_cases two : c.val.toNat ≤ 0x7FF
  · obtain ⟨a, ha⟩ := exists_toNat (n := c.val.toNat / 64 + 0xC0) (by omega)
    obtain ⟨lead, found, length, range⟩ := lead?_two (a := a) last (by omega) (by omega)
    rw [encode_two (by omega) two ha hLast,
      ← spelled (d := char2 a last) rfl (by simp only [low6]; omega)]
    exact .two (not_lt_of_toNat (by omega)) found (range.mpr (by omega)) length
  by_cases three : c.val.toNat ≤ 0xFFFF
  · obtain ⟨a, ha⟩ := exists_toNat (n := c.val.toNat / 4096 + 0xE0) (by omega)
    obtain ⟨lead, found, length, range⟩ := lead?_three (a := a) third (by omega) (by omega)
    rw [encode_three (by omega) three ha hThird hLast,
      ← spelled (d := char3 a third last) rfl (by simp only [low6]; omega)]
    exact .three (not_lt_of_toNat (by omega)) found (range.mpr (by omega)) length isLast
  · obtain ⟨a, ha⟩ := exists_toNat (n := c.val.toNat / 262144 % 8 + 0xF0) (by omega)
    obtain ⟨b, hb⟩ := exists_toNat (n := c.val.toNat / 4096 % 64 + 0x80) (by omega)
    obtain ⟨lead, found, length, range⟩ := lead?_four (a := a) b (by omega) (by omega)
    rw [encode_four (by omega) ha hb hThird hLast,
      ← spelled (d := char4 a b third last) rfl (by simp only [low6]; omega)]
    exact .four (not_lt_of_toNat (by omega)) found (range.mpr (by omega)) (by omega) (by omega)
      isThird isLast

theorem pieces_ofString (text : String) : pieces (Bytes.ofString text) = text.toList.map .char := by
  unfold Bytes.ofString
  induction text.toList with
  | nil => rfl
  | cons c chars ih =>
    rw [List.flatMap_cons, (spells_encode c).pieces_append, ih, List.map_cons]

theorem charsFrom_map_char (index : Nat) (chars : List Char) :
    charsFrom index (chars.map .char) = .ok chars := by
  induction chars generalizing index with
  | nil => rfl
  | cons c chars ih => simp only [List.map_cons, charsFrom, ih, Except.map]

theorem decode_ofString (text : String) : decode (Bytes.ofString text) = .ok text := by
  rw [decode, pieces_ofString, charsFrom_map_char]
  exact congrArg Except.ok String.ofList_toList

theorem ofString_inj {text other : String} :
    Bytes.ofString text = Bytes.ofString other ↔ text = other := by
  constructor
  · intro same
    have decoded := decode_ofString text
    rw [same, decode_ofString] at decoded
    exact (Except.ok.inj decoded).symm
  · rintro rfl
    rfl

theorem eq_map_char_of_charsFrom {index : Nat} {found : List Piece} {chars : List Char}
    (h : charsFrom index found = .ok chars) : found = chars.map .char := by
  induction found generalizing index chars with
  | nil => cases h; rfl
  | cons piece rest ih =>
    cases piece with
    | char c =>
      rw [charsFrom] at h
      cases read : charsFrom (index + c.utf8Size) rest with
      | error fault => rw [read] at h; cases h
      | ok others =>
        rw [read] at h
        cases h
        rw [ih read, List.map_cons]
    | broken length => cases h
    | unfinished length => cases h

theorem eq_nil_of_pieces {bytes : Bytes} (h : pieces bytes = []) : bytes = [] := by
  cases bytes with
  | nil => rfl
  | cons a rest =>
    rw [pieces.eq_def] at h
    simp only at h
    repeat' split at h
    all_goals cases h

theorem eq_encode_of_pieces {bytes : Bytes} {chars : List Char}
    (h : pieces bytes = chars.map .char) : bytes = chars.flatMap String.utf8EncodeChar := by
  induction chars generalizing bytes with
  | nil => rw [eq_nil_of_pieces h, List.flatMap_nil]
  | cons c chars ih =>
    obtain ⟨front, rest, rfl, spelled, more⟩ := spells_of_pieces h
    rw [List.flatMap_cons, spelled.encode_eq, ← ih more.symm]

theorem decode_eq_ok_iff {bytes : Bytes} {text : String} :
    decode bytes = .ok text ↔ bytes = Bytes.ofString text := by
  constructor
  · intro h
    rw [decode] at h
    cases read : charsFrom 0 (pieces bytes) with
    | error fault => rw [read] at h; cases h
    | ok chars =>
      rw [read] at h
      cases h
      rw [Bytes.ofString, String.toList_ofList]
      exact eq_encode_of_pieces (eq_map_char_of_charsFrom read)
  · rintro rfl
    exact decode_ofString text

end RoadRegistry.Text.Utf8
