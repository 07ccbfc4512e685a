import HidRig.Text.Utf8

/-! # Decoding what was encoded

* `Utf8.start_two`, `Utf8.start_three`, `Utf8.start_four`: what the first byte of a longer form says.
* `Utf8.chunksFrom_char`: the bytes of a character are decoded to it, whatever comes after them.
* `Utf8.chunks_encode`, `Utf8.display_encode`: so are those of a text.
* `Utf8.encode_two`, `Utf8.encode_three`, `Utf8.encode_four`: the longer forms, by number.
* `Utf8.flatMap_chunks`: decoding loses no byte.
* `Utf8.text?_eq_some_iff`: only the encoded text is decoded as that text.
-/

namespace HidRig.Utf8

/-! ## First bytes -/

theorem toNat_ofNat_of_lt {n : Nat} (h : n < 256) : (UInt8.ofNat n).toNat = n := by
  rw [UInt8.toNat_ofNat', Nat.mod_eq_of_lt h]

theorem start_one {n : Nat} (h : n < 0x80) :
    start (UInt8.ofNat n) = .inl (.char (Char.ofNat n)) := by
  simp only [start, toNat_ofNat_of_lt (show n < 256 by omega), if_pos h]

theorem start_two {n : Nat} (low : 0xc2 ≤ n) (high : n < 0xe0) :
    start (UInt8.ofNat n) = .inr ⟨[UInt8.ofNat n], n - 0xc0, 0, 0x80, 0xbf⟩ := by
  simp only [start, toNat_ofNat_of_lt (show n < 256 by omega)]
  rw [if_neg (by omega), if_neg (by omega), if_pos high]

/-- The first of three bytes. The least keeps out shorter forms, and one keeps out surrogates. -/
theorem start_three {n : Nat} (low : 0xe0 ≤ n) (high : n < 0xf0) :
    start (UInt8.ofNat n) = .inr ⟨[UInt8.ofNat n], n - 0xe0, 1, if n = 0xe0 then 0xa0 else 0x80,
      if n = 0xed then 0x9f else 0xbf⟩ := by
  simp only [start, toNat_ofNat_of_lt (show n < 256 by omega)]
  rw [if_neg (by omega), if_neg (by omega), if_neg (by omega)]
  by_cases least : n = 0xe0
  · simp [least]
  · by_cases surrogates : n = 0xed
    · simp [surrogates]
    · rw [if_neg least, if_neg surrogates, if_pos high, if_neg least, if_neg surrogates]

/-- The first of four bytes. The least keeps out shorter forms, and the greatest what is no number
of a character. -/
theorem start_four {n : Nat} (low : 0xf0 ≤ n) (high : n ≤ 0xf4) :
    start (UInt8.ofNat n) = .inr ⟨[UInt8.ofNat n], n - 0xf0, 2, if n = 0xf0 then 0x90 else 0x80,
      if n = 0xf4 then 0x8f else 0xbf⟩ := by
  simp only [start, toNat_ofNat_of_lt (show n < 256 by omega)]
  rw [if_neg (by omega), if_neg (by omega), if_neg (by omega), if_neg (by omega),
    if_neg (by omega), if_neg (by omega)]
  by_cases least : n = 0xf0
  · simp [least]
  · by_cases greatest : n = 0xf4
    · simp [greatest]
    · rw [if_neg least, if_pos (by omega), if_neg least, if_neg greatest]

/-! ## Later bytes -/

theorem chunksFrom_next {seen : Bytes} {bits more : Nat} {lo hi : UInt8} {n : Nat}
    (low : lo.toNat ≤ n) (high : n ≤ hi.toNat) (rest : Bytes) :
    chunksFrom (some ⟨seen, bits, more + 1, lo, hi⟩) (UInt8.ofNat n :: rest) =
      chunksFrom (some ⟨seen ++ [UInt8.ofNat n], bits * 64 + (n - 0x80), more, 0x80, 0xbf⟩) rest := by
  have byte : (UInt8.ofNat n).toNat = n := toNat_ofNat_of_lt (by have := hi.toNat_lt; omega)
  have within : lo ≤ UInt8.ofNat n ∧ UInt8.ofNat n ≤ hi := by
    rw [UInt8.le_iff_toNat_le, UInt8.le_iff_toNat_le, byte]
    exact ⟨low, high⟩
  simp [chunksFrom, feed, within, byte]

theorem chunksFrom_last {seen : Bytes} {bits : Nat} {lo hi : UInt8} {n : Nat}
    (low : lo.toNat ≤ n) (high : n ≤ hi.toNat) (rest : Bytes) :
    chunksFrom (some ⟨seen, bits, 0, lo, hi⟩) (UInt8.ofNat n :: rest) =
      .char (Char.ofNat (bits * 64 + (n - 0x80))) :: chunksFrom none rest := by
  have byte : (UInt8.ofNat n).toNat = n := toNat_ofNat_of_lt (by have := hi.toNat_lt; omega)
  have within : lo ≤ UInt8.ofNat n ∧ UInt8.ofNat n ≤ hi := by
    rw [UInt8.le_iff_toNat_le, UInt8.le_iff_toNat_le, byte]
    exact ⟨low, high⟩
  simp [chunksFrom, feed, within, byte]

theorem chunksFrom_start {b : UInt8} {p : Partial} (h : start b = .inr p) (rest : Bytes) :
    chunksFrom none (b :: rest) = chunksFrom (some p) rest := by
  simp [chunksFrom, feed, h]

/-! ## Characters and texts -/

theorem chunksFrom_char (c : Char) (rest : Bytes) :
    chunksFrom none (String.utf8EncodeChar c ++ rest) = .char c :: chunksFrom none rest := by
  have valid : c.val.toNat < 0xd800 ∨ 0xdfff < c.val.toNat ∧ c.val.toNat < 0x110000 := c.valid
  have back : Char.ofNat c.val.toNat = c := c.ofNat_toNat
  unfold String.utf8EncodeChar
  dsimp only
  generalize c.val.toNat = v at valid back
  split
  · simp [chunksFrom, feed, start_one (show v < 0x80 by omega), back]
  · split
    · have first := start_two (show 0xc2 ≤ v / 64 % 32 + 192 by omega) (by omega)
      have number : (v / 64 % 32 + 192 - 0xc0) * 64 + (v % 64 + 128 - 0x80) = v := by omega
      rw [List.cons_append, List.cons_append, List.nil_append, chunksFrom_start first,
        chunksFrom_last (show 128 ≤ _ by omega) (show _ ≤ 191 by omega), number, back]
    · split
      · have first := start_three (show 0xe0 ≤ v / 4096 % 16 + 224 by omega) (by omega)
        have number : ((v / 4096 % 16 + 224 - 0xe0) * 64 + (v / 64 % 64 + 128 - 0x80)) * 64 +
          (v % 64 + 128 - 0x80) = v := by omega
        simp only [List.cons_append, List.nil_append]
        rw [chunksFrom_start first, chunksFrom_next ?_ ?_,
          chunksFrom_last (show 128 ≤ _ by omega) (show _ ≤ 191 by omega), number, back]
        · split
          · show 160 ≤ _; omega
          · show 128 ≤ _; omega
        · split
          · show _ ≤ 159; omega
          · show _ ≤ 191; omega
      · have first := start_four (show 0xf0 ≤ v / 262144 % 8 + 240 by omega) (by omega)
        have number : (((v / 262144 % 8 + 240 - 0xf0) * 64 + (v / 4096 % 64 + 128 - 0x80)) * 64 +
          (v / 64 % 64 + 128 - 0x80)) * 64 + (v % 64 + 128 - 0x80) = v := by omega
        simp only [List.cons_append, List.nil_append]
        rw [chunksFrom_start first, chunksFrom_next ?_ ?_,
          chunksFrom_next (show 128 ≤ _ by omega) (show _ ≤ 191 by omega),
          chunksFrom_last (show 128 ≤ _ by omega) (show _ ≤ 191 by omega), number, back]
        · split
          · show 144 ≤ _; omega
          · show 128 ≤ _; omega
        · split
          · show _ ≤ 143; omega
          · show _ ≤ 191; omega

theorem chunks_encode (text : String) : chunks (encode text) = text.toList.map .char := by
  unfold chunks encode
  induction text.toList with
  | nil => rfl
  | cons c text ih => rw [List.flatMap_cons, chunksFrom_char, ih, List.map_cons]

theorem display_encode (text : String) : display (encode text) = text := by
  rw [display, chunks_encode, List.map_map]
  have same : (fun chunk : Chunk => chunk.char?.getD '\ufffd') ∘ Chunk.char = id := rfl
  rw [same, List.map_id, String.ofList_toList]

/-! ## Every byte is told -/

/-- The bytes that a chunk was decoded from. -/
def Chunk.bytes : Chunk → Bytes
  | .char c => String.utf8EncodeChar c
  | .broken bytes => bytes

theorem val_ofNat {n : Nat} (valid : n < 0xd800 ∨ 0xdfff < n ∧ n < 0x110000) :
    (Char.ofNat n).val.toNat = n := by
  have valid : n.isValidChar := valid
  rw [Char.ofNat, dif_pos valid]
  rfl

theorem encode_two {n : Nat} (low : 0x80 ≤ n) (high : n < 0x800) :
    String.utf8EncodeChar (Char.ofNat n) =
      [UInt8.ofNat (n / 64 + 0xc0), UInt8.ofNat (n % 64 + 0x80)] := by
  unfold String.utf8EncodeChar
  dsimp only
  rw [val_ofNat (by omega), if_neg (by omega), if_pos (by omega),
    Nat.mod_eq_of_lt (show n / 64 < 32 by omega)]

theorem encode_three {n : Nat} (low : 0x800 ≤ n) (high : n < 0x10000)
    (valid : n < 0xd800 ∨ 0xdfff < n) :
    String.utf8EncodeChar (Char.ofNat n) =
      [UInt8.ofNat (n / 4096 + 0xe0), UInt8.ofNat (n / 64 % 64 + 0x80),
        UInt8.ofNat (n % 64 + 0x80)] := by
  unfold String.utf8EncodeChar
  dsimp only
  rw [val_ofNat (by omega), if_neg (by omega), if_neg (by omega), if_pos (by omega),
    Nat.mod_eq_of_lt (show n / 4096 < 16 by omega)]

theorem encode_four {n : Nat} (low : 0x10000 ≤ n) (high : n < 0x110000) :
    String.utf8EncodeChar (Char.ofNat n) =
      [UInt8.ofNat (n / 262144 + 0xf0), UInt8.ofNat (n / 4096 % 64 + 0x80),
        UInt8.ofNat (n / 64 % 64 + 0x80), UInt8.ofNat (n % 64 + 0x80)] := by
  unfold String.utf8EncodeChar
  dsimp only
  rw [val_ofNat (by omega), if_neg (by omega), if_neg (by omega), if_neg (by omega),
    Nat.mod_eq_of_lt (show n / 262144 < 8 by omega)]

theorem eq_ofNat {b : UInt8} {n : Nat} (h : n = b.toNat) : UInt8.ofNat n = b := by
  rw [h, UInt8.ofNat_toNat]

/-- Whatever bytes end an open character, the character is written by these bytes after those
seen. -/
def Completes : (more : Nat) → (seen : Bytes) → (bits : Nat) → (lo hi : UInt8) → Prop
  | 0, seen, bits, lo, hi => ∀ b : UInt8, lo ≤ b → b ≤ hi →
    String.utf8EncodeChar (Char.ofNat (bits * 64 + (b.toNat - 0x80))) = seen ++ [b]
  | more + 1, seen, bits, lo, hi => ∀ b : UInt8, lo ≤ b → b ≤ hi →
    Completes more (seen ++ [b]) (bits * 64 + (b.toNat - 0x80)) 0x80 0xbf

theorem completes_two {b : UInt8} (low : 0xc2 ≤ b.toNat) (high : b.toNat < 0xe0) :
    Completes 0 [b] (b.toNat - 0xc0) 0x80 0xbf := by
  intro c above below
  rw [UInt8.le_iff_toNat_le] at above below
  have above : 0x80 ≤ c.toNat := above
  have below : c.toNat ≤ 0xbf := below
  rw [encode_two (by omega) (by omega), eq_ofNat (b := b) (by omega), eq_ofNat (b := c) (by omega)]
  rfl

/-- The bounds of the second byte keep out shorter forms and surrogates. -/
theorem completes_three {b lo hi : UInt8} (low : 0xe0 ≤ b.toNat) (high : b.toNat < 0xf0)
    (bounds : 0x80 ≤ lo.toNat ∧ hi.toNat ≤ 0xbf) (long : b.toNat = 0xe0 → 0xa0 ≤ lo.toNat)
    (plain : b.toNat = 0xed → hi.toNat ≤ 0x9f) :
    Completes 1 [b] (b.toNat - 0xe0) lo hi := by
  intro c aboveC belowC d aboveD belowD
  rw [UInt8.le_iff_toNat_le] at aboveC belowC aboveD belowD
  have aboveD : 0x80 ≤ d.toNat := aboveD
  have belowD : d.toNat ≤ 0xbf := belowD
  rw [encode_three (by omega) (by omega) (by omega), eq_ofNat (b := b) (by omega),
    eq_ofNat (b := c) (by omega), eq_ofNat (b := d) (by omega)]
  rfl

theorem completes_four {b lo hi : UInt8} (low : 0xf0 ≤ b.toNat) (high : b.toNat ≤ 0xf4)
    (bounds : 0x80 ≤ lo.toNat ∧ hi.toNat ≤ 0xbf) (long : b.toNat = 0xf0 → 0x90 ≤ lo.toNat)
    (last : b.toNat = 0xf4 → hi.toNat ≤ 0x8f) :
    Completes 2 [b] (b.toNat - 0xf0) lo hi := by
  intro c aboveC belowC d aboveD belowD e aboveE belowE
  rw [UInt8.le_iff_toNat_le] at aboveC belowC aboveD belowD aboveE belowE
  have aboveD : 0x80 ≤ d.toNat := aboveD
  have belowD : d.toNat ≤ 0xbf := belowD
  have aboveE : 0x80 ≤ e.toNat := aboveE
  have belowE : e.toNat ≤ 0xbf := belowE
  rw [encode_four (by omega) (by omega), eq_ofNat (b := b) (by omega),
    eq_ofNat (b := c) (by omega), eq_ofNat (b := d) (by omega), eq_ofNat (b := e) (by omega)]
  rfl

/-- What the first byte of a chunk says: the whole chunk, or a character that later bytes may end. -/
theorem start_cases (b : UInt8) :
    (∃ chunk, start b = .inl chunk ∧ chunk.bytes = [b]) ∨
      ∃ bits more lo hi, start b = .inr ⟨[b], bits, more, lo, hi⟩ ∧
        Completes more [b] bits lo hi := by
  have same : UInt8.ofNat b.toNat = b := UInt8.ofNat_toNat
  have bound := b.toNat_lt
  by_cases one : b.toNat < 0x80
  · have value : (Char.ofNat b.toNat).val.toNat = b.toNat := val_ofNat (by omega)
    have short : b.toNat ≤ 127 := by omega
    have first := start_one one
    rw [same] at first
    exact .inl ⟨_, first, by simp [Chunk.bytes, String.utf8EncodeChar, value, short]⟩
  by_cases early : b.toNat < 0xc2
  · exact .inl ⟨.broken [b], by simp [start, one, early], rfl⟩
  by_cases two : b.toNat < 0xe0
  · have first := start_two (by omega) two
    rw [same] at first
    exact .inr ⟨_, _, _, _, first, completes_two (by omega) two⟩
  by_cases three : b.toNat < 0xf0
  · have first := start_three (by omega) three
    rw [same] at first
    refine .inr ⟨_, _, _, _, first, completes_three (by omega) three ⟨?_, ?_⟩ ?_ ?_⟩
    · split <;> decide
    · split <;> decide
    · intro least; rw [if_pos least]; decide
    · intro surrogates; rw [if_pos surrogates]; decide
  by_cases four : b.toNat ≤ 0xf4
  · have first := start_four (by omega) four
    rw [same] at first
    refine .inr ⟨_, _, _, _, first, completes_four (by omega) four ⟨?_, ?_⟩ ?_ ?_⟩
    · split <;> decide
    · split <;> decide
    · intro least; rw [if_pos least]; decide
    · intro greatest; rw [if_pos greatest]; decide
  · have late : ¬ b.toNat < 0xf4 ∧ b.toNat ≠ 0xf0 ∧ b.toNat ≠ 0xf4 ∧ b.toNat ≠ 0xe0 ∧
        b.toNat ≠ 0xed := by omega
    refine .inl ⟨.broken [b], ?_, rfl⟩
    simp [start, one, early, two, three, late]

/-- A state of the decoder, with the bytes that it has seen of an open character. -/
inductive Open : Option Partial → Bytes → Prop
  | idle : Open none []
  | within {seen : Bytes} {bits more : Nat} {lo hi : UInt8} (ends : Completes more seen bits lo hi) :
      Open (some ⟨seen, bits, more, lo, hi⟩) seen

/-- A byte that starts a chunk. -/
theorem feed_none (b : UInt8) :
    ∃ seen, Open (feed none b).2 seen ∧ (feed none b).1.flatMap Chunk.bytes ++ seen = [b] := by
  rcases start_cases b with ⟨chunk, first, bytes⟩ | ⟨bits, more, lo, hi, first, ends⟩
  · exact ⟨[], by simp [feed, first, Open.idle], by simp [feed, first, bytes]⟩
  · exact ⟨[b], by simp [feed, first, Open.within ends], by simp [feed, first]⟩

/-- A byte that cannot continue the open character breaks it, and starts a chunk. -/
theorem feed_broken {p : Partial} {b : UInt8} (stray : ¬ (p.lo ≤ b ∧ b ≤ p.hi)) :
    feed (some p) b = (.broken p.seen :: (feed none b).1, (feed none b).2) := by
  simp only [feed, if_neg stray]
  cases start b <;> rfl

theorem feed_open {state : Option Partial} {seen : Bytes} (h : Open state seen) (b : UInt8) :
    ∃ later, Open (feed state b).2 later ∧
      (feed state b).1.flatMap Chunk.bytes ++ later = seen ++ [b] := by
  cases h with
  | idle => exact feed_none b
  | @within _ bits more lo hi ends =>
    by_cases fits : lo ≤ b ∧ b ≤ hi
    · cases more with
      | zero =>
        have whole := ends b fits.1 fits.2
        exact ⟨[], by simp [feed, fits, Open.idle], by simp [feed, fits, Chunk.bytes, whole]⟩
      | succ more =>
        have next : Completes more _ _ _ _ := ends b fits.1 fits.2
        exact ⟨seen ++ [b], by simpa [feed, fits] using Open.within next, by simp [feed, fits]⟩
    · obtain ⟨later, state, bytes⟩ := feed_none b
      rw [feed_broken fits]
      exact ⟨later, state, by rw [List.flatMap_cons, List.append_assoc, bytes]; rfl⟩

theorem flatMap_chunksFrom {state : Option Partial} {seen : Bytes} (h : Open state seen)
    (bytes : Bytes) : (chunksFrom state bytes).flatMap Chunk.bytes = seen ++ bytes := by
  induction bytes generalizing state seen with
  | nil =>
    cases h with
    | idle => rfl
    | within => simp [chunksFrom, Chunk.bytes]
  | cons b rest ih =>
    obtain ⟨later, next, told⟩ := feed_open h b
    have step : chunksFrom state (b :: rest) =
        (feed state b).1 ++ chunksFrom (feed state b).2 rest := by
      cases state <;> rfl
    rw [step, List.flatMap_append, ih next, ← List.append_assoc, told, List.append_assoc,
      List.singleton_append]

/-- Decoding loses nothing: the chunks of a byte string are its bytes. -/
theorem flatMap_chunks (bytes : Bytes) : (chunks bytes).flatMap Chunk.bytes = bytes :=
  flatMap_chunksFrom .idle bytes

theorem mapM_eq_some_iff {α β : Type} {f : α → Option β} {g : β → α}
    (inverse : ∀ a b, f a = some b ↔ a = g b) (as : List α) (bs : List β) :
    as.mapM f = some bs ↔ as = bs.map g := by
  induction as generalizing bs with
  | nil => cases bs <;> simp
  | cons a as ih =>
    cases bs with
    | nil => simp [List.mapM_cons, Option.bind_eq_some_iff]
    | cons b bs => simp [List.mapM_cons, Option.bind_eq_some_iff, inverse, ih]

theorem char?_eq_some_iff (chunk : Chunk) (c : Char) : chunk.char? = some c ↔ chunk = .char c := by
  cases chunk <;> simp [Chunk.char?]

/-- A byte string is read as a text if and only if it is the encoded text. -/
theorem text?_eq_some_iff (bytes : Bytes) (text : String) :
    text? bytes = some text ↔ bytes = encode text := by
  rw [text?, Option.map_eq_some_iff]
  constructor
  · rintro ⟨cs, all, rfl⟩
    rw [mapM_eq_some_iff char?_eq_some_iff] at all
    have lossless := flatMap_chunks bytes
    rw [all, List.flatMap_map] at lossless
    rw [← lossless, encode, String.toList_ofList]
    rfl
  · rintro rfl
    have all := (mapM_eq_some_iff char?_eq_some_iff _ _).mpr (chunks_encode text)
    exact ⟨text.toList, all, String.ofList_toList⟩

end HidRig.Utf8
