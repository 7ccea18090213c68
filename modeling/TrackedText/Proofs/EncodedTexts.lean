import TrackedText.Files

namespace TrackedText

namespace Utf8

variable {v n lo hi : Nat}

theorem follow_cons (hlo : lo ≤ n % 64 + 128) (hhi : n % 64 + 128 ≤ hi) (value seen : Nat)
    (bounds : List (Nat × Nat)) (bytes : List UInt8) :
    follow value seen ((lo, hi) :: bounds) (UInt8.ofNat (n % 64 + 128) :: bytes) =
      follow (value * 64 + n % 64) (seen + 1) bounds bytes := by
  have hb : (UInt8.ofNat (n % 64 + 128)).toNat = n % 64 + 128 := UInt8.toNat_ofNat_of_lt' (show _ < 256 by omega)
  have hm : (n % 64 + 128) % 64 = n % 64 := by omega
  rw [follow, hb, if_pos ⟨hlo, hhi⟩, hm]

theorem lead?_two (hlo : 0x80 ≤ v) (hhi : v ≤ 0x7ff) :
    lead? (v / 64 % 32 + 192) = some (v / 64, 0x80, 0xbf, 0) := by
  rw [lead?, if_pos (by omega)]
  exact congrArg (fun bits => some (bits, 0x80, 0xbf, 0)) (by omega)

/-- The second byte of three is so bounded that what two bytes could say and the surrogates stay out. -/
theorem lead?_three (hlo : 0x800 ≤ v) (hhi : v ≤ 0xffff) (hv : v < 0xd800 ∨ 0xdfff < v) :
    ∃ lo hi, lead? (v / 4096 % 16 + 224) = some (v / 4096, lo, hi, 1) ∧
      lo ≤ v / 64 % 64 + 128 ∧ v / 64 % 64 + 128 ≤ hi := by
  rw [lead?, if_neg (by omega)]
  by_cases hfirst : v / 4096 = 0
  · rw [hfirst, if_pos (by omega)]
    exact ⟨0xa0, 0xbf, rfl, by omega, by omega⟩
  rw [if_neg (by omega)]
  by_cases hsurrogates : v / 4096 = 0xd
  · rw [hsurrogates, if_pos (by omega)]
    exact ⟨0x80, 0x9f, rfl, by omega, by omega⟩
  rw [if_neg (by omega), if_pos (by omega)]
  exact ⟨0x80, 0xbf, congrArg (fun bits => some (bits, 0x80, 0xbf, 1)) (by omega), by omega, by omega⟩

theorem lead?_four (hlo : 0x10000 ≤ v) (hhi : v < 0x110000) :
    ∃ lo hi, lead? (v / 262144 % 8 + 240) = some (v / 262144, lo, hi, 2) ∧
      lo ≤ v / 4096 % 64 + 128 ∧ v / 4096 % 64 + 128 ≤ hi := by
  rw [lead?, if_neg (by omega), if_neg (by omega), if_neg (by omega), if_neg (by omega)]
  by_cases hfirst : v / 262144 = 0
  · rw [hfirst, if_pos (by omega)]
    exact ⟨0x90, 0xbf, rfl, by omega, by omega⟩
  rw [if_neg (by omega)]
  by_cases hlast : v / 262144 = 4
  · rw [hlast, if_neg (by omega), if_pos (by omega)]
    exact ⟨0x80, 0x8f, rfl, by omega, by omega⟩
  rw [if_pos (by omega)]
  exact ⟨0x80, 0xbf, congrArg (fun bits => some (bits, 0x80, 0xbf, 2)) (by omega), by omega, by omega⟩

theorem front_lead {b bits more : Nat} {bytes : List UInt8} (hb : 0x80 ≤ b)
    (hl : lead? b = some (bits, lo, hi, more))
    (hf : follow bits 1 ((lo, hi) :: List.replicate more (0x80, 0xbf)) bytes = .ok (v, more + 2)) :
    front b bytes = .ok (Char.ofNat v, more + 1) := by
  rw [front, if_neg (by omega), hl]
  dsimp only
  rw [hf]
  rfl

theorem front_encodeChar (c : Char) (rest : List UInt8) :
    ∃ b bytes, String.utf8EncodeChar c = b :: bytes ∧ front b.toNat (bytes ++ rest) = .ok (c, bytes.length) := by
  have hvalid : c.val.toNat < 0xd800 ∨ 0xdfff < c.val.toNat ∧ c.val.toNat < 0x110000 := c.valid
  have hc : Char.ofNat c.val.toNat = c := Char.ofNat_toNat c
  simp only [String.utf8EncodeChar]
  generalize c.val.toNat = v at hvalid hc
  subst hc
  split
  · refine ⟨_, [], rfl, ?_⟩
    rw [UInt8.toNat_ofNat_of_lt' (show _ < 256 by omega), front, if_pos (by omega)]
    rfl
  split
  · have hv : v / 64 * 64 + v % 64 = v := by omega
    refine ⟨_, [_], rfl, ?_⟩
    rw [UInt8.toNat_ofNat_of_lt' (show _ < 256 by omega)]
    refine front_lead (by omega) (lead?_two (by omega) (by omega)) ?_
    simp only [List.length_nil, List.replicate, List.cons_append, List.nil_append]
    rw [follow_cons (by omega) (by omega), follow, hv]
  split
  · obtain ⟨lo, hi, hl, hlo, hhi⟩ := lead?_three (v := v) (by omega) (by omega) (by omega)
    have hv : (v / 4096 * 64 + v / 64 % 64) * 64 + v % 64 = v := by omega
    refine ⟨_, [_, _], rfl, ?_⟩
    rw [UInt8.toNat_ofNat_of_lt' (show _ < 256 by omega)]
    refine front_lead (by omega) hl ?_
    simp only [List.length_cons, List.length_nil, List.replicate, List.cons_append, List.nil_append]
    rw [follow_cons hlo hhi, follow_cons (by omega) (by omega), follow, hv]
  · obtain ⟨lo, hi, hl, hlo, hhi⟩ := lead?_four (v := v) (by omega) (by omega)
    have hv : ((v / 262144 * 64 + v / 4096 % 64) * 64 + v / 64 % 64) * 64 + v % 64 = v := by omega
    refine ⟨_, [_, _, _], rfl, ?_⟩
    rw [UInt8.toNat_ofNat_of_lt' (show _ < 256 by omega)]
    refine front_lead (by omega) hl ?_
    simp only [List.length_cons, List.length_nil, List.replicate, List.cons_append, List.nil_append]
    rw [follow_cons hlo hhi, follow_cons (by omega) (by omega), follow_cons (by omega) (by omega), follow, hv]

theorem decodeFrom_skip (index : Nat) (bytes rest : List UInt8) :
    decodeFrom index bytes.length (bytes ++ rest) = decodeFrom (index + bytes.length) 0 rest := by
  induction bytes generalizing index with
  | nil => rfl
  | cons b bytes ih =>
      rw [List.length_cons, List.cons_append, decodeFrom, ih, Nat.add_assoc, Nat.add_comm 1]

/-- Where a text has been read, what follows it is read as if it stood alone. -/
theorem decodeFrom_encode_append (index : Nat) (t : Text) (rest : List UInt8) :
    decodeFrom index 0 (encode t ++ rest) = (decodeFrom (index + (encode t).length) 0 rest).map (t ++ ·) := by
  induction t generalizing index with
  | nil =>
      change decodeFrom index 0 rest = (decodeFrom index 0 rest).map id
      rw [Except.map_id]
      rfl
  | cons c t ih =>
      obtain ⟨b, bytes, he, hf⟩ := front_encodeChar c (encode t ++ rest)
      have hcons : encode (c :: t) = b :: (bytes ++ encode t) := by
        rw [encode, List.flatMap_cons, he]
        rfl
      have hindex : index + 1 + bytes.length + (encode t).length = index + (encode (c :: t)).length := by
        simp only [hcons, List.length_cons, List.length_append]
        omega
      rw [hcons, List.cons_append, List.append_assoc, decodeFrom, hf, ← hcons]
      dsimp only
      rw [decodeFrom_skip, ih, hindex]
      cases decodeFrom (index + (encode (c :: t)).length) 0 rest <;> rfl

theorem decodeFrom_encode (index : Nat) (t : Text) : decodeFrom index 0 (encode t) = .ok t := by
  have h := decodeFrom_encode_append index t []
  rw [List.append_nil, decodeFrom] at h
  rw [h, Except.map, List.append_nil]

theorem decode_encode (t : Text) : decode (encode t) = .ok t := decodeFrom_encode 0 t

/-! Nothing else is read -/

theorem follow_ok {value seen : Nat} {bounds : List (Nat × Nat)} {bytes : List UInt8} {r : Nat × Nat}
    (h : follow value seen ((lo, hi) :: bounds) bytes = .ok r) :
    ∃ b rest, bytes = b :: rest ∧ lo ≤ b.toNat ∧ b.toNat ≤ hi ∧
      follow (value * 64 + b.toNat % 64) (seen + 1) bounds rest = .ok r := by
  cases bytes with
  | nil => cases h
  | cons b rest =>
      rw [follow] at h
      split at h
      · exact ⟨b, rest, rfl, ‹_ ∧ _›.1, ‹_ ∧ _›.2, h⟩
      · cases h

theorem lead?_ok {b bits more : Nat} (h : lead? b = some (bits, lo, hi, more)) :
    (more = 0 ∧ b = bits + 192 ∧ 2 ≤ bits ∧ bits < 32 ∧ lo = 0x80 ∧ hi = 0xbf) ∨
    (more = 1 ∧ b = bits + 224 ∧ bits < 16 ∧ 0x80 ≤ lo ∧ hi ≤ 0xbf ∧ (bits = 0 → 0xa0 ≤ lo) ∧
      (bits = 0xd → hi ≤ 0x9f)) ∨
    (more = 2 ∧ b = bits + 240 ∧ bits < 5 ∧ 0x80 ≤ lo ∧ hi ≤ 0xbf ∧ (bits = 0 → 0x90 ≤ lo) ∧
      (bits = 4 → hi ≤ 0x8f)) := by
  unfold lead? at h
  repeat' split at h
  all_goals simp only [Option.some.injEq, Prod.mk.injEq, reduceCtorEq] at h
  all_goals omega

theorem front_ok {b more : Nat} {bytes : List UInt8} {c : Char} (h : front b bytes = .ok (c, more)) :
    (b < 0x80 ∧ c = Char.ofNat b ∧ more = 0) ∨
    ∃ bits lo hi k v seen, lead? b = some (bits, lo, hi, k) ∧
      follow bits 1 ((lo, hi) :: List.replicate k (0x80, 0xbf)) bytes = .ok (v, seen) ∧
      c = Char.ofNat v ∧ more = seen - 1 := by
  unfold front at h
  split at h
  · obtain ⟨rfl, rfl⟩ := Prod.mk.inj (Except.ok.inj h)
    exact .inl ⟨‹_›, rfl, rfl⟩
  · split at h
    · cases h
    · rename_i bits lo hi k hlead
      cases hf : follow bits 1 ((lo, hi) :: List.replicate k (0x80, 0xbf)) bytes with
      | error count => simp [hf, bind, Except.bind] at h
      | ok p =>
          simp only [hf, bind, Except.bind, pure, Except.pure, Except.ok.injEq, Prod.mk.injEq] at h
          exact .inr ⟨bits, lo, hi, k, p.1, p.2, hlead, hf, h.1.symm, h.2.symm⟩

theorem val_ofNat (hv : v.isValidChar) : (Char.ofNat v).val.toNat = v := by
  rw [Char.ofNat, dif_pos hv]
  rfl

theorem ofNat_byte {b : UInt8} (hn : n = b.toNat) : UInt8.ofNat n = b := by
  rw [hn, UInt8.ofNat_toNat]

/-- A character is read from its own bytes only. The bounds of the second byte keep the value among those that take
so many bytes. -/
theorem encodeChar_of_front {b : UInt8} {bytes : List UInt8} {c : Char} {more : Nat}
    (h : front b.toNat bytes = .ok (c, more)) : String.utf8EncodeChar c = b :: bytes.take more := by
  obtain ⟨hb, rfl, rfl⟩ | ⟨bits, lo, hi, k, v, seen, hlead, hf, rfl, rfl⟩ := front_ok h
  · rw [String.utf8EncodeChar, val_ofNat (.inl (by omega)), if_pos (by omega), ofNat_byte rfl]
    rfl
  · obtain ⟨b₁, rest, rfl, hlo, hhi, hf⟩ := follow_ok hf
    obtain ⟨rfl, hb, hbits⟩ | ⟨rfl, hb, hbits⟩ | ⟨rfl, hb, hbits⟩ := lead?_ok hlead
    · obtain ⟨rfl, rfl⟩ := Prod.mk.inj (Except.ok.inj hf)
      rw [String.utf8EncodeChar, val_ofNat (.inl (by omega)), if_neg (by omega), if_pos (by omega),
        ofNat_byte (b := b) (by omega), ofNat_byte (b := b₁) (by omega)]
      rfl
    · obtain ⟨b₂, rest, rfl, hlo₂, hhi₂, hf⟩ := follow_ok hf
      obtain ⟨rfl, rfl⟩ := Prod.mk.inj (Except.ok.inj hf)
      have hv : Nat.isValidChar ((bits * 64 + b₁.toNat % 64) * 64 + b₂.toNat % 64) := by
        rw [Nat.isValidChar]
        omega
      rw [String.utf8EncodeChar, val_ofNat hv, if_neg (by omega), if_neg (by omega), if_pos (by omega),
        ofNat_byte (b := b) (by omega), ofNat_byte (b := b₁) (by omega), ofNat_byte (b := b₂) (by omega)]
      rfl
    · obtain ⟨b₂, rest, rfl, hlo₂, hhi₂, hf⟩ := follow_ok hf
      obtain ⟨b₃, rest, rfl, hlo₃, hhi₃, hf⟩ := follow_ok hf
      obtain ⟨rfl, rfl⟩ := Prod.mk.inj (Except.ok.inj hf)
      rw [String.utf8EncodeChar, val_ofNat (.inr (by omega)), if_neg (by omega), if_neg (by omega),
        if_neg (by omega), ofNat_byte (b := b) (by omega), ofNat_byte (b := b₁) (by omega),
        ofNat_byte (b := b₂) (by omega), ofNat_byte (b := b₃) (by omega)]
      rfl

theorem encode_of_decodeFrom {index skip : Nat} {bytes : List UInt8} {t : Text}
    (h : decodeFrom index skip bytes = .ok t) : encode t = bytes.drop skip := by
  induction bytes generalizing index skip t with
  | nil =>
      rw [decodeFrom] at h
      obtain rfl := Except.ok.inj h
      rw [List.drop_nil]
      rfl
  | cons b bytes ih =>
      cases skip with
      | succ skip =>
          rw [decodeFrom] at h
          exact ih h
      | zero =>
          rw [decodeFrom] at h
          cases hf : front b.toNat bytes with
          | error count => simp [hf] at h
          | ok p =>
              obtain ⟨c, more⟩ := p
              cases ht : decodeFrom (index + 1) more bytes with
              | error f => simp [hf, ht, Except.map] at h
              | ok u =>
                  simp only [hf, ht, Except.map, Except.ok.injEq] at h
                  subst h
                  have hc := encodeChar_of_front hf
                  rw [encode, List.flatMap_cons, hc, ← encode, ih ht, List.cons_append, List.take_append_drop]
                  rfl

theorem decode_ok_iff {bytes : List UInt8} {t : Text} : decode bytes = .ok t ↔ bytes = encode t :=
  ⟨fun h => (encode_of_decodeFrom h).symm, fun h => h ▸ decode_encode t⟩

end Utf8

theorem bind_ok_iff {ε α β : Type} {x : Except ε α} {f : α → Except ε β} {b : β} :
    x >>= f = .ok b ↔ ∃ a, x = .ok a ∧ f a = .ok b := by
  cases x with
  | error e => exact ⟨nofun, fun ⟨_, h, _⟩ => nomatch h⟩
  | ok a => exact ⟨fun h => ⟨a, rfl, h⟩, fun ⟨_, h, h'⟩ => Except.ok.inj h ▸ h'⟩

theorem mapError_ok_iff {ε ε' α : Type} {x : Except ε α} {f : ε → ε'} {a : α} :
    x.mapError f = .ok a ↔ x = .ok a := by
  cases x with
  | error e => exact ⟨nofun, nofun⟩
  | ok b => exact ⟨fun h => congrArg Except.ok (Except.ok.inj h), fun h => congrArg Except.ok (Except.ok.inj h)⟩

theorem readText_ok_iff {bytes : List UInt8} {t : Text} : readText bytes = .ok t ↔ bytes = Utf8.encode t :=
  mapError_ok_iff.trans Utf8.decode_ok_iff

theorem Found.text_ok_iff {found : Found} {t : Text} : found.text = .ok t ↔ found = .ok (Utf8.encode t) := by
  cases found with
  | error f => exact ⟨nofun, nofun⟩
  | ok bytes => exact readText_ok_iff.trans (by simp)

end TrackedText
